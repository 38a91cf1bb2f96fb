import StakingGateway.Proofs.DescribedReports

/-!
# Reads that fail

What a caller sees of a reading tool depends on the answers to its reads alone, and in the way that
its report lays down: a read that fails ends the call or leaves zero or null in fields of its own.
-/

namespace StakingGateway.Operation

open Tool Chain Contract Tool.Action

/-! ## Calls that get to their reads -/

section Calls

variable {σ : Type} {chain : Chain (StateM σ)} {schedule : Schedule} {state : σ}
  {context : Context} {args : Json} {preparation : Preparation} {accepted : Args}
  {identifier : String} {network : Network} {answers : Readings}

theorem needs_network (hmem : preparation ∈ preparations) :
    ⟨"network", .text⟩ ∈ preparation.needs := by
  simp only [preparations, List.mem_cons, List.not_mem_nil, or_false] at hmem
  rcases hmem with rfl | rfl | rfl | rfl | rfl | rfl | rfl | rfl | rfl | rfl | rfl | rfl | rfl | rfl
    <;> exact List.mem_cons_self

theorem mainNetwork_of_validate (hvalid : validate lidoStats.params args = .ok accepted)
    (hidentifier : accepted.text "network" = .ok identifier) : identifier = "ethereum" := by
  obtain ⟨hkept, haccepts⟩ := @kept_of_validate lidoStats.params args accepted hvalid
    (param_names lidoStats (by simp [catalogue])) lidoNetworkParam List.mem_cons_self
  have hgiven : givenValue args "network" = none ∨
      givenValue args "network" = some (.string "ethereum") := by
    cases hvalue : givenValue args "network" with
    | none => exact Or.inl rfl
    | some value =>
        obtain ⟨text, rfl⟩ := isText_choice _ value (haccepts value hvalue)
        have htext := haccepts _ hvalue
        simp [lidoNetworkParam, Param.withDefault, Param.optional, ParamKind.accepts] at htext
        exact Or.inr (by rw [htext])
  have hnetwork : accepted.get? "network" = some (.string "ethereum") := by
    refine hkept.trans ?_
    have hname : lidoNetworkParam.name = "network" := rfl
    rw [hname]
    rcases hgiven with hgiven | hgiven <;> rw [hgiven] <;> rfl
  rw [text_eq_ok_iff, Args.text?, hnetwork] at hidentifier
  exact (Option.some.inj hidentifier).symm

theorem token_of_reporting :
    ∀ preparation ∈ preparations, preparation.tool.name ∈ reportingTools.map (·.name) →
      preparation.token = none ∨
        preparation.tool.name = lidoStats.name ∧ preparation.token = some "stETH" := by
  decide +kernel

/-- The only tool among these that needs a token takes no other network than the one that has it. -/
theorem deployed_of_reporting (hmem : preparation ∈ preparations)
    (htool : preparation.tool ∈ reportingTools)
    (hvalid : validate preparation.tool.params args = .ok accepted)
    (hidentifier : accepted.text "network" = .ok identifier)
    (hresolved : Network.resolve? identifier = some network) {symbol : String}
    (hsymbol : preparation.token = some symbol) : liquidToken? network symbol ≠ none := by
  have hlisted : preparation.tool.name ∈ reportingTools.map (·.name) := List.mem_map_of_mem htool
  rcases token_of_reporting preparation hmem hlisted with hnone | ⟨hname, htoken⟩
  · rw [hsymbol] at hnone
    cases hnone
  · have hlido : preparation.tool = lidoStats :=
      eq_of_name_eq (mem_catalogue_of_reporting htool) (by simp [catalogue]) hname
    rw [hlido] at hvalid
    obtain rfl := mainNetwork_of_validate hvalid hidentifier
    have hmain : Network.resolve? "ethereum" = some .ethereum := by decide +kernel
    obtain rfl : Network.ethereum = network := Option.some.inj (hmain.symm.trans hresolved)
    obtain rfl : symbol = "stETH" := Option.some.inj (hsymbol.symm.trans htoken)
    decide +kernel

theorem ready_of_sound (hmem : preparation ∈ preparations)
    (htool : preparation.tool ∈ reportingTools) (hsound : Sound preparation context args)
    (hreached : Reached chain args) :
    ∃ accepted identifier network, Ready chain preparation args accepted identifier network := by
  have hcatalogue := mem_catalogue_of_reporting htool
  cases hvalid : validate preparation.tool.params args with
  | error issues => exact absurd ⟨issues, hvalid⟩ hsound.accepted
  | ok accepted =>
      have hneeds : ∀ need ∈ preparation.needs, need.Met accepted := by
        intro need hneed
        by_contra hunmet
        exact hsound.readable ⟨accepted, hvalid, need, hneed, hunmet⟩
      obtain ⟨identifier, hidentifier⟩ := met_text.mpr (hneeds _ (needs_network hmem))
      obtain ⟨network, hnetwork, hreach⟩ := hreached
      rw [namedNetwork_of_accepted hcatalogue hvalid hidentifier] at hnetwork
      exact ⟨accepted, identifier, network, hvalid, hneeds, hidentifier,
        openReader_of_reach hnetwork hreach,
        fun symbol => deployed_of_reporting hmem htool hvalid hidentifier hnetwork⟩

theorem Ready.transfer {τ : Type} {other : Chain (StateM τ)} (hmem : preparation ∈ preparations)
    (hready : Ready chain preparation args accepted identifier network)
    (hreached : Reached other args) :
    Ready other preparation args accepted identifier network := by
  have hcatalogue := mem_catalogue_of_preparation hmem
  obtain ⟨named, hnamed, hreach⟩ := hreached
  rw [namedNetwork_of_accepted hcatalogue hready.valid hready.named,
    openReader_eq_ok hready.opened] at hnamed
  obtain rfl : network = named := Option.some.inj hnamed
  exact { hready with opened := openReader_of_reach (openReader_eq_ok hready.opened) hreach }

/-! ## Calls and the answers to their reads -/

def Readings.ofCall (answers : Readings) (_ : Network) (call : Call) : ReadAnswer :=
  answers call.function

/-- Over some chain that can be reached, and with these answers to its reads, a call has this
outcome. -/
inductive Observed (context : Context) (name : String) (args : Json) (answers : Readings) :
    Except String Envelope → Prop
  | call {σ : Type} (chain : Chain (StateM σ)) (schedule : Schedule) (state : σ)
      (hreached : Reached chain args) (hschedule : schedule.Complete)
      (hanswers : AnsweredBy answers.ofCall (callOver chain schedule state context name args).2) :
      Observed context name args answers (callOver chain schedule state context name args).1

/-- Any answers can be given. -/
theorem observed_answering (answers : Readings) (name : String) (hresolved : ¬ Unresolved args) :
    Observed context name args answers
      (callOver (answering answers) inOrder () context name args).1 := by
  obtain ⟨named, hnamed⟩ := Option.ne_none_iff_exists'.mp hresolved
  refine .call (answering answers) inOrder () ⟨named, hnamed, rfl⟩ complete_inOrder ?_
  intro place call given hgiven
  obtain ⟨_, hread⟩ :=
    gives_of_mem_callOver (answering answers) inOrder () context name args _ hgiven
  exact hread.symm

theorem Observed.gathered {outcome : Except String Envelope} {shape : Shape}
    (h : Observed context preparation.tool.name args answers outcome)
    (hmem : preparation ∈ preparations)
    (hready : Ready chain preparation args accepted identifier network)
    (hshape : ShapeOf accepted identifier network preparation.tool shape) :
    ∃ gathered, shape.Gathers answers gathered ∧
      outcome = Envelope.ofResult preparation.tool.operation (shape.result gathered) := by
  cases h with
  | call other schedule start hreached hschedule hanswers =>
      have hready := hready.transfer hmem hreached
      rw [callOver_of_shape hmem hready hshape schedule start] at hanswers ⊢
      refine ⟨_, ?_, rfl⟩
      rcases (shape.gathering hschedule start).of_answeredBy hanswers.of_cons with
        ⟨hall, hcalm⟩ | ⟨call, hcall, hstopped, hdecisive⟩
      · rw [hall]
        exact .all hcalm
      · rw [hstopped]
        exact .stopped hcall hdecisive

/-- A tool fails for want of what it cannot do without and for nothing else. Its report shows what
was answered, with zero or null for the rest, and the answer to one function moves no field that is
not computed from it. -/
theorem reports_follow_reads (hmem : preparation ∈ preparations)
    (htool : preparation.tool ∈ reportingTools) (hsound : Sound preparation context args)
    (hresolved : ¬ Unresolved args) :
    ∃ report ∈ readReports, report.tool = preparation.tool ∧
      (∀ answers, ∃ outcome, Observed context preparation.tool.name args answers outcome) ∧
      (∀ answers outcome, Observed context preparation.tool.name args answers outcome →
        Follows report answers outcome) ∧
      ∀ function answers others data other, (∀ f ≠ function, others f = answers f) →
        Observed context preparation.tool.name args answers (.ok (.ok data)) →
        Observed context preparation.tool.name args others (.ok (.ok other)) →
        report.DiffersBy function data other := by
  obtain ⟨named, hnamed⟩ := Option.ne_none_iff_exists'.mp hresolved
  have hreached : Reached (answering fun _ => .ok []) args := ⟨named, hnamed, rfl⟩
  obtain ⟨accepted, identifier, network, hready⟩ := ready_of_sound hmem htool hsound hreached
  obtain ⟨shape, hshape⟩ := exists_shape hmem (List.mem_map_of_mem htool) hready
  obtain ⟨report, hreport, hreportTool, Made, hdescribes⟩ := hshape.describes
  refine ⟨report, hreport, hreportTool, ?_, ?_, ?_⟩
  · exact fun answers => ⟨_, observed_answering answers _ hresolved⟩
  · intro answers outcome hobserved
    obtain ⟨gathered, hgathers, rfl⟩ := hobserved.gathered hmem hready hshape
    exact hdescribes.follows (hshape.settled gathered) hgathers
  · intro function answers others data other hsame hdata hother
    obtain ⟨gathered, hgathers, hresult⟩ := hdata.gathered hmem hready hshape
    obtain ⟨gatheredOther, hgathersOther, hresultOther⟩ := hother.gathered hmem hready hshape
    obtain ⟨-, hmade⟩ := hdescribes.made hgathers (Envelope.eq_ok_of_ofResult hresult.symm)
    obtain ⟨-, hmadeOther⟩ :=
      hdescribes.made hgathersOther (Envelope.eq_ok_of_ofResult hresultOther.symm)
    exact hdescribes.differs hsame hmade hmadeOther

/-- A farm that does not know the function for pending rewards, and one that does. -/
theorem reports_follow_reads_farm :
    let args := Json.object [
      ("farmContract", .string "0x00000000000000000000000000000000000000aa"),
      ("network", .string "arbitrum"), ("poolId", .nat 3),
      ("userAddress", .string "0x00000000000000000000000000000000000000bb")]
    let preparation : Preparation := {
      tool := farmingPosition
      needs := [⟨"network", .text⟩, ⟨"farmContract", .address⟩, ⟨"poolId", .natural⟩,
        ⟨"userAddress", .address⟩] }
    let answers : Readings := fun
      | "userInfo" => .ok [.uint 1500000000000000000, .uint 7]
      | "poolInfo" => .ok [.address ⟨0xcc⟩, .uint 40]
      | function => .error (.callFailed function "reverted")
    let others := Function.update answers "pendingReward" (.ok [.uint 9])
    let outcome (answers : Readings) :=
      (callOver (answering answers) inOrder () {} "get_farming_position" args).1
    let pending (answers : Readings) :=
      (((outcome answers).toOption.bind (·.data)).bind
        (·.at? ["position", "pendingRewardsRaw"])).bind Json.string?
    preparation ∈ preparations ∧ preparation.tool ∈ reportingTools ∧
      Sound preparation {} args ∧ ¬ Unresolved args ∧
      pending answers = some "0" ∧ pending others = some "9" ∧
      ∃ report ∈ readReports, report.tool = farmingPosition ∧
        Follows report answers (outcome answers) ∧
        ∀ data other, outcome answers = .ok (.ok data) → outcome others = .ok (.ok other) →
          report.DiffersBy "pendingReward" data other := by
  intro args preparation answers others outcome pending
  have hmem : preparation ∈ preparations := by simp [preparations, preparation]
  have htool : preparation.tool ∈ reportingTools := by simp [reportingTools, preparation]
  have hvalid : validate farmingPosition.params args = .ok ⟨[
      ("farmContract", .string "0x00000000000000000000000000000000000000aa"),
      ("network", .string "arbitrum"), ("poolId", .nat 3),
      ("userAddress", .string "0x00000000000000000000000000000000000000bb")]⟩ := rfl
  have hfarm := Option.isSome_iff_exists.mp
    (show (Address.ofText? "0x00000000000000000000000000000000000000aa").isSome by decide +kernel)
  have huser := Option.isSome_iff_exists.mp
    (show (Address.ofText? "0x00000000000000000000000000000000000000bb").isSome by decide +kernel)
  have hsound : Sound preparation {} args := by
    refine sound_of_keyed hvalid ?_ fun hkeyless => absurd hkeyless.1 (by decide)
    simp only [preparation, List.forall_mem_cons]
    refine ⟨⟨_, rfl⟩, ⟨_, hfarm.choose, rfl, hfarm.choose_spec⟩, ⟨3, rfl⟩,
      ⟨_, huser.choose, rfl, huser.choose_spec⟩, by simp⟩
  have hresolved : ¬ Unresolved args :=
    Option.isSome_iff_ne_none.mp (show (namedNetwork args).isSome by decide +kernel)
  obtain ⟨report, hreport, hreportTool, -, hfollows, hdiffers⟩ :=
    reports_follow_reads hmem htool hsound hresolved
  refine ⟨hmem, htool, hsound, hresolved, by decide +kernel, by decide +kernel, report, hreport,
    hreportTool, hfollows answers _ (observed_answering answers _ hresolved), ?_⟩
  intro data other hdata hother
  have hobserved (answers : Readings) :
      Observed {} "get_farming_position" args answers (outcome answers) :=
    observed_answering answers _ hresolved
  have hfirst := hobserved answers
  have hsecond := hobserved others
  rw [hdata] at hfirst
  rw [hother] at hsecond
  refine hdiffers "pendingReward" answers others data other ?_ hfirst hsecond
  exact fun f hf => Function.update_of_ne hf _ _

end Calls

end StakingGateway.Operation
