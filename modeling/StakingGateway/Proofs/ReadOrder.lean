import StakingGateway.Proofs.ReadReports

/-!
# The order of reads

A reading tool is called twice over the same chain, and its reads are answered in two different
orders. Where the answer to a read does not depend on the other reads, both calls gather the same
answers, or both are stopped by an answer that is decisive, though perhaps not by the same one.
-/

namespace StakingGateway.Operation

open Tool Chain Contract Tool.Action

/-! ## Calls of reading tools -/

def reportingTools : List Tool := [stakingPosition, stakingRate, farmingPosition, lidoStats]

theorem mem_catalogue_of_reporting {tool : Tool} (h : tool ∈ reportingTools) :
    tool ∈ catalogue := by
  simp only [reportingTools, List.mem_cons, List.not_mem_nil, or_false] at h
  simp only [catalogue, List.mem_cons]
  tauto

/-- The arguments, the network and the token of a call are in order. -/
structure Ready {m : Type → Type} (chain : Chain m) (preparation : Preparation) (args : Json)
    (accepted : Args) (identifier : String) (network : Network) : Prop where
  valid : validate preparation.tool.params args = .ok accepted
  needs : ∀ need ∈ preparation.needs, need.Met accepted
  named : accepted.text "network" = .ok identifier
  opened : chain.openReader identifier = .ok network
  token : ∀ symbol, preparation.token = some symbol → liquidToken? network symbol ≠ none

variable {σ : Type} {chain : Chain (StateM σ)} {schedule : Schedule} {state : σ}
  {context : Context} {args : Json} {preparation : Preparation} {accepted : Args}
  {identifier : String} {network : Network}

/-- A call fails, whatever is answered to it, or all that comes before its first contract is in
order. -/
theorem ready_or_fails (hmem : preparation ∈ preparations) :
    (∃ accepted identifier network,
        Ready chain preparation args accepted identifier network) ∨
      ∀ schedule state, ∃ kind,
        FailsAs kind (callOver chain schedule state context preparation.tool.name args).1 := by
  by_cases hready : ∃ accepted identifier network,
    Ready chain preparation args accepted identifier network
  · exact Or.inl hready
  refine Or.inr fun schedule state => ?_
  have htool := mem_catalogue_of_preparation hmem
  have hgives := gives_of_mem_callOver chain schedule state context preparation.tool.name args
  rcases callOver_of_mem chain schedule state context args htool with
    ⟨issues, -, houtcome, -⟩ | ⟨accepted, result, hvalid, hcourse, houtcome⟩
  · rw [houtcome]
    exact ⟨_, failsAs_refused _ _⟩
  rw [houtcome]
  generalize (callOver chain schedule state context preparation.tool.name args).2 = events
    at hgives hcourse
  cases prepares_of_mem hmem result events hcourse with
  | unreadable _ _ => exact ⟨_, failsAs_refused _ _⟩
  | keyless _ _ _ => exact ⟨_, failsAs_refused _ _⟩
  | ready hneeds hkeyed hopening =>
      cases hopening with
      | closed _ => exact ⟨_, failsAs_refused _ (.chain _)⟩
      | locked _ _ => exact ⟨_, failsAs_refused _ (.chain _)⟩
      | missing _ _ _ _ => exact ⟨_, failsAs_refused _ _⟩
      | @opened identifier network clients after _ hidentifier hclients htoken =>
          obtain ⟨hreader, -⟩ :=
            hclients.resolved fun event hevent => hgives event (List.mem_append_left after hevent)
          exact absurd ⟨accepted, identifier, network, hvalid, hneeds, hidentifier, hreader, htoken⟩
            hready

theorem exists_shape (hmem : preparation ∈ preparations)
    (hname : preparation.tool.name ∈ reportingTools.map (·.name))
    (hready : Ready chain preparation args accepted identifier network) :
    ∃ shape, ShapeOf accepted identifier network preparation.tool shape := by
  have hneeds := hready.needs
  have htoken := hready.token
  simp only [preparations, List.mem_cons, List.not_mem_nil, or_false] at hmem
  rcases hmem with rfl | rfl | rfl | rfl | rfl | rfl | rfl | rfl | rfl | rfl | rfl | rfl | rfl | rfl
  case inl =>
    obtain ⟨contract, hcontract⟩ := met_address.mpr (hneeds ⟨"stakingContract", .address⟩ (by simp))
    obtain ⟨user, huser⟩ := met_address.mpr (hneeds ⟨"userAddress", .address⟩ (by simp))
    obtain ⟨decimals, hdecimals⟩ := met_displayDecimals.mpr (hneeds ⟨"decimals", .places⟩ (by simp))
    exact ⟨_, .stakingPosition hcontract huser hdecimals⟩
  case inr.inr.inr.inr.inl =>
    obtain ⟨contract, hcontract⟩ := met_address.mpr (hneeds ⟨"stakingContract", .address⟩ (by simp))
    exact ⟨_, .stakingRate hcontract⟩
  case inr.inr.inr.inr.inr.inr.inr.inr.inr.inl =>
    cases hsteth : liquidToken? network "stETH" with
    | none => exact absurd hsteth (htoken "stETH" rfl)
    | some steth => exact ⟨_, .lidoStats hsteth⟩
  case inr.inr.inr.inr.inr.inr.inr.inr.inr.inr.inr.inr.inr =>
    obtain ⟨farm, hfarm⟩ := met_address.mpr (hneeds ⟨"farmContract", .address⟩ (by simp))
    obtain ⟨pool, hpool⟩ := met_natural.mpr (hneeds ⟨"poolId", .natural⟩ (by simp))
    obtain ⟨user, huser⟩ := met_address.mpr (hneeds ⟨"userAddress", .address⟩ (by simp))
    exact ⟨_, .farmingPosition hfarm hpool huser⟩
  all_goals exact absurd hname (by decide)

theorem callOver_of_yields {tool : Tool} (htool : tool ∈ catalogue)
    (hvalid : validate tool.params args = .ok accepted) {result : Except Fault Json}
    {events : List Event}
    (h : Yields chain schedule state (tool.run context accepted) result events) :
    callOver chain schedule state context tool.name args =
      (Envelope.ofResult tool.operation result, events) := by
  have hget := get?_of_mem htool
  have hinvoke : registry.invoke context tool.name args = tool.run context accepted := by
    unfold Registry.invoke
    simp only [hget, hvalid]
  have hoperation : registry.operationOf tool.name = tool.operation := by
    rw [Registry.operationOf, hget]
  have hcall : registry.call context tool.name args =
      Dialogue.bind (tool.run context accepted).run fun result =>
        .done (Envelope.ofResult tool.operation result) := by
    unfold Registry.call
    rw [hinvoke, hoperation]
    refine congrArg (Dialogue.bind _) (funext fun result => ?_)
    rcases result with (cause | reason) | data <;> rfl
  unfold callOver
  unfold Yields Chain.run at h
  rw [hcall, Chain.run, Dialogue.hold_bind]
  simp only [bind, StateT.bind]
  generalize Dialogue.hold (chain.respond schedule) (tool.run context accepted).run state = outcome
    at h ⊢
  obtain ⟨⟨given, noted⟩, after⟩ := outcome
  cases h
  exact congrArg (Prod.mk _) (List.append_nil events)

def Shape.gather (shape : Shape) (chain : Chain (StateM σ)) (schedule : Schedule) (state : σ)
    (network : Network) : Gathered × List Event :=
  (chain.readInOrder network shape.calls shape.decisive (schedule shape.calls.length) [] state).1

theorem callOver_of_shape {shape : Shape} (hmem : preparation ∈ preparations)
    (hready : Ready chain preparation args accepted identifier network)
    (hshape : ShapeOf accepted identifier network preparation.tool shape) (schedule : Schedule)
    (state : σ) :
    callOver chain schedule state context preparation.tool.name args =
      (Envelope.ofResult preparation.tool.operation
        (shape.result (shape.gather chain schedule state network).1),
        .reader identifier (.ok network) :: (shape.gather chain schedule state network).2) := by
  have htool := mem_catalogue_of_preparation hmem
  exact callOver_of_yields htool hready.valid
    (yields_of_shape hshape hready.named hready.opened rfl)

theorem Shape.gathering (shape : Shape) (hschedule : schedule.Complete) (state : σ) :
    Gathering network shape.calls shape.decisive (shape.gather chain schedule state network).1
      (shape.gather chain schedule state network).2 :=
  chain.gathering_readInOrder (hschedule shape.calls.length) state

/-! ## The end of a call -/

theorem settled_of_mapError (outcome : Except Chain.Error Json) :
    (∃ data, outcome.mapError Fault.ofChain = .ok data) ∨
      ∃ cause, outcome.mapError Fault.ofChain = .error (.refused cause) := by
  cases outcome with
  | error e => exact Or.inr ⟨_, rfl⟩
  | ok data => exact Or.inl ⟨_, rfl⟩

theorem exists_calculated {outcome : Except Amount.Overflow String} {report : String → Json}
    (h : ∃ text, outcome = .ok text) : ∃ data, calculated outcome report = .ok data := by
  obtain ⟨text, rfl⟩ := h
  exact ⟨_, rfl⟩

theorem exists_share (staked total : Uint256) :
    ∃ text, Amount.percent staked total Amount.shareDecimals = .ok text := by
  obtain ⟨text, htext, -⟩ :=
    Amount.percent_of_words staked total (show Amount.shareDecimals ≤ 74 by decide)
  exact ⟨text, htext⟩

/-- No calculation of a report leaves its word, so a call ends with data or with a reason. -/
theorem ShapeOf.settled {tool : Tool} {shape : Shape}
    (h : ShapeOf accepted identifier network tool shape) (gathered : Gathered) :
    (∃ data, shape.result gathered = .ok data) ∨
      ∃ cause, shape.result gathered = .error (.refused cause) := by
  cases h with
  | stakingPosition _ _ _ => exact Or.inl (exists_calculated (exists_share _ _))
  | stakingRate _ => exact Or.inl (exists_calculated (Amount.estimatedRate_of_words _ _))
  | farmingPosition _ _ _ => exact settled_of_mapError _
  | lidoStats _ => exact settled_of_mapError _

theorem refused_of_decisive {steth : Address} {wsteth : Option Address} {call : Call}
    {answer : ReadAnswer}
    (hdecisive : (lidoShape identifier steth wsteth).decisive call answer = true) :
    ∃ cause, (lidoShape identifier steth wsteth).result (.stopped call answer) =
      .error (.refused cause) := by
  cases hnumber : uintOf call answer with
  | ok number => simp [lidoShape, hnumber, Except.isOk, Except.toBool] at hdecisive
  | error e =>
      refine ⟨.chain e, ?_⟩
      simp only [lidoShape, numbersOf, hnumber]
      rfl

theorem ShapeOf.refused_of_decisive {tool : Tool} {shape : Shape}
    (h : ShapeOf accepted identifier network tool shape) {call : Call} {answer : ReadAnswer}
    (hdecisive : shape.decisive call answer = true) :
    ∃ cause, shape.result (.stopped call answer) = .error (.refused cause) := by
  cases h with
  | lidoStats _ => exact Operation.refused_of_decisive hdecisive
  | _ => cases hdecisive

/-- Two calls succeed with the same data, or both fail. -/
inductive SameOutcome (first second : Except String Envelope) : Prop
  | success (data : Json) (hfirst : first = .ok (.ok data)) (hsecond : second = .ok (.ok data))
  | failure (hfirst : ∃ kind, FailsAs kind first) (hsecond : ∃ kind, FailsAs kind second)

theorem sameOutcome_of_refused {firstLabel secondLabel : String}
    {first second : Except Fault Json} (hfirst : ∃ cause, first = .error (.refused cause))
    (hsecond : ∃ cause, second = .error (.refused cause)) :
    SameOutcome (Envelope.ofResult firstLabel first) (Envelope.ofResult secondLabel second) := by
  obtain ⟨cause, rfl⟩ := hfirst
  obtain ⟨other, rfl⟩ := hsecond
  exact .failure ⟨_, failsAs_refused firstLabel cause⟩ ⟨_, failsAs_refused secondLabel other⟩

theorem ShapeOf.sameOutcome {tool : Tool} {shape : Shape}
    (h : ShapeOf accepted identifier network tool shape) (label : String)
    {answer : Network → Call → ReadAnswer} {first second : Gathered}
    {firstEvents secondEvents : List Event}
    (hfirst : Gathering network shape.calls shape.decisive first firstEvents)
    (hsecond : Gathering network shape.calls shape.decisive second secondEvents)
    (hfirstAnswer : AnsweredBy answer firstEvents)
    (hsecondAnswer : AnsweredBy answer secondEvents) :
    SameOutcome (Envelope.ofResult label (shape.result first))
      (Envelope.ofResult label (shape.result second)) := by
  rcases hfirst.of_answeredBy hfirstAnswer with ⟨rfl, hcalm⟩ | ⟨call, hcall, rfl, hstops⟩
  · rcases hsecond.of_answeredBy hsecondAnswer with ⟨rfl, -⟩ | ⟨other, hother, rfl, hstops⟩
    · have hsettled := h.settled (.all (shape.calls.map (answer network)))
      rcases hsettled with ⟨data, hdata⟩ | ⟨cause, hcause⟩
      · rw [hdata]
        exact .success data rfl rfl
      · exact sameOutcome_of_refused ⟨cause, hcause⟩ ⟨cause, hcause⟩
    · -- What stops one of the calls would have stopped the other.
      rw [hcalm other hother] at hstops
      cases hstops
  · rcases hsecond.of_answeredBy hsecondAnswer with ⟨rfl, hcalm⟩ | ⟨other, -, rfl, hotherStops⟩
    · rw [hcalm call hcall] at hstops
      cases hstops
    · exact sameOutcome_of_refused (h.refused_of_decisive hstops)
        (h.refused_of_decisive hotherStops)

/-- The order in which reads are answered makes no difference to what the caller is told, except
for the reason of a failure. -/
theorem order_of_reads_irrelevant {tool : Tool} (htool : tool ∈ reportingTools)
    (hsteady : chain.Steady state) {first second : Schedule} (hfirst : first.Complete)
    (hsecond : second.Complete) :
    SameOutcome (callOver chain first state context tool.name args).1
      (callOver chain second state context tool.name args).1 := by
  obtain ⟨preparation, hmem, rfl⟩ := exists_preparation (mem_catalogue_of_reporting htool)
  rcases @ready_or_fails _ chain context args _ hmem with
    ⟨accepted, identifier, network, hready⟩ | hfails
  · have hname : preparation.tool.name ∈ reportingTools.map (·.name) := List.mem_map_of_mem htool
    obtain ⟨shape, hshape⟩ := exists_shape hmem hname hready
    rw [callOver_of_shape hmem hready hshape first state,
      callOver_of_shape hmem hready hshape second state]
    have hanswered (schedule : Schedule) :
        AnsweredBy (fun network call => (chain.read network call state).1)
          (shape.gather chain schedule state network).2 :=
      Steady.answeredBy chain hsteady _ [] .start
    exact hshape.sameOutcome _ (shape.gathering hfirst state) (shape.gathering hsecond state)
      (hanswered first) (hanswered second)
  · exact .failure (hfails first state) (hfails second state)

/-- Two of three reads fail. Which of them ends the call is a matter of order. -/
theorem order_of_reads_irrelevant_lastFirst :
    let chain := answering fun
      | "getTotalPooledEther" => .error (.callFailed "getTotalPooledEther" "no answer")
      | "getTotalShares" => .ok [.bool true]
      | _ => .ok [.uint 1]
    let outcome (schedule : Schedule) :=
      (callOver chain schedule () {} "get_lido_stats" .null).1
    let kind (schedule : Schedule) :=
      ((outcome schedule).toOption.bind (·.error)).map (·.kind)
    lidoStats ∈ reportingTools ∧ chain.Steady () ∧ Schedule.Complete inOrder ∧
      Schedule.Complete lastFirst ∧ kind inOrder = some "rpc" ∧ kind lastFirst = some "abi" ∧
      SameOutcome (outcome inOrder) (outcome lastFirst) := by
  have htool : lidoStats ∈ reportingTools := by simp [reportingTools]
  refine ⟨htool, steady_answering _ (), complete_inOrder, complete_lastFirst, by decide +kernel,
    by decide +kernel, ?_⟩
  exact order_of_reads_irrelevant htool (steady_answering _ ()) complete_inOrder complete_lastFirst

end StakingGateway.Operation
