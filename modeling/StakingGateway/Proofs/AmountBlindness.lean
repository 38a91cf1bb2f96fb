import StakingGateway.Proofs.AcceptedReadings
import StakingGateway.Proofs.CarriedAmount
import StakingGateway.Proofs.ChangedField
import StakingGateway.Proofs.CrashFree
import StakingGateway.Proofs.ParallelRuns
import StakingGateway.Proofs.Preflight

/-!
# Amounts steer nothing

Two calls of a signing tool that differ in the amount alone take the same course, as far as a chain
goes that does not look at amounts. Each tool has one lemma, on the accepted arguments: its two runs
are in step, and their answers agree in all fields but those that report the amount.
-/

namespace StakingGateway

namespace Tool

/-! ## Arguments that agree in all fields but one -/

def Args.AgreeBut (name : String) (left right : Args) : Prop :=
  ∀ field ≠ name, left.get? field = right.get? field

section Readings

variable {left right : Args} {field : String} (h : left.get? field = right.get? field)

include h

theorem Args.text?_congr : left.text? field = right.text? field := by
  rw [text?, text?, h]

theorem Args.text_congr : left.text field = right.text field := by
  rw [text, text, text?_congr h]

theorem Args.natural_congr : left.natural field = right.natural field := by
  rw [natural, natural, natural?, natural?, h]

theorem Args.address_congr : left.address field = right.address field := by
  rw [address, address, text_congr h]

theorem Args.address?_congr : left.address? field = right.address? field := by
  rw [address?, address?, text?_congr h, address_congr h]

end Readings

theorem Context.signingKey_congr {left right : Args} (context : Context)
    (h : left.get? Args.keyField = right.get? Args.keyField) :
    context.signingKey left = context.signingKey right := by
  rw [signingKey, signingKey, Args.text?_congr h]

end Tool

namespace Operation

open Tool Chain Contract Action

theorem referralArg_congr {left right : Args}
    (h : left.get? "referral" = right.get? "referral") : referralArg left = referralArg right := by
  rw [referralArg, referralArg, Args.address?_congr h]

def AlikeBut (fields : List String) (left right : Json) : Prop :=
  ∀ key ∉ fields, left.get? key = right.get? key

theorem lookup_filter_notMem {names : List String} {key : String} (h : key ∉ names)
    (fields : List (String × Json)) :
    Json.lookup key (fields.filter (·.1 ∉ names)) = Json.lookup key fields := by
  induction fields with
  | nil => rfl
  | cons field rest ih =>
      by_cases hname : field.1 ∈ names
      · have hne : field.1 ≠ key := fun heq => h (heq ▸ hname)
        rw [List.filter_cons_of_neg (by simpa using hname), ih, Json.lookup, if_neg hne,
          Option.or_none]
      · rw [List.filter_cons_of_pos (by simpa using hname), Json.lookup, Json.lookup, ih]

theorem alikeBut_obj {names : List String} {left right : List (String × Json)}
    (h : left.filter (·.1 ∉ names) = right.filter (·.1 ∉ names)) :
    AlikeBut names (.obj left) (.obj right) := by
  intro key hkey
  rw [Json.get?_obj, Json.get?_obj, ← lookup_filter_notMem hkey, h, lookup_filter_notMem hkey]

def AmountRead (kind : ParamKind) (args : Args) (amount : Uint256) : Prop :=
  match kind with
  | .wei => args.wei "amount" = .ok amount
  | .decimal => args.units "amount" Amount.etherDecimals = .ok amount
  | _ => False

/-- Runs of the tool that differ in the amount are in step, and in their answers only these fields
differ. -/
def Unsteered (tool : Tool) (kind : ParamKind) (fields : List String) : Prop :=
  ∀ context left right first second, left.AgreeBut "amount" right →
    AmountRead kind left first → AmountRead kind right second →
    InStep (AlikeBut fields) (tool.run context left) (tool.run context right)

/-! ## The tools -/

theorem inStep_clients {γ : Type} {R : γ → γ → Prop} {left right : Args} (context : Context)
    (hothers : left.AgreeBut "amount" right) (identifier : String)
    {f g : Network → Account → Action γ}
    (h : ∀ network account, InStep R (f network account) (g network account)) :
    InStep R
      (do
        let key ← keyArg context left
        let network ← Action.reader identifier
        let account ← Action.account key identifier
        f network account)
      (do
        let key ← keyArg context right
        let network ← Action.reader identifier
        let account ← Action.account key identifier
        g network account) := by
  refine inStep_argument (context.signingKey_congr (hothers _ (by decide))) fun key => ?_
  exact inStep_step fun network => inStep_step fun account => h network account

theorem unsteered_stakeTokens : Unsteered stakeTokens .wei ["amount", "amountFormatted"] := by
  intro context left right first second hothers hleft hright
  refine inStep_argument (Args.text_congr (hothers _ (by decide))) fun identifier => ?_
  refine inStep_argument (Args.address_congr (hothers _ (by decide))) fun contract => ?_
  refine inStep_given hleft hright ?_
  refine inStep_clients context hothers identifier fun network account => ?_
  refine inStep_next (inStep_submitAndConfirm account rfl) fun receipt => ?_
  exact inStep_pure (alikeBut_obj (by simp))

theorem unsteered_unstakeTokens : Unsteered unstakeTokens .wei ["amount"] := by
  intro context left right first second hothers hleft hright
  refine inStep_argument (Args.text_congr (hothers _ (by decide))) fun identifier => ?_
  refine inStep_argument (Args.address_congr (hothers _ (by decide))) fun contract => ?_
  refine inStep_given hleft hright ?_
  refine inStep_clients context hothers identifier fun network account => ?_
  have hunstake : InStep Eq
      (submit account (stakingCall contract "unstake" [.uint first]))
      (submit account (stakingCall contract "unstake" [.uint second])) :=
    inStep_submit account rfl
  -- The second attempt takes no amount, so it is one and the same for both.
  refine inStep_next (inStep_withFallback hunstake _ _ _) fun sent => ?_
  exact inStep_step fun receipt => inStep_pure (alikeBut_obj (by simp))

theorem unsteered_stakeEther : Unsteered stakeEther .decimal ["ethStaked"] := by
  intro context left right first second hothers hleft hright
  refine inStep_argument (Args.text_congr (hothers _ (by decide))) fun identifier => ?_
  refine inStep_given hleft hright ?_
  refine inStep_argument (referralArg_congr (hothers _ (by decide))) fun referral => ?_
  refine inStep_clients context hothers identifier fun network account => ?_
  refine inStep_step fun steth => inStep_step fun before => ?_
  refine inStep_next (inStep_submitAndConfirm account rfl) fun receipt => ?_
  exact inStep_step fun after => inStep_pure (alikeBut_obj (by simp))

theorem unsteered_wrapSteth : Unsteered wrapSteth .decimal ["stETHWrapped"] := by
  intro context left right first second hothers hleft hright
  refine inStep_argument (Args.text_congr (hothers _ (by decide))) fun identifier => ?_
  refine inStep_given hleft hright ?_
  refine inStep_clients context hothers identifier fun network account => ?_
  refine inStep_step fun wsteth => ?_
  have happroval : InStep Eq
      ((liquidToken? network "stETH").mapM fun steth => approve account steth wsteth first)
      ((liquidToken? network "stETH").mapM fun steth => approve account steth wsteth second) := by
    cases liquidToken? network "stETH" with
    | none => exact inStep_refl _
    | some steth =>
        rw [Option.mapM_some, Option.mapM_some, map_eq_pure_bind, map_eq_pure_bind]
        exact inStep_next (inStep_approve account steth wsteth first second) fun _ => inStep_refl _
  refine inStep_next happroval fun approval => ?_
  refine inStep_next (inStep_submitAndConfirm account rfl) fun receipt => ?_
  refine inStep_next (inStep_readUintOrZero network rfl) fun expected => ?_
  exact inStep_pure (alikeBut_obj (by simp))

theorem unsteered_unwrapWsteth : Unsteered unwrapWsteth .decimal ["wstETHUnwrapped"] := by
  intro context left right first second hothers hleft hright
  refine inStep_argument (Args.text_congr (hothers _ (by decide))) fun identifier => ?_
  refine inStep_given hleft hright ?_
  refine inStep_clients context hothers identifier fun network account => ?_
  refine inStep_step fun wsteth => ?_
  refine inStep_next (inStep_readUint network rfl) fun expected => ?_
  refine inStep_next (inStep_submitAndConfirm account rfl) fun receipt => ?_
  exact inStep_pure (alikeBut_obj (by simp))

theorem unsteered_stakePairTokens : Unsteered stakePairTokens .decimal ["amountStaked"] := by
  intro context left right first second hothers hleft hright
  refine inStep_argument (Args.text_congr (hothers _ (by decide))) fun identifier => ?_
  refine inStep_argument (Args.address_congr (hothers _ (by decide))) fun farm => ?_
  refine inStep_argument (Args.natural_congr (hothers _ (by decide))) fun pool => ?_
  refine inStep_given hleft hright ?_
  refine inStep_clients context hothers identifier fun network account => ?_
  refine inStep_step fun info => inStep_step fun pairToken => ?_
  refine inStep_next (inStep_approve account pairToken farm first second) fun approval => ?_
  refine inStep_next (inStep_submitAndConfirm account rfl) fun receipt => ?_
  exact inStep_pure (alikeBut_obj (by simp))

theorem unsteered_withdrawPairTokens :
    Unsteered withdrawPairTokens .decimal ["amountWithdrawn"] := by
  intro context left right first second hothers hleft hright
  refine inStep_argument (Args.text_congr (hothers _ (by decide))) fun identifier => ?_
  refine inStep_argument (Args.address_congr (hothers _ (by decide))) fun farm => ?_
  refine inStep_argument (Args.natural_congr (hothers _ (by decide))) fun pool => ?_
  refine inStep_given hleft hright ?_
  refine inStep_clients context hothers identifier fun network account => ?_
  refine inStep_next (inStep_submitAndConfirm account rfl) fun receipt => ?_
  exact inStep_pure (alikeBut_obj (by simp))

/-! ## Over a chain -/

/-- A text that is accepted for an amount of this kind and that the tool can convert. -/
inductive Convertible : ParamKind → String → Prop
  | wei {text : String} {amount : Uint256} (h : Amount.parseWei text = .ok amount) :
      Convertible .wei text
  | decimal {text : String} {amount : Uint256} (haccepted : ParamKind.isDecimal text = true)
      (h : Amount.parseUnits text Amount.etherDecimals = .ok amount) : Convertible .decimal text

theorem Convertible.accepts {kind : ParamKind} {text : String} (h : Convertible kind text) :
    kind.accepts (.string text) = true := by
  cases h with
  | wei h => rw [ParamKind.accepts, h]; rfl
  | decimal haccepted => exact haccepted

theorem Convertible.exists_read {kind : ParamKind} {text : String} (h : Convertible kind text)
    {args : Args} (hget : args.get? "amount" = some (.string text)) :
    ∃ amount, AmountRead kind args amount := by
  have htext := text?_of_get? hget
  cases h with
  | wei h => exact ⟨_, read_eq_ok_iff.mpr ⟨text, htext, h⟩⟩
  | decimal _ h => exact ⟨_, read_eq_ok_iff.mpr ⟨text, htext, h⟩⟩

/-- What callers see of two calls: the same error, or answers that differ in these fields only. -/
inductive EndAlike (fields : List String) :
    Except String Envelope → Except String Envelope → Prop
  | failure (cause : Tool.Error) (label : String) :
      EndAlike fields (.ok (.failure cause label)) (.ok (.failure cause label))
  | data {left right : Json} (h : AlikeBut fields left right) :
      EndAlike fields (.ok (.ok left)) (.ok (.ok right))

/-- Either the arguments are refused with the same issues, or the tool runs on both. -/
theorem inStep_invoke {registry : Registry} {context : Context} {tool : Tool} {name : String}
    {R : Json → Json → Prop} {left right : Json} (hget : registry.get? name = some tool)
    {field : String}
    (hdiffer : DifferIn field (validate tool.params left) (validate tool.params right))
    (hrun : ∀ one two, validate tool.params left = .ok one → validate tool.params right = .ok two →
      one.AgreeBut field two → InStep R (tool.run context one) (tool.run context two)) :
    InStep R (registry.invoke context name left) (registry.invoke context name right) := by
  unfold Registry.invoke
  simp only [hget]
  generalize hone : validate tool.params left = one,
    htwo : validate tool.params right = two at hdiffer hrun
  cases hdiffer with
  | refused issues => exact .done (.error _)
  | accepted h =>
      refine hrun _ _ rfl rfl fun other hother => ?_
      rw [Args.get?, Args.get?, ← Json.lookup_map_hideField hother, h,
        Json.lookup_map_hideField hother]

/-- Envelopes are made of the ends of two runs in step. -/
theorem inStep_call {registry : Registry} {context : Context} {name : String}
    {R : Json → Json → Prop} {left right : Json}
    (h : InStep R (registry.invoke context name left) (registry.invoke context name right)) :
    Program.InStep
      (fun one two => ∃ result other, SameEnd R result other ∧
        one = Envelope.ofResult (registry.operationOf name) result ∧
        two = Envelope.ofResult (registry.operationOf name) other)
      (registry.call context name left) (registry.call context name right) := by
  refine Program.InStep.bind h fun result other hsame => ?_
  cases hsame with
  | ok hdata => exact .done ⟨_, _, .ok hdata, rfl, rfl⟩
  | error fault =>
      cases fault with
      | refused cause => exact .done ⟨_, _, .error (.refused cause), rfl, rfl⟩
      | crashed reason => exact .done ⟨_, _, .error (.crashed reason), rfl, rfl⟩

variable {σ : Type} {chain : Chain (StateM σ)} {alike : σ → σ → Prop} (schedule : Schedule)
  {state : σ} (context : Context)

theorem callOver_alike (hblind : chain.Blind alike) (hstate : alike state state) {name : String}
    {fields : List String} {left right : Json}
    (h : InStep (AlikeBut fields) (registry.invoke context name left)
      (registry.invoke context name right)) :
    (callOver chain schedule state context name left).2.map Event.bare =
        (callOver chain schedule state context name right).2.map Event.bare ∧
      EndAlike fields (callOver chain schedule state context name left).1
        (callOver chain schedule state context name right).1 := by
  obtain ⟨⟨⟨result, other, hsame, hone, htwo⟩, hevents⟩, -⟩ :=
    hblind.run schedule (inStep_call h) hstate
  refine ⟨hevents, ?_⟩
  have hends := crashFree_registry.envelope
    (chain.course_run schedule (registry.call context name left) state)
  unfold callOver
  rw [hone] at hends ⊢
  rw [htwo]
  cases hsame with
  | ok hdata => exact .data hdata
  | error fault =>
      cases fault with
      | refused cause => exact .failure cause _
      | crashed reason => simp [Envelope.ofResult] at hends

theorem kind_of_mandatory {tool : Tool} (htool : tool ∈ catalogue) {p : Param}
    (hp : p ∈ tool.params) {kind : ParamKind} {description : String}
    (hparam : Param.mandatory p.name kind description ∈ tool.params) : p.kind = kind :=
  congrArg Param.kind (List.inj_on_of_nodup_map (param_names tool htool) hp hparam rfl)

theorem exists_unsteered {tool : Tool} (htool : tool ∈ catalogue) (hkey : takesKey tool = true)
    {p : Param} (hp : p ∈ tool.params) (hname : p.name = "amount") :
    ∃ use ∈ amountUses, use.tool = tool.name ∧
      Unsteered tool p.kind (use.reported.map Prod.fst) := by
  have hmem := mem_signingTools htool hkey
  simp only [signingTools, List.mem_cons, List.not_mem_nil, or_false] at hmem
  have hsteered : ∀ {kind description fields},
      Param.mandatory "amount" kind description ∈ tool.params → Unsteered tool kind fields →
      Unsteered tool p.kind fields := by
    intro kind description fields hparam hunsteered
    rwa [kind_of_mandatory htool hp (hname ▸ hparam)]
  rcases hmem with rfl | rfl | rfl | rfl | rfl | rfl | rfl | rfl
  · have hunsteered := hsteered (.tail _ (.tail _ (.head _))) unsteered_stakeTokens
    exact ⟨amountUses[0], by simp, rfl, hunsteered⟩
  · have hunsteered := hsteered (.tail _ (.tail _ (.head _))) unsteered_unstakeTokens
    exact ⟨amountUses[1], by simp, rfl, hunsteered⟩
  · have hnone : ∀ p ∈ claimRewards.params, p.name ≠ "amount" := by decide
    exact absurd hname (hnone p hp)
  · have hunsteered := hsteered (.tail _ (.head _)) unsteered_stakeEther
    exact ⟨amountUses[2], by simp, rfl, hunsteered⟩
  · have hunsteered := hsteered (.tail _ (.head _)) unsteered_wrapSteth
    exact ⟨amountUses[3], by simp, rfl, hunsteered⟩
  · have hunsteered := hsteered (.tail _ (.head _)) unsteered_unwrapWsteth
    exact ⟨amountUses[4], by simp, rfl, hunsteered⟩
  · have hunsteered := hsteered (.tail _ (.tail _ (.tail _ (.head _)))) unsteered_stakePairTokens
    exact ⟨amountUses[5], by simp, rfl, hunsteered⟩
  · have hunsteered :=
      hsteered (.tail _ (.tail _ (.tail _ (.head _)))) unsteered_withdrawPairTokens
    exact ⟨amountUses[6], by simp, rfl, hunsteered⟩

/-- The fields of an answer that say how a transaction went. -/
def settlingFields : List String :=
  ["status", "transactionHash", "approvalTransactionHash", "method"]

/-- Over a chain that does not look at amounts, calls of a signing tool that differ in the amount
alone, zero or not, take the same interactions in turn and end alike. -/
theorem amount_never_steers (hblind : chain.Blind alike) (hstate : alike state state)
    {tool : Tool} (htool : tool ∈ catalogue) (hkey : takesKey tool = true)
    {p : Param} (hp : p ∈ tool.params) (hname : p.name = "amount")
    {left right : Json} {first second : String}
    (hleft : left.get? "amount" = some (.string first))
    (hright : right.get? "amount" = some (.string second))
    (hothers : ∀ name ≠ "amount", left.get? name = right.get? name)
    (hfirst : Convertible p.kind first) (hsecond : Convertible p.kind second) :
    let one := callOver chain schedule state context tool.name left
    let two := callOver chain schedule state context tool.name right
    one.2.map Event.bare = two.2.map Event.bare ∧
      ∃ use ∈ amountUses, use.tool = tool.name ∧
        (∀ key ∈ settlingFields, key ∉ use.reported.map Prod.fst) ∧
        EndAlike (use.reported.map Prod.fst) one.1 two.1 := by
  intro one two
  obtain ⟨use, huse, htoolName, hunsteered⟩ := exists_unsteered htool hkey hp hname
  have hnames := param_names tool htool
  have hgetLeft : left.get? p.name = some (.string first) := by rw [hname, hleft]
  have hgetRight : right.get? p.name = some (.string second) := by rw [hname, hright]
  have hdiffer := differIn_validate hnames hp hgetLeft hgetRight hfirst.accepts hsecond.accepts
    fun name hother => hothers name (hname ▸ hother)
  have hinvoke : InStep (AlikeBut (use.reported.map Prod.fst))
      (registry.invoke context tool.name left) (registry.invoke context tool.name right) := by
    refine inStep_invoke (get?_of_mem htool) hdiffer fun a b ha hb hagree => ?_
    have hkeptLeft := get?_of_accepts ha hnames hp hgetLeft hfirst.accepts
    have hkeptRight := get?_of_accepts hb hnames hp hgetRight hsecond.accepts
    rw [hname] at hagree hkeptLeft hkeptRight
    obtain ⟨amount, hamount⟩ := hfirst.exists_read hkeptLeft
    obtain ⟨other, hother⟩ := hsecond.exists_read hkeptRight
    exact hunsteered context a b amount other hagree hamount hother
  obtain ⟨hevents, hends⟩ := callOver_alike schedule context hblind hstate hinvoke
  refine ⟨hevents, use, huse, htoolName, ?_, hends⟩
  have hsettling : ∀ use ∈ amountUses, ∀ key ∈ settlingFields, key ∉ use.reported.map Prod.fst := by
    decide
  exact hsettling use huse

/-- The rehearsed chain looks at the names of functions only. -/
theorem blind_rehearsal : Rehearsal.chain.Blind Eq where
  read network c d s t h hstate := by
    refine matching_of_eq ?_
    simp only [Rehearsal.chain, Rehearsal.Stage.read, Call.function_eq_of_bare h, hstate]
  simulate network sender c d s t h hstate := by
    refine matching_of_eq ?_
    simp only [Rehearsal.chain, Rehearsal.Stage.simulate, Call.function_eq_of_bare h, hstate]
  write account c d s t h hstate := by
    refine matching_of_eq ?_
    simp only [Rehearsal.chain, Rehearsal.Stage.write, Call.function_eq_of_bare h, hstate]
  receipt network hash s t hstate := matching_of_eq (congrArg _ hstate)

/-- Nothing and the largest word are taken back from a pool that only gives back everything. -/
theorem amount_never_steers_zero :
    let args (amount : String) := Json.object [("amount", .string amount),
      ("stakingContract", "0x1234567890123456789012345678901234567890")]
    let largest :=
      "115792089237316195423570985008687907853269984665640564039457584007913129639935"
    let reverted := Chain.Error.simulationReverted "unstake" "execution reverted"
    let stage : Rehearsal.Stage := { simulations := [("unstake", [.error reverted])] }
    let run (amount : String) := callOver Rehearsal.chain inOrder stage
      ⟨some "0x0123456789abcdef0123456789abcdef0123456789abcdef0123456789abcdef"⟩
      "unstake_tokens" (args amount)
    Convertible .wei "0" ∧ Convertible .wei largest ∧
      (((run "0").1.toOption.bind (·.data)).bind (·.get? "method")).bind Json.string? =
        some "withdraw" ∧
      (run "0").2.map Event.bare = (run largest).2.map Event.bare ∧
      ∃ use ∈ amountUses, use.tool = "unstake_tokens" ∧
        (∀ key ∈ settlingFields, key ∉ use.reported.map Prod.fst) ∧
        EndAlike (use.reported.map Prod.fst) (run "0").1 (run largest).1 := by
  intro args largest reverted stage run
  have htool : unstakeTokens ∈ catalogue := by simp [catalogue]
  have hparam : Param.mandatory "amount" .wei "Amount to unstake (in wei)" ∈ unstakeTokens.params :=
    .tail _ (.tail _ (.head _))
  have hzero : Amount.parseWei "0" = .ok 0 := by decide +kernel
  have hlargest : Amount.parseWei largest = .ok (BitVec.allOnes 256) := by decide +kernel
  have hothers : ∀ name ≠ "amount", (args "0").get? name = (args largest).get? name := by
    intro name hname
    simp [args, Json.get?, Json.lookup, hname.symm]
  refine ⟨.wei hzero, .wei hlargest, by decide +kernel, ?_⟩
  exact amount_never_steers inOrder _ blind_rehearsal rfl htool (by decide) hparam rfl rfl rfl
    hothers (.wei hzero) (.wei hlargest)

end Operation

end StakingGateway
