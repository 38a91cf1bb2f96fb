import StakingGateway.Proofs.SigningCalls
import StakingGateway.Rehearsal.Chain

/-!
# An accepted transaction is reported

Once the main call of a tool was accepted, the tool call can end in two ways only: with the receipt
of the transaction, failed ones included, or with the failure of the wait for it. The work that
comes after the receipt cannot fail any more, so a caller never takes a transaction that is on the
chain for one that was not sent.
-/

namespace StakingGateway.Operation

open Tool Chain Contract

/-- What a caller learns of a transaction from the end of the wait for it. -/
inductive Settles (label : String) (hash : TxHash) :
    Except Chain.Error Receipt → Except String Envelope → Prop where
  | reported {receipt : Receipt} {data : Json}
      (hhash : data.get? "transactionHash" = some (.string hash.text))
      (hstatus : data.get? "status" = some (.string receipt.status.text)) :
    Settles label hash (.ok receipt) (.ok (.ok data))
  | lost (e : Chain.Error) : Settles label hash (.error e) (.ok (.failure (.chain e) label))

/-- Every main call that was accepted under a hash is waited for at once, and the end of the wait is
the end of the tool call, if receipts for the hash name it. -/
def Settled {σ : Type} (chain : Chain (StateM σ)) (label : String)
    (outcome : Except String Envelope) (events : List Event) : Prop :=
  ∀ before account call hash after, events = before ++ .write account call (.ok hash) :: after →
    call.function ≠ "approve" → chain.NamesReceipt account.network hash →
    ∃ answer rest, after = .receipt account.network hash answer :: rest ∧
      Settles label hash answer outcome

variable {σ : Type} {chain : Chain (StateM σ)} {plan : Plan} {account : Account} {call : Call}
  {hash : TxHash} {events before after : List Event}

def mainAccepted? (event : Event) : Option (Call × TxHash) :=
  event.accepted?.filter fun sent => sent.1.function ≠ "approve"

theorem mainAccepted?_eq_none {event : Event} (h : event.accepted? = none) :
    mainAccepted? event = none := by
  rw [mainAccepted?, h, Option.filter_none]

theorem Quiet.mainAccepted?_eq_none (h : Quiet events) :
    ∀ event ∈ events, mainAccepted? event = none :=
  fun _ hevent => Operation.mainAccepted?_eq_none (h.accepted?_eq_none hevent)

theorem Approval.mainAccepted?_eq_none {outcome : Except Fault Receipt} {allowance : Allowance}
    (h : Approval account allowance.call outcome events) :
    ∀ event ∈ events, mainAccepted? event = none := by
  intro event hevent
  obtain ⟨delivered, hdelivery, -, -⟩ := h.delivery
  unfold mainAccepted?
  cases haccepted : event.accepted? with
  | none => rfl
  | some sent =>
      obtain ⟨sent, hash⟩ := sent
      have hsent := hdelivery.tries event hevent sent (Event.attempted?_of_accepted? haccepted)
      rw [List.mem_singleton.mp hsent]
      rfl

theorem Plan.Cleared.mainAccepted?_eq_none (h : plan.Cleared events) :
    ∀ event ∈ events, mainAccepted? event = none := by
  cases h with
  | unneeded _ => simp
  | approved _ happroval => exact happroval.mainAccepted?_eq_none

theorem Submission.accepted {main : Call} {alternate : Option Call}
    (h : Submission account main alternate (.ok (call, hash)) events) :
    ∃ start, events = start ++ [.write account call (.ok hash)] ∧
      ∀ event ∈ start, event.accepted? = none := by
  cases h with
  | sent hmain => exact hmain.accepted
  | replaced hmain hother =>
      obtain ⟨start, rfl, hstart⟩ := hother.accepted
      exact ⟨_ ++ start, (List.append_assoc ..).symm,
        List.forall_mem_append.mpr ⟨hmain.accepted?_eq_none, hstart⟩⟩

theorem Submission.accepted?_eq_none {main : Call} {alternate : Option Call} {fault : Fault}
    (h : Submission account main alternate (.error fault) events) :
    ∀ event ∈ events, event.accepted? = none := by
  cases h with
  | refused hmain => exact hmain.accepted?_eq_none
  | exhausted hmain hother =>
      exact List.forall_mem_append.mpr ⟨hmain.accepted?_eq_none, hother.accepted?_eq_none⟩

/-- After the main call was accepted, what is left is the closing of the plan. -/
theorem Plan.Followed.closing {result : Except Fault Json} {opening : List Event}
    (hopening : Quiet opening) (h : plan.Followed result events)
    (hsplit : opening ++ events = before ++ .write account call (.ok hash) :: after)
    (hcall : call.function ≠ "approve") :
    account = plan.account ∧ plan.Closing call hash result after := by
  have hsent : mainAccepted? (.write account call (.ok hash)) = some (call, hash) := by
    simp [mainAccepted?, Event.accepted?, Option.filter, hcall]
  have habsent : ¬ ∀ event ∈ opening ++ events, mainAccepted? event = none := by
    intro hnone
    rw [hnone _ (mem_of_split hsplit)] at hsent
    cases hsent
  cases h with
  | unapproved _ happroval =>
      exact absurd (List.forall_mem_append.mpr
        ⟨hopening.mainAccepted?_eq_none, happroval.mainAccepted?_eq_none⟩) habsent
  | unsent hcleared hsubmission =>
      have hnone := List.forall_mem_append.mpr ⟨hcleared.mainAccepted?_eq_none,
        fun event hevent => mainAccepted?_eq_none (hsubmission.accepted?_eq_none event hevent)⟩
      exact absurd (List.forall_mem_append.mpr ⟨hopening.mainAccepted?_eq_none, hnone⟩) habsent
  | @sent sent written _ first middle closing hcleared hsubmission hclosing =>
      obtain ⟨start, rfl, hstart⟩ := hsubmission.accepted
      have hbefore : ∀ event ∈ opening ++ first ++ start, mainAccepted? event = none :=
        List.forall_mem_append.mpr ⟨List.forall_mem_append.mpr
          ⟨hopening.mainAccepted?_eq_none, hcleared.mainAccepted?_eq_none⟩,
          fun event hevent => mainAccepted?_eq_none (hstart event hevent)⟩
      have hafter := (Plan.quiet_of_closing hclosing).mainAccepted?_eq_none
      have hlist : opening ++ first ++ start ++ .write plan.account sent (.ok written) :: closing =
          before ++ .write account call (.ok hash) :: after := by
        rw [← hsplit]
        simp
      obtain ⟨-, hevent, rfl⟩ := split_unique hbefore hafter hlist hsent
      cases hevent
      exact ⟨rfl, hclosing⟩

theorem settles_of_closing {label : String} {result : Except Fault Json}
    (hgives : ∀ event ∈ events, chain.Gives event)
    (hnames : chain.NamesReceipt plan.account.network hash)
    (h : plan.Closing call hash result events) :
    ∃ answer rest, events = .receipt plan.account.network hash answer :: rest ∧
      Settles label hash answer (Envelope.ofResult label result) := by
  cases h with
  | lost e => exact ⟨.error e, [], rfl, .lost e⟩
  | @reported receipt data reads hreports hreads =>
      obtain ⟨s, hs⟩ := hgives (.receipt plan.account.network hash (.ok receipt)) (by simp)
      have hhash := hreports.hash
      rw [hnames s receipt hs] at hhash
      exact ⟨.ok receipt, reads, rfl, .reported hhash hreports.status⟩

theorem operationOf_name : ∀ tool ∈ catalogue, registry.operationOf tool.name = tool.operation := by
  decide +kernel

theorem Settled.of_preparation {label : String} {outcome : Except String Envelope}
    (h : ∀ event ∈ events, event.isPreparation = true) : Settled chain label outcome events := by
  intro before account call hash after hsplit
  cases h _ (mem_of_split hsplit)

theorem Settled.of_followed {label : String} {result : Except Fault Json} {opening : List Event}
    (hopening : Quiet opening) (hgives : ∀ event ∈ opening ++ events, chain.Gives event)
    (h : plan.Followed result events) :
    Settled chain label (Envelope.ofResult label result) (opening ++ events) := by
  intro before account call hash after hsplit hcall hnames
  obtain ⟨rfl, hclosing⟩ := h.closing hopening hsplit hcall
  refine settles_of_closing (fun event hevent => hgives event ?_) hnames hclosing
  rw [hsplit]
  exact List.mem_append_right before (List.mem_cons_of_mem _ hevent)

variable (chain) (schedule : Schedule) (state : σ) (context : Context) (name : String) (args : Json)

/-- Over every chain and for all arguments, once the main call of a tool was accepted, the tool call
ends with the receipt of the transaction or with the failure of the wait for it. -/
theorem accepted_settles :
    Settled chain (registry.operationOf name) (callOver chain schedule state context name args).1
      (callOver chain schedule state context name args).2 := by
  rcases course_callOver chain schedule state context name args with
    ⟨hevents, -⟩ | ⟨tool, htool, rfl, accepted, result, -, hcourse, -⟩
  · rw [hevents]
    exact .of_preparation (by simp)
  · rw [operationOf_name tool htool]
    cases hkey : takesKey tool with
    | false =>
        have hreads := reading_of_keyless context accepted htool hkey result _ hcourse
        exact .of_preparation fun event hevent =>
          Event.isPreparation_of_isReading (hreads event hevent)
    | true =>
        apply callOver_of_signs chain schedule state context args htool
          fun _ => signs_of_takesKey htool hkey
        · exact fun _ _ hevents _ => .of_preparation hevents
        · intro _ _ _ _ _ _ hgives _ hopening hfollowed
          exact .of_followed (quiet_of_preparation hopening) hgives hfollowed

-- The deposit failed on the chain, and the balance after it cannot be read.
example :
    let stage : Rehearsal.Stage := {
      reads := [("balanceOf", [.ok [.uint 5], .error (.callFailed "balanceOf" "lost")])]
      receipts := [("submit", [.ok { status := .failed }])] }
    let run := callOver Rehearsal.chain inOrder stage
      ⟨some "0x0123456789abcdef0123456789abcdef0123456789abcdef0123456789abcdef"⟩
      "stake_eth_lido" (.object [("amount", .string "1")])
    ((run.1.toOption.bind (·.data)).bind (·.get? "status")).bind Json.string? = some "failed" := by
  decide +kernel

end StakingGateway.Operation
