import StakingGateway.Operation.Reading
import StakingGateway.Proofs.Fields
import StakingGateway.Proofs.Transactions

/-!
# Plans

A signing tool first reads arguments and the chain, and then carries out one plan: an approval if
one is needed, the main call or the call in its place, the wait for the transaction, and reads that
cannot fail any more. `Plan.Followed` lists all that can happen to a plan. Every signing tool is
shown once to follow a plan (`Signs`); the properties of the transactions are then properties of
plans.
-/

namespace StakingGateway.Operation

open Tool Chain Contract

/-- What is to be approved: a spender may take an amount of a token. -/
structure Allowance where
  token : Address
  spender : Address
  amount : Uint256

def Allowance.call (a : Allowance) : Call := approveCall a.token a.spender a.amount

structure Plan where
  account : Account
  allowance : Option Allowance := none
  main : Call
  /-- The call that is tried when the main one cannot be sent. -/
  alternate : Option Call := none
  main_ne_approve : main.function ≠ "approve"
  alternate_ne_approve : ∀ call ∈ alternate, call.function ≠ "approve" := by nofun

structure Reports (plan : Plan) (sent : Call) (receipt : Receipt) (data : Json) : Prop where
  hash : data.get? "transactionHash" = some (.string receipt.hash.text)
  status : data.get? "status" = some (.string receipt.status.text)
  method : plan.alternate.isSome → data.get? "method" = some (.string sent.function)

namespace Plan

/-- The interactions before the main call: none, or an approval with success. -/
inductive Cleared (plan : Plan) : List Event → Prop where
  | unneeded (h : plan.allowance = none) : plan.Cleared []
  | approved {allowance : Allowance} {receipt : Receipt} {events : List Event}
      (hallowance : plan.allowance = some allowance)
      (h : Approval plan.account allowance.call (.ok receipt) events) : plan.Cleared events

theorem Cleared.eq_nil {plan : Plan} {events : List Event} (h : plan.Cleared events)
    (hallowance : plan.allowance = none) : events = [] := by
  cases h with
  | unneeded _ => rfl
  | approved hsome _ =>
      rw [hallowance] at hsome
      cases hsome

theorem Cleared.approval {plan : Plan} {allowance : Allowance} {events : List Event}
    (h : plan.Cleared events) (hallowance : plan.allowance = some allowance) :
    ∃ receipt, Approval plan.account allowance.call (.ok receipt) events := by
  cases h with
  | unneeded hnone =>
      rw [hallowance] at hnone
      cases hnone
  | approved hsome happroval =>
      rw [hallowance] at hsome
      cases hsome
      exact ⟨_, happroval⟩

inductive Closing (plan : Plan) (sent : Call) (hash : TxHash) :
    Except Fault Json → List Event → Prop where
  | lost (e : Chain.Error) :
    plan.Closing sent hash (.error (Fault.ofChain e))
      [.receipt plan.account.network hash (.error e)]
  | reported {receipt : Receipt} {data : Json} {reads : List Event}
      (hreports : Reports plan sent receipt data)
      (hreads : ∀ event ∈ reads, event.isReading = true) :
    plan.Closing sent hash (.ok data) (.receipt plan.account.network hash (.ok receipt) :: reads)

inductive Followed (plan : Plan) : Except Fault Json → List Event → Prop where
  | unapproved {allowance : Allowance} {fault : Fault} {events : List Event}
      (hallowance : plan.allowance = some allowance)
      (h : Approval plan.account allowance.call (.error fault) events) :
    plan.Followed (.error fault) events
  | unsent {fault : Fault} {before after : List Event} (hcleared : plan.Cleared before)
      (h : Submission plan.account plan.main plan.alternate (.error fault) after) :
    plan.Followed (.error fault) (before ++ after)
  | sent {call : Call} {hash : TxHash} {result : Except Fault Json}
      {before middle after : List Event} (hcleared : plan.Cleared before)
      (h : Submission plan.account plan.main plan.alternate (.ok (call, hash)) middle)
      (hclosing : plan.Closing call hash result after) :
    plan.Followed result (before ++ middle ++ after)

variable {plan : Plan} {allowance : Allowance} {account : Account} {main other : Call}

def Executes (plan : Plan) (x : Action Json) : Prop :=
  ∀ result events, x.Course result events → plan.Followed result events

/-- The action reports the receipt of the call that was sent; it may read on the way. -/
def Closes (plan : Plan) (sent : Call) (receipt : Receipt) (x : Action Json) : Prop :=
  ∀ result events, x.Course result events →
    (∀ event ∈ events, event.isReading = true) ∧ ∃ data, result = .ok data ∧
      Reports plan sent receipt data

theorem closing_of_confirm {sent : Call} {hash : TxHash} {close : Receipt → Action Json}
    {result : Except Fault Json} {events : List Event}
    (hclose : ∀ receipt, plan.Closes sent receipt (close receipt))
    (h : (confirm plan.account hash >>= close).Course result events) :
    plan.Closing sent hash result events := by
  rcases Action.course_bind.mp h with ⟨fault, hwait, rfl⟩ | ⟨receipt, _, _, hwait, hrest, rfl⟩
  · obtain ⟨e | receipt, rfl, hfault⟩ := Action.course_receipt.mp hwait
    · cases hfault
      exact .lost e
    · cases hfault
  · obtain ⟨e | mined, rfl, hok⟩ := Action.course_receipt.mp hwait
    · cases hok
    · cases hok
      obtain ⟨hreads, data, rfl, hreports⟩ := hclose receipt result _ hrest
      exact .reported hreports hreads

theorem executes_deliver {hmain : main.function ≠ "approve"} {close : Receipt → Action Json}
    (hclose : ∀ receipt,
      Closes { account, main, main_ne_approve := hmain } main receipt (close receipt)) :
    Executes { account, main, main_ne_approve := hmain }
      (submitAndConfirm account main >>= close) := by
  intro result events h
  have hassoc : submitAndConfirm account main >>= close =
      submit account main >>= fun hash => confirm account hash >>= close := bind_assoc _ _ _
  rw [hassoc] at h
  rcases Action.course_bind.mp h with ⟨fault, hsubmit, rfl⟩ | ⟨hash, _, _, hsubmit, hrest, rfl⟩
  · obtain ⟨e | hash, hattempt, hfault⟩ := course_submit hsubmit
    · cases hfault
      exact .unsent (.unneeded rfl) (.refused hattempt)
    · cases hfault
  · obtain ⟨e | sent, hattempt, hok⟩ := course_submit hsubmit
    · cases hok
    · cases hok
      exact .sent (.unneeded rfl) (.sent hattempt) (closing_of_confirm hclose hrest)

theorem executes_withFallback {hmain : main.function ≠ "approve"}
    {hother : ∀ call ∈ some other, call.function ≠ "approve"}
    {close : Attempted TxHash → Receipt → Action Json}
    (hclose : ∀ sent hash receipt,
      Closes { account, main, alternate := some other, main_ne_approve := hmain,
               alternate_ne_approve := hother } sent receipt
        (close ⟨sent.function, hash⟩ receipt)) :
    Executes { account, main, alternate := some other, main_ne_approve := hmain,
               alternate_ne_approve := hother }
      (withFallback main.function (submit account main) other.function (submit account other) >>=
        fun sent => confirm account sent.value >>= close sent) := by
  intro result events h
  rcases Action.course_bind.mp h with ⟨fault, htry, rfl⟩ | ⟨_, _, _, htry, hrest, rfl⟩
  · obtain ⟨fault | sent, hsubmission, hfault⟩ := course_withFallback htry
    · cases hfault
      exact .unsent (.unneeded rfl) hsubmission
    · cases hfault
  · obtain ⟨fault | ⟨sent, hash⟩, hsubmission, hok⟩ := course_withFallback htry
    · cases hok
    · cases hok
      exact .sent (.unneeded rfl) hsubmission
        (closing_of_confirm (hclose sent hash) hrest)

theorem followed_of_cleared {result : Except Fault Json} {before after : List Event}
    (hcleared : plan.Cleared before)
    (h : { plan with allowance := none }.Followed result after) :
    plan.Followed result (before ++ after) := by
  cases h with
  | unapproved hallowance _ => cases hallowance
  | unsent hnone hsubmission =>
      cases hnone with
      | unneeded _ => exact .unsent hcleared hsubmission
      | approved hallowance _ => cases hallowance
  | sent hnone hsubmission hclosing =>
      cases hnone with
      | unneeded _ =>
          rw [List.nil_append, ← List.append_assoc]
          refine .sent hcleared hsubmission ?_
          cases hclosing with
          | lost e => exact .lost e
          | reported hreports hreads => exact .reported ⟨hreports.1, hreports.2, hreports.3⟩ hreads
      | approved hallowance _ => cases hallowance

theorem executes_approve {f : Receipt → Action Json} (hallowance : plan.allowance = some allowance)
    (hf : ∀ receipt, { plan with allowance := none }.Executes (f receipt)) :
    plan.Executes
      (approve plan.account allowance.token allowance.spender allowance.amount >>= f) := by
  intro result events h
  rcases Action.course_bind.mp h with ⟨fault, happrove, rfl⟩ | ⟨receipt, _, _, happrove, hrest, rfl⟩
  · exact .unapproved hallowance (course_approve happrove)
  · exact followed_of_cleared (.approved hallowance (course_approve happrove))
      (hf receipt result _ hrest)

theorem quiet_of_closing {sent : Call} {hash : TxHash} {result : Except Fault Json}
    {events : List Event} (h : plan.Closing sent hash result events) : Quiet events := by
  cases h with
  | lost e => simp [Quiet, Event.attempted?]
  | reported hreports hreads =>
      refine List.forall_mem_cons.mpr ⟨rfl, quiet_of_preparation fun event hevent => ?_⟩
      exact Event.isPreparation_of_isReading (hreads event hevent)

def calls (plan : Plan) : List Call :=
  (plan.allowance.map Allowance.call).toList ++ plan.main :: plan.alternate.toList

theorem forall_mem_calls {P : Call → Prop} (hallowance : ∀ a ∈ plan.allowance, P a.call)
    (hmain : P plan.main) (halternate : ∀ call ∈ plan.alternate, P call) :
    ∀ call ∈ plan.calls, P call := by
  intro call hcall
  simp only [calls, List.mem_append, List.mem_cons, Option.mem_toList,
    Option.map_eq_some_iff] at hcall
  rcases hcall with ⟨allowance, hsome, rfl⟩ | rfl | hsome
  · exact hallowance allowance hsome
  · exact hmain
  · exact halternate call hsome

theorem Cleared.tries {events : List Event} (h : plan.Cleared events) :
    Tries (plan.allowance.map Allowance.call).toList events := by
  cases h with
  | unneeded hnone => simp [Tries]
  | approved hallowance happroval =>
      rw [hallowance]
      exact happroval.tries

/-- A plan simulates and sends nothing but its calls. -/
theorem Followed.tries {result : Except Fault Json} {events : List Event}
    (h : plan.Followed result events) : Tries plan.calls events := by
  cases h with
  | unapproved hallowance happroval =>
      refine happroval.tries.mono ?_
      simp [calls, hallowance]
  | unsent hcleared hsubmission => exact hcleared.tries.append hsubmission.tries
  | sent hcleared hsubmission hclosing =>
      have hquiet := (quiet_of_closing hclosing).tries
      simpa [calls] using (hcleared.tries.append hsubmission.tries).append hquiet

end Plan

def Preparing {α : Type} (x : Action α) : Prop :=
  ∀ result events, x.Course result events → ∀ event ∈ events, event.isPreparation = true

/-- All that can happen in the call of a signing tool: it ends before its plan, with an answer only
if `ends` allows it, or it follows a plan that `plans` allows after what was read. -/
inductive Signing (plans : List Event → Plan → Prop) (ends : Json → Prop) :
    Except Fault Json → List Event → Prop where
  | ended {result : Except Fault Json} {events : List Event}
      (hevents : ∀ event ∈ events, event.isPreparation = true)
      (hresult : ∀ data, result = .ok data → ends data) : Signing plans ends result events
  | followed {plan : Plan} {result : Except Fault Json} {opening events : List Event}
      (hplan : plans opening plan) (hopening : ∀ event ∈ opening, event.isPreparation = true)
      (h : plan.Followed result events) : Signing plans ends result (opening ++ events)

def Signs (x : Action Json) (plans : List Event → Plan → Prop) (ends : Json → Prop) : Prop :=
  ∀ result events, x.Course result events → Signing plans ends result events

section Signs

variable {α : Type} {plans : List Event → Plan → Prop} {ends : Json → Prop}

theorem signs_of_executes {plan : Plan} {x : Action Json} (hplan : plans [] plan)
    (h : plan.Executes x) : Signs x plans ends := by
  intro result events hx
  have hnone : ∀ event ∈ ([] : List Event), event.isPreparation = true := by simp
  exact .followed hplan hnone (h result events hx)

theorem signs_bind {x : Action α} {f : α → Action Json} (hx : Preparing x)
    (hf : ∀ value before, x.Course (.ok value) before →
      Signs (f value) (fun opening => plans (before ++ opening)) ends) :
    Signs (x >>= f) plans ends := by
  intro result events h
  rcases Action.course_bind.mp h with
    ⟨fault, hfault, rfl⟩ | ⟨value, before, after, hvalue, hrest, rfl⟩
  · exact .ended (hx _ _ hfault) fun data hdata => by cases hdata
  · have hbefore := hx _ _ hvalue
    cases hf value before hvalue result after hrest with
    | ended hevents hresult =>
        exact .ended (List.forall_mem_append.mpr ⟨hbefore, hevents⟩) hresult
    | followed hplan hopening hfollowed =>
        rw [← List.append_assoc]
        exact .followed hplan (List.forall_mem_append.mpr ⟨hbefore, hopening⟩) hfollowed

theorem Signs.mono {x : Action Json} {others : List Event → Plan → Prop} {otherEnds : Json → Prop}
    (h : Signs x plans ends) (hplans : ∀ opening plan, plans opening plan → others opening plan)
    (hends : ∀ data, ends data → otherEnds data) : Signs x others otherEnds := by
  intro result events hx
  cases h result events hx with
  | ended hevents hresult => exact .ended hevents fun data hdata => hends data (hresult data hdata)
  | followed hplan hopening hfollowed => exact .followed (hplans _ _ hplan) hopening hfollowed

end Signs

end StakingGateway.Operation
