import StakingGateway.Operation.Sending
import StakingGateway.Proofs.Course

/-!
# How transactions go

Each building block of the transactions gets one relation with a case for every way in which it can
go: an attempt to send a call, a call that is sent and waited for, an approval, and a call with
another one in its place. The tools are put together from these, so no later proof looks into the
building blocks again.
-/

namespace StakingGateway

namespace Chain.Event

open Contract

def attempted? : Event → Option Call
  | .simulate _ _ call _ => some call
  | .write _ call _ => some call
  | _ => none

def simulated? : Event → Option Call
  | .simulate _ _ call _ => some call
  | _ => none

def refused? : Event → Option (Call × Error)
  | .simulate _ _ call (.error e) => some (call, e)
  | .write _ call (.error e) => some (call, e)
  | _ => none

def accepted? : Event → Option (Call × TxHash)
  | .write _ call (.ok hash) => some (call, hash)
  | _ => none

variable {event : Event}

theorem attempted?_of_isPreparation (h : event.isPreparation = true) : event.attempted? = none := by
  cases event <;> first | rfl | cases h

theorem attempted?_of_simulated? {call : Call} (h : event.simulated? = some call) :
    event.attempted? = some call := by
  cases event <;> first | exact h | cases h

theorem attempted?_of_refused? {call : Call} {e : Error} (h : event.refused? = some (call, e)) :
    event.attempted? = some call := by
  rcases event with _ | _ | _ | ⟨_, _, _, _ | _⟩ | ⟨_, _, _ | _⟩ | _ <;> cases h <;> rfl

theorem attempted?_of_accepted? {call : Call} {hash : TxHash}
    (h : event.accepted? = some (call, hash)) : event.attempted? = some call := by
  rcases event with _ | _ | _ | _ | ⟨_, _, _ | _⟩ | _ <;> cases h
  rfl

end Chain.Event

namespace Operation

open Tool Chain Contract

variable {account : Account} {call : Call} {events : List Event}

theorem split_append {left right before after : List Event} {event : Event}
    (h : left ++ right = before ++ event :: after) :
    (∃ rest, left = before ++ event :: rest ∧ after = rest ++ right) ∨
      ∃ earlier, before = left ++ earlier ∧ right = earlier ++ event :: after := by
  rcases List.append_eq_append_iff.mp h with ⟨earlier, rfl, hright⟩ | ⟨rest, rfl, hrest⟩
  · exact Or.inr ⟨earlier, rfl, hright⟩
  · cases rest with
    | nil => exact Or.inr ⟨[], by simp, by simpa using hrest.symm⟩
    | cons head rest =>
        obtain ⟨rfl, rfl⟩ := List.cons.inj hrest
        exact Or.inl ⟨rest, rfl, rfl⟩

theorem mem_of_split {before after : List Event} {event : Event}
    (h : events = before ++ event :: after) : event ∈ events := by
  rw [h]
  exact List.mem_append_right before List.mem_cons_self

/-- An interaction of a kind that occurs in one place only is found there. -/
theorem split_unique {α : Type} {f : Event → Option α} {start rest before after : List Event}
    {last event : Event} {value : α} (hstart : ∀ other ∈ start, f other = none)
    (hrest : ∀ other ∈ rest, f other = none) (h : start ++ last :: rest = before ++ event :: after)
    (hevent : f event = some value) : before = start ∧ event = last ∧ after = rest := by
  have hnone : ∀ others : List Event, (∀ other ∈ others, f other = none) → event ∉ others := by
    intro others hothers hmem
    rw [hothers event hmem] at hevent
    cases hevent
  rcases split_append h with ⟨others, rfl, -⟩ | ⟨earlier, rfl, hsplit⟩
  · exact absurd (by simp) (hnone _ hstart)
  · cases earlier with
    | nil =>
        obtain ⟨rfl, rfl⟩ := List.cons.inj hsplit
        exact ⟨List.append_nil start, rfl, rfl⟩
    | cons head earlier =>
        obtain ⟨-, rfl⟩ := List.cons.inj hsplit
        exact absurd (by simp) (hnone _ hrest)

def Quiet (events : List Event) : Prop :=
  ∀ event ∈ events, event.attempted? = none

theorem quiet_of_preparation {events : List Event}
    (h : ∀ event ∈ events, event.isPreparation = true) : Quiet events :=
  fun event hevent => Event.attempted?_of_isPreparation (h event hevent)

def Tries (calls : List Call) (events : List Event) : Prop :=
  ∀ event ∈ events, ∀ call, event.attempted? = some call → call ∈ calls

theorem Quiet.tries (h : Quiet events) : Tries [] events := by
  intro event hevent call hcall
  rw [h event hevent] at hcall
  cases hcall

theorem Tries.append {calls others : List Call} {left right : List Event} (hleft : Tries calls left)
    (hright : Tries others right) : Tries (calls ++ others) (left ++ right) := by
  intro event hevent call hcall
  rcases List.mem_append.mp hevent with hmem | hmem
  · exact List.mem_append_left _ (hleft event hmem call hcall)
  · exact List.mem_append_right _ (hright event hmem call hcall)

theorem Tries.mono {calls others : List Call} (h : Tries calls events) (hsub : calls ⊆ others) :
    Tries others events :=
  fun event hevent call hcall => hsub (h event hevent call hcall)

theorem Quiet.eq_none {α : Type} {f : Event → Option α} {event : Event} (h : Quiet events)
    (hf : ∀ value, f event = some value → ∃ call, event.attempted? = some call)
    (hevent : event ∈ events) : f event = none := by
  cases hvalue : f event with
  | none => rfl
  | some value =>
      obtain ⟨call, hcall⟩ := hf value hvalue
      rw [h event hevent] at hcall
      cases hcall

theorem Quiet.simulated?_eq_none {event : Event} (h : Quiet events) (hevent : event ∈ events) :
    event.simulated? = none :=
  h.eq_none (fun _ hsome => ⟨_, Event.attempted?_of_simulated? hsome⟩) hevent

theorem Quiet.filterMap_simulated? (h : Quiet events) : events.filterMap Event.simulated? = [] :=
  List.filterMap_eq_nil_iff.mpr fun _ hevent => h.simulated?_eq_none hevent

theorem Quiet.refused?_eq_none {event : Event} (h : Quiet events) (hevent : event ∈ events) :
    event.refused? = none :=
  h.eq_none (fun _ hsome => ⟨_, Event.attempted?_of_refused? hsome⟩) hevent

theorem Quiet.accepted?_eq_none {event : Event} (h : Quiet events) (hevent : event ∈ events) :
    event.accepted? = none :=
  h.eq_none (fun _ hsome => ⟨_, Event.attempted?_of_accepted? hsome⟩) hevent

theorem Quiet.filterMap_accepted? (h : Quiet events) : events.filterMap Event.accepted? = [] :=
  List.filterMap_eq_nil_iff.mpr fun _ hevent => h.accepted?_eq_none hevent

/-- An attempt to send a call: only what was simulated with success is written. -/
inductive Attempt (account : Account) (call : Call) :
    Except Chain.Error TxHash → List Event → Prop where
  | reverted (e : Chain.Error) :
    Attempt account call (.error e) [.simulate account.network account.address call (.error e)]
  | unsent (e : Chain.Error) :
    Attempt account call (.error e)
      [.simulate account.network account.address call (.ok ()), .write account call (.error e)]
  | sent (hash : TxHash) :
    Attempt account call (.ok hash)
      [.simulate account.network account.address call (.ok ()), .write account call (.ok hash)]

namespace Attempt

variable {outcome : Except Chain.Error TxHash}

theorem attempted (h : Attempt account call outcome events) :
    ∀ event ∈ events, event.attempted? = some call := by
  cases h <;> simp [Event.attempted?]

theorem tries (h : Attempt account call outcome events) : Tries [call] events := by
  intro event hevent other hother
  rw [h.attempted event hevent] at hother
  exact List.mem_singleton.mpr (Option.some.inj hother).symm

theorem filterMap_simulated? (h : Attempt account call outcome events) :
    events.filterMap Event.simulated? = [call] := by
  cases h <;> rfl

theorem filterMap_accepted? (h : Attempt account call outcome events) :
    events.filterMap Event.accepted? = (outcome.toOption.map fun hash => (call, hash)).toList := by
  cases h <;> rfl

theorem simulated (h : Attempt account call outcome events) :
    ∃ answer rest, events = .simulate account.network account.address call answer :: rest ∧
      ∀ event ∈ rest, event.simulated? = none := by
  cases h with
  | reverted e => exact ⟨.error e, [], rfl, by simp⟩
  | unsent e => exact ⟨.ok (), [.write account call (.error e)], rfl, by simp [Event.simulated?]⟩
  | sent hash => exact ⟨.ok (), [.write account call (.ok hash)], rfl, by simp [Event.simulated?]⟩

theorem begins (h : Attempt account call outcome events) {later before after : List Event}
    {event : Event} {other : Call} (hlater : Quiet later)
    (hsplit : events ++ later = before ++ event :: after) (hevent : event.simulated? = some other) :
    before = [] ∧ ∃ answer, event = .simulate account.network account.address call answer := by
  obtain ⟨answer, rest, rfl, hrest⟩ := h.simulated
  have hnone : ∀ other ∈ rest ++ later, other.simulated? = none :=
    List.forall_mem_append.mpr ⟨hrest, fun _ hother => hlater.simulated?_eq_none hother⟩
  have hhead : [] ++ .simulate account.network account.address call answer :: (rest ++ later) =
      before ++ event :: after := hsplit
  obtain ⟨rfl, rfl, -⟩ := split_unique (by simp) hnone hhead hevent
  exact ⟨rfl, answer, rfl⟩

theorem refused {e : Chain.Error} (h : Attempt account call (.error e) events) :
    ∃ start last, events = start ++ [last] ∧ last.refused? = some (call, e) ∧
      ∀ event ∈ start, event.refused? = none := by
  cases h with
  | reverted => exact ⟨[], _, rfl, rfl, by simp⟩
  | unsent =>
      exact ⟨[.simulate account.network account.address call (.ok ())], _, rfl, rfl,
        by simp [Event.refused?]⟩

theorem refused?_eq_none {hash : TxHash} (h : Attempt account call (.ok hash) events) :
    ∀ event ∈ events, event.refused? = none := by
  cases h
  simp [Event.refused?]

theorem accepted?_eq_none {e : Chain.Error} (h : Attempt account call (.error e) events) :
    ∀ event ∈ events, event.accepted? = none := by
  cases h <;> simp [Event.accepted?]

theorem accepted {hash : TxHash} (h : Attempt account call (.ok hash) events) :
    ∃ start, events = start ++ [.write account call (.ok hash)] ∧
      ∀ event ∈ start, event.accepted? = none := by
  cases h
  exact ⟨[.simulate account.network account.address call (.ok ())], rfl, by simp [Event.accepted?]⟩

end Attempt

theorem course_submit {result : Except Fault TxHash}
    (h : (submit account call).Course result events) :
    ∃ outcome, Attempt account call outcome events ∧ result = outcome.mapError Fault.ofChain := by
  rcases Action.course_bind.mp h with ⟨fault, hsimulate, rfl⟩ | ⟨_, _, _, hsimulate, hwrite, rfl⟩
  · obtain ⟨e | _, rfl, hfault⟩ := Action.course_simulate.mp hsimulate
    · cases hfault
      exact ⟨.error e, .reverted e, rfl⟩
    · cases hfault
  · obtain ⟨_ | _, rfl, hok⟩ := Action.course_simulate.mp hsimulate
    · cases hok
    · obtain ⟨e | hash, rfl, rfl⟩ := Action.course_write.mp hwrite
      · exact ⟨.error e, .unsent e, rfl⟩
      · exact ⟨.ok hash, .sent hash, rfl⟩

inductive Delivery (account : Account) (call : Call) :
    Except Chain.Error Receipt → List Event → Prop where
  | unsent {e : Chain.Error} {events : List Event} (h : Attempt account call (.error e) events) :
    Delivery account call (.error e) events
  | awaited {hash : TxHash} {events : List Event} (h : Attempt account call (.ok hash) events)
      (answer : Except Chain.Error Receipt) :
    Delivery account call answer (events ++ [.receipt account.network hash answer])

theorem course_submitAndConfirm {result : Except Fault Receipt}
    (h : (submitAndConfirm account call).Course result events) :
    ∃ outcome, Delivery account call outcome events ∧
      result = outcome.mapError Fault.ofChain := by
  rcases Action.course_bind.mp h with ⟨fault, hsubmit, rfl⟩ | ⟨hash, _, _, hsubmit, hwait, rfl⟩
  · obtain ⟨e | hash, hattempt, hfault⟩ := course_submit hsubmit
    · cases hfault
      exact ⟨.error e, .unsent hattempt, rfl⟩
    · cases hfault
  · obtain ⟨e | sent, hattempt, hok⟩ := course_submit hsubmit
    · cases hok
    · cases hok
      obtain ⟨answer, rfl, rfl⟩ := Action.course_receipt.mp hwait
      exact ⟨answer, .awaited hattempt answer, rfl⟩

/-- An approval: it must be part of a block with success. -/
inductive Approval (account : Account) (call : Call) :
    Except Fault Receipt → List Event → Prop where
  | failed {e : Chain.Error} {events : List Event} (h : Delivery account call (.error e) events) :
    Approval account call (.error (Fault.ofChain e)) events
  | reverted {receipt : Receipt} {events : List Event}
      (h : Delivery account call (.ok receipt) events) (hstatus : receipt.status = .failed) :
    Approval account call (.error (.refused (.approvalReverted receipt.hash))) events
  | mined {receipt : Receipt} {events : List Event}
      (h : Delivery account call (.ok receipt) events) (hstatus : receipt.status = .success) :
    Approval account call (.ok receipt) events

theorem course_approve {token spender : Address} {amount : Uint256} {result : Except Fault Receipt}
    (h : (approve account token spender amount).Course result events) :
    Approval account (approveCall token spender amount) result events := by
  rcases Action.course_bind.mp h with ⟨fault, hdeliver, rfl⟩ | ⟨receipt, _, _, hdeliver, hrest, rfl⟩
  · obtain ⟨e | receipt, hdelivery, hfault⟩ := course_submitAndConfirm hdeliver
    · cases hfault
      exact .failed hdelivery
    · cases hfault
  · obtain ⟨e | mined, hdelivery, hok⟩ := course_submitAndConfirm hdeliver
    · cases hok
    · cases hok
      cases hstatus : receipt.status with
      | success =>
          simp only [Receipt.succeeded, hstatus, decide_true, Bool.not_true, Bool.false_eq_true,
            if_false] at hrest
          obtain ⟨rfl, rfl⟩ := Action.course_pure.mp hrest
          rw [List.append_nil]
          exact .mined hdelivery hstatus
      | failed =>
          simp only [Receipt.succeeded, hstatus, reduceCtorEq, decide_false, Bool.not_false,
            if_true] at hrest
          rcases Action.course_bind.mp hrest with ⟨fault, hrefuse, rfl⟩ | ⟨_, _, _, hrefuse, -, -⟩
          · obtain ⟨hfault, rfl⟩ := Action.course_throw.mp hrefuse
            cases hfault
            rw [List.append_nil]
            exact .reverted hdelivery hstatus
          · obtain ⟨hok, -⟩ := Action.course_throw.mp hrefuse
            cases hok

namespace Delivery

variable {outcome : Except Chain.Error Receipt} {before after : List Event} {event : Event}

theorem tries (h : Delivery account call outcome events) : Tries [call] events := by
  cases h with
  | unsent hattempt => exact hattempt.tries
  | @awaited hash start hattempt =>
      have hreceipt : Quiet [.receipt account.network hash outcome] := by
        simp [Quiet, Event.attempted?]
      simpa using hattempt.tries.append hreceipt.tries

theorem refused (h : Delivery account call outcome events)
    (hsplit : events = before ++ event :: after)
    {other : Call} {e : Chain.Error} (hrefused : event.refused? = some (other, e)) :
    after = [] ∧ outcome = .error e := by
  cases h with
  | unsent hattempt =>
      obtain ⟨start, last, rfl, hlast, hstart⟩ := hattempt.refused
      obtain ⟨-, rfl, rfl⟩ := split_unique hstart (by simp) hsplit hrefused
      rw [hlast] at hrefused
      cases hrefused
      exact ⟨rfl, rfl⟩
  | awaited hattempt =>
      rcases List.mem_append.mp (mem_of_split hsplit) with hmem | hmem
      · rw [hattempt.refused?_eq_none event hmem] at hrefused
        cases hrefused
      · rw [List.mem_singleton.mp hmem] at hrefused
        cases hrefused

theorem accepted (h : Delivery account call outcome events)
    (hsplit : events = before ++ event :: after) {other : Call} {hash : TxHash}
    (haccepted : event.accepted? = some (other, hash)) :
    after = [.receipt account.network hash outcome] := by
  cases h with
  | unsent hattempt =>
      rw [hattempt.accepted?_eq_none event (mem_of_split hsplit)] at haccepted
      cases haccepted
  | awaited hattempt =>
      obtain ⟨start, rfl, hstart⟩ := hattempt.accepted
      rw [List.append_assoc] at hsplit
      obtain ⟨-, rfl, rfl⟩ := split_unique hstart (by simp [Event.accepted?]) hsplit haccepted
      cases haccepted
      rfl

end Delivery

namespace Approval

variable {outcome : Except Fault Receipt} {before after : List Event} {event : Event}

theorem delivery (h : Approval account call outcome events) :
    ∃ delivered, Delivery account call delivered events ∧
      (∀ e, delivered = .error e → outcome = .error (Fault.ofChain e)) ∧
      ∀ receipt, delivered = .ok receipt → receipt.status = .failed →
        outcome = .error (.refused (.approvalReverted receipt.hash)) := by
  cases h with
  | @failed e events hdelivery =>
      refine ⟨.error e, hdelivery, ?_, ?_⟩ <;> rintro _ ⟨⟩
      rfl
  | @reverted receipt events hdelivery hstatus =>
      refine ⟨.ok receipt, hdelivery, ?_, ?_⟩ <;> rintro _ ⟨⟩
      exact fun _ => rfl
  | @mined receipt events hdelivery hstatus =>
      refine ⟨.ok receipt, hdelivery, ?_, ?_⟩ <;> rintro _ ⟨⟩
      exact fun hfailed => absurd (hstatus.symm.trans hfailed) (by decide)

theorem tries (h : Approval account call outcome events) : Tries [call] events := by
  obtain ⟨delivered, hdelivery, -⟩ := h.delivery
  exact hdelivery.tries

theorem receipt {receipt : Receipt} (h : Approval account call (.ok receipt) events) :
    receipt.status = .success ∧ ∃ start hash, events =
      start ++ [.write account call (.ok hash), .receipt account.network hash (.ok receipt)] := by
  cases h with
  | mined hdelivery hstatus =>
      refine ⟨hstatus, ?_⟩
      cases hdelivery with
      | @awaited hash events hattempt =>
          obtain ⟨start, rfl, -⟩ := hattempt.accepted
          exact ⟨start, hash, by simp⟩

end Approval

/-- A call that is sent, or another one in its place if there is one and the first is refused. -/
inductive Submission (account : Account) (main : Call) :
    (alternate : Option Call) → Except Fault (Call × TxHash) → List Event → Prop where
  | sent {alternate : Option Call} {hash : TxHash} {events : List Event}
      (h : Attempt account main (.ok hash) events) :
    Submission account main alternate (.ok (main, hash)) events
  | refused {e : Chain.Error} {events : List Event} (h : Attempt account main (.error e) events) :
    Submission account main none (.error (Fault.ofChain e)) events
  | replaced {other : Call} {e : Chain.Error} {hash : TxHash} {before after : List Event}
      (hmain : Attempt account main (.error e) before)
      (hother : Attempt account other (.ok hash) after) :
    Submission account main (some other) (.ok (other, hash)) (before ++ after)
  | exhausted {other : Call} {e last : Chain.Error} {before after : List Event}
      (hmain : Attempt account main (.error e) before)
      (hother : Attempt account other (.error last) after) :
    Submission account main (some other)
      (.error (.refused (.fallbackExhausted main.function other.function (.chain last))))
      (before ++ after)

theorem Submission.tries {main : Call} {alternate : Option Call}
    {outcome : Except Fault (Call × TxHash)}
    (h : Submission account main alternate outcome events) :
    Tries (main :: alternate.toList) events := by
  cases h with
  | sent hattempt | refused hattempt => exact hattempt.tries.mono (by simp)
  | replaced hmain hother | exhausted hmain hother => exact hmain.tries.append hother.tries

theorem course_attempted {name : String} {result : Except Fault (Attempted TxHash)}
    (h : (do return ⟨name, ← submit account call⟩ : Action (Attempted TxHash)).Course result
      events) :
    ∃ outcome, Attempt account call outcome events ∧
      result = (outcome.map fun hash => ⟨name, hash⟩).mapError Fault.ofChain := by
  rcases Action.course_bind.mp h with ⟨fault, hsubmit, rfl⟩ | ⟨hash, _, _, hsubmit, hpure, rfl⟩
  · obtain ⟨e | sent, hattempt, hfault⟩ := course_submit hsubmit
    · cases hfault
      exact ⟨.error e, hattempt, rfl⟩
    · cases hfault
  · obtain ⟨e | sent, hattempt, hok⟩ := course_submit hsubmit
    · cases hok
    · cases hok
      obtain ⟨rfl, rfl⟩ := Action.course_pure.mp hpure
      exact ⟨.ok hash, by rwa [List.append_nil], rfl⟩

theorem course_withFallback {main other : Call} {result : Except Fault (Attempted TxHash)}
    (h : (withFallback main.function (submit account main) other.function
      (submit account other) : Action (Attempted TxHash)).Course result events) :
    ∃ outcome, Submission account main (some other) outcome events ∧
      result = outcome.map fun sent => ⟨sent.1.function, sent.2⟩ := by
  rcases Action.course_tryCatch.mp h with ⟨value, hmain, rfl⟩ | ⟨fault, _, _, hmain, hother, rfl⟩
  · obtain ⟨e | hash, hattempt, hvalue⟩ := course_attempted hmain
    · cases hvalue
    · cases hvalue
      exact ⟨.ok (main, hash), .sent hattempt, rfl⟩
  · obtain ⟨e | hash, hattempt, hfault⟩ := course_attempted hmain
    · cases hfault
      rcases Action.course_tryCatch.mp hother with
        ⟨value, hvalue, rfl⟩ | ⟨fault, _, _, hfault, hthrow, rfl⟩
      · obtain ⟨last | hash, hlast, hvalue⟩ := course_attempted hvalue
        · cases hvalue
        · cases hvalue
          exact ⟨.ok (other, hash), .replaced hattempt hlast, rfl⟩
      · obtain ⟨last | hash, hlast, hfault⟩ := course_attempted hfault
        · cases hfault
          obtain ⟨rfl, rfl⟩ := Action.course_throw.mp hthrow
          rw [List.append_nil]
          exact ⟨.error _, .exhausted hattempt hlast, rfl⟩
        · cases hfault
    · cases hfault

end Operation

end StakingGateway
