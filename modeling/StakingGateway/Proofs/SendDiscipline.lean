import StakingGateway.Proofs.SigningCalls

/-!
# Simulate, send, wait

Whatever a chain answers, a tool call sends nothing that it did not just simulate with success for
the signer, and waits at once for every transaction that it sent and for no other one. Such an order
is kept when interactions follow on one another, so it is enough to look at the shortest stretches
of a plan: a call that is refused, and a call that is sent and waited for.
-/

namespace StakingGateway.Operation

open Tool Chain Contract

/-- The order in which calls are sent, by the accounts that `owner` admits. -/
structure Disciplined (owner : Account → Prop) (events : List Event) : Prop where
  /-- A call is sent right after this very call was simulated with success for its sender. -/
  simulated : ∀ before account call answer after,
    events = before ++ .write account call answer :: after → owner account ∧
      ∃ earlier, before = earlier ++ [.simulate account.network account.address call (.ok ())]
  /-- A call that was accepted is waited for at once. -/
  awaited : ∀ before account call hash after,
    events = before ++ .write account call (.ok hash) :: after →
      ∃ answer rest, after = .receipt account.network hash answer :: rest
  /-- What is waited for is the call that was just accepted. -/
  named : ∀ before network hash answer after,
    events = before ++ .receipt network hash answer :: after →
      ∃ earlier account call, before = earlier ++ [.write account call (.ok hash)] ∧
        account.network = network

variable {owner : Account → Prop} {account : Account} {call : Call} {events left right : List Event}

namespace Disciplined

theorem append (hleft : Disciplined owner left) (hright : Disciplined owner right) :
    Disciplined owner (left ++ right) where
  simulated before account call answer after h := by
    rcases split_append h with ⟨rest, hsplit, -⟩ | ⟨earlier, rfl, hsplit⟩
    · exact hleft.simulated before account call answer rest hsplit
    · obtain ⟨howner, start, rfl⟩ := hright.simulated earlier account call answer after hsplit
      exact ⟨howner, left ++ start, (List.append_assoc ..).symm⟩
  awaited before account call hash after h := by
    rcases split_append h with ⟨rest, hsplit, rfl⟩ | ⟨earlier, rfl, hsplit⟩
    · obtain ⟨answer, later, rfl⟩ := hleft.awaited before account call hash rest hsplit
      exact ⟨answer, later ++ right, rfl⟩
    · exact hright.awaited earlier account call hash after hsplit
  named before network hash answer after h := by
    rcases split_append h with ⟨rest, hsplit, -⟩ | ⟨earlier, rfl, hsplit⟩
    · exact hleft.named before network hash answer rest hsplit
    · obtain ⟨start, account, call, rfl, hnetwork⟩ :=
        hright.named earlier network hash answer after hsplit
      exact ⟨left ++ start, account, call, (List.append_assoc ..).symm, hnetwork⟩

theorem of_unsent (hwrite : ∀ account call answer, .write account call answer ∉ events)
    (hreceipt : ∀ network hash answer, .receipt network hash answer ∉ events) :
    Disciplined owner events where
  simulated before account call answer after h := by
    have hmem : .write account call answer ∈ events := by simp [h]
    exact absurd hmem (hwrite account call answer)
  awaited before account call hash after h := by
    have hmem : .write account call (.ok hash) ∈ events := by simp [h]
    exact absurd hmem (hwrite account call (.ok hash))
  named before network hash answer after h := by
    have hmem : .receipt network hash answer ∈ events := by simp [h]
    exact absurd hmem (hreceipt network hash answer)

theorem of_preparation (h : ∀ event ∈ events, event.isPreparation = true) :
    Disciplined owner events := by
  apply of_unsent
  · intro account call answer hmem
    cases h _ hmem
  · intro network hash answer hmem
    cases h _ hmem

theorem of_reading (h : ∀ event ∈ events, event.isReading = true) : Disciplined owner events :=
  of_preparation fun event hevent => Event.isPreparation_of_isReading (h event hevent)

theorem of_refused {e : Chain.Error} (howner : owner account)
    (h : Attempt account call (.error e) events) : Disciplined owner events := by
  cases h with
  | reverted => exact of_unsent (by simp) (by simp)
  | unsent =>
      constructor
      · rintro (_ | ⟨first, _ | ⟨second, _ | ⟨third, before⟩⟩⟩) sender sent answer after hsplit <;>
          cases hsplit
        exact ⟨howner, [], rfl⟩
      · rintro (_ | ⟨first, _ | ⟨second, _ | ⟨third, before⟩⟩⟩) sender sent hash after hsplit <;>
          cases hsplit
      · rintro (_ | ⟨first, _ | ⟨second, _ | ⟨third, before⟩⟩⟩) network hash answer after hsplit <;>
          cases hsplit

theorem of_awaited {hash : TxHash} (howner : owner account)
    (h : Attempt account call (.ok hash) events) (answer : Except Chain.Error Receipt) :
    Disciplined owner (events ++ [.receipt account.network hash answer]) := by
  cases h with
  | sent =>
      constructor
      · rintro (_ | ⟨first, _ | ⟨second, _ | ⟨third, _ | ⟨fourth, before⟩⟩⟩⟩)
          sender sent reply after hsplit <;> cases hsplit
        exact ⟨howner, [], rfl⟩
      · rintro (_ | ⟨first, _ | ⟨second, _ | ⟨third, _ | ⟨fourth, before⟩⟩⟩⟩)
          sender sent hash after hsplit <;> cases hsplit
        exact ⟨answer, [], rfl⟩
      · rintro (_ | ⟨first, _ | ⟨second, _ | ⟨third, _ | ⟨fourth, before⟩⟩⟩⟩)
          network hash reply after hsplit <;> cases hsplit
        exact ⟨[.simulate account.network account.address call (.ok ())], account, call, rfl, rfl⟩

theorem of_delivery {outcome : Except Chain.Error Receipt} (howner : owner account)
    (h : Delivery account call outcome events) : Disciplined owner events := by
  cases h with
  | unsent hattempt => exact of_refused howner hattempt
  | awaited hattempt => exact of_awaited howner hattempt _

theorem of_approval {outcome : Except Fault Receipt} (howner : owner account)
    (h : Approval account call outcome events) : Disciplined owner events := by
  cases h with
  | failed hdelivery => exact of_delivery howner hdelivery
  | reverted hdelivery _ => exact of_delivery howner hdelivery
  | mined hdelivery _ => exact of_delivery howner hdelivery

variable {plan : Plan}

theorem of_cleared (howner : owner plan.account) (h : plan.Cleared events) :
    Disciplined owner events := by
  cases h with
  | unneeded _ => exact of_unsent (by simp) (by simp)
  | approved _ happroval => exact of_approval howner happroval

theorem of_submission {main : Call} {alternate : Option Call} {fault : Fault}
    (howner : owner account) (h : Submission account main alternate (.error fault) events) :
    Disciplined owner events := by
  cases h with
  | refused hmain => exact of_refused howner hmain
  | exhausted hmain hother => exact (of_refused howner hmain).append (of_refused howner hother)

theorem of_closing {hash : TxHash} {result : Except Fault Json} (howner : owner plan.account)
    (h : Attempt plan.account call (.ok hash) left)
    (hclosing : plan.Closing call hash result right) :
    Disciplined owner (left ++ right) := by
  cases hclosing with
  | lost e => exact of_awaited howner h (.error e)
  | @reported receipt data reads hreports hreads =>
      have hstretch := (of_awaited howner h (.ok receipt)).append (of_reading hreads)
      rwa [List.append_assoc] at hstretch

theorem of_submission_closing {main sent : Call} {alternate : Option Call} {hash : TxHash}
    {result : Except Fault Json} (howner : owner plan.account)
    (h : Submission plan.account main alternate (.ok (sent, hash)) left)
    (hclosing : plan.Closing sent hash result right) : Disciplined owner (left ++ right) := by
  cases h with
  | sent hmain => exact of_closing howner hmain hclosing
  | replaced hmain hother =>
      rw [List.append_assoc]
      exact (of_refused howner hmain).append (of_closing howner hother hclosing)

theorem of_followed {result : Except Fault Json} (howner : owner plan.account)
    (h : plan.Followed result events) : Disciplined owner events := by
  cases h with
  | unapproved _ happroval => exact of_approval howner happroval
  | unsent hcleared hsubmission =>
      exact (of_cleared howner hcleared).append (of_submission howner hsubmission)
  | sent hcleared hsubmission hclosing =>
      rw [List.append_assoc]
      exact (of_cleared howner hcleared).append (of_submission_closing howner hsubmission hclosing)

theorem of_signing {plans : List Event → Plan → Prop} {ends : Json → Prop}
    {result : Except Fault Json} (h : Signing plans ends result events)
    (howner : ∀ opening plan, (∀ event ∈ opening, event ∈ events) → plans opening plan →
      owner plan.account) : Disciplined owner events := by
  cases h with
  | ended hevents _ => exact of_preparation hevents
  | @followed plan _ opening rest hplan hopening hfollowed =>
      have hplanOwner := howner opening plan (fun event hevent => by simp [hevent]) hplan
      exact (of_preparation hopening).append (of_followed hplanOwner hfollowed)

end Disciplined

variable {σ : Type} (chain : Chain (StateM σ)) (schedule : Schedule) (state : σ)
  (context : Context) (name : String) (args : Json)

def OwnedBy (context : Context) (args : Json) (account : Account) : Prop :=
  ∃ key signer, context.keyInUse args = some key ∧ Crypto.SigningKey.ofText key = .ok signer ∧
    account.address = signer.address

/-- Over every chain and for all arguments: a tool call sends only what it has just simulated with
success as the owner of the key in use, waits at once for every transaction that it sent, and for
no other one. A tool that takes no key only reads. -/
theorem simulates_sends_awaits :
    Disciplined (OwnedBy context args) (callOver chain schedule state context name args).2 ∧
      ∀ tool ∈ catalogue, tool.name = name → takesKey tool = false →
        ∀ event ∈ (callOver chain schedule state context name args).2, event.isReading = true := by
  have hgives := gives_of_mem_callOver chain schedule state context name args
  rcases course_callOver chain schedule state context name args with
    ⟨hevents, -⟩ | ⟨tool, htool, hname, accepted, result, hvalid, hcourse, -⟩
  · rw [hevents]
    exact ⟨.of_unsent (by simp) (by simp), by simp⟩
  · cases hkey : takesKey tool with
    | false =>
        have hreads := reading_of_keyless context accepted htool hkey result _ hcourse
        exact ⟨.of_reading hreads, fun _ _ _ _ => hreads⟩
    | true =>
        refine ⟨?_, fun other hother hothername hkeyless => ?_⟩
        · refine .of_signing (signs_of_takesKey htool hkey result _ hcourse) ?_
          rintro opening plan hopening ⟨network, hopened⟩
          obtain ⟨identifier, key, signer, -, hsigning, -, hsigner, haccount⟩ :=
            hopened.resolved fun event hevent => hgives event (hopening event hevent)
          exact ⟨key, signer, keyInUse_of_signingKey htool hkey hvalid hsigning, hsigner,
            by rw [haccount]⟩
        · obtain rfl := eq_of_name_eq hother htool (hothername.trans hname.symm)
          rw [hkeyless] at hkey
          cases hkey

end StakingGateway.Operation
