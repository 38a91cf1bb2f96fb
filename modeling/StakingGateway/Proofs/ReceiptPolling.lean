import Mathlib.Data.Nat.Find
import StakingGateway.Proofs.HeldSessions
import StakingGateway.Proofs.NodeAnswers

/-!
# Waiting for receipts

A node answers the question for a receipt with any replies in turn. The looks stand at the multiples
of the interval, so the first reply that is more than "not yet" decides the outcome when its look
comes before the deadline; any later one is not waited for.
-/

namespace StakingGateway.Node

def Pending (hash : TxHash) (reply : Reply) : Prop :=
  (Question.receipt hash).resultOf reply = .ok none

/-- The first reply that is a receipt or a failure. -/
structure FirstSettled (hash : TxHash) (replies : Nat → Reply) (k : Nat) : Prop where
  pending : ∀ i < k, Pending hash (replies i)
  settled : ¬ Pending hash (replies k)

inductive Brings (hash : TxHash) (reply : Reply) : Except Chain.Error Chain.Receipt → Prop
  | receipt {found : Receipt} {receipt : Chain.Receipt}
      (hfound : (Question.receipt hash).resultOf reply = .ok (some found))
      (hhash : receipt.hash = hash) (hblock : receipt.blockNumber = found.blockNumber)
      (hgas : receipt.gasUsed = found.gasUsed)
      (hstatus : receipt.status = .success ↔ found.status = some 1) : Brings hash reply (.ok receipt)
  | failure {e : Error} (hfailed : (Question.receipt hash).resultOf reply = .error e) :
      Brings hash reply (.error (.noReceipt hash.text e.message))

/-- Nodes that give some replies in turn; the state counts them. -/
def inTurn (replies : Nat → Reply) : Nodes Nat := fun _ _ count => (replies count, count + 1)

theorem earlier_time (a b : Ticket) : (a.earlier b).time = min a.time b.time := by
  simp only [Ticket.earlier, Ticket.isBefore, Bool.or_eq_true, Bool.and_eq_true, decide_eq_true_eq]
  split <;> omega

theorem brings_report {hash : TxHash} {reply : Reply} {found : Receipt}
    (h : (Question.receipt hash).resultOf reply = .ok (some found)) :
    Brings hash reply (.ok (found.report hash)) := by
  refine .receipt h rfl rfl rfl ?_
  simp only [Receipt.report]
  split <;> simp_all

theorem Brings.eq_report {hash : TxHash} {reply : Reply} {found : Receipt}
    {outcome : Except Chain.Error Chain.Receipt} (hbrings : Brings hash reply outcome)
    (h : (Question.receipt hash).resultOf reply = .ok (some found)) :
    outcome = .ok (found.report hash) := by
  cases hbrings with
  | receipt hfound hhash hblock hgas hstatus =>
      rename_i other receipt
      obtain rfl : other = found := by simpa [hfound] using h
      obtain ⟨hash', status, block, gas⟩ := receipt
      simp only [Receipt.report] at *
      subst hhash hblock hgas
      cases status <;> simp_all
  | failure hfailed => rw [hfailed] at h; cases h

section Looks

variable {timing : Timing} {client : Client} {hash : TxHash} {replies : Nat → Reply}
  {world : World Nat}

def World.replied (world : World Nat) : World Nat := { world with nodes := world.nodes + 1 }

theorem hear_inTurn {α : Type} (question : Question) (next : Reply → Session α) :
    (inTurn replies).hear (.ask (.ask client question) next) world =
      behind ⟨client, question⟩
        ((inTurn replies).hear (next (replies world.nodes)) world.replied) :=
  hear_ask client question next

theorem hear_look_pending {missing : Session (Except Chain.Error Chain.Receipt)} {j : Nat}
    (hasked : world.nodes = j) (h : Pending hash (replies j)) :
    (inTurn replies).hear (look client hash missing) world =
      behind ⟨client, .receipt hash⟩ ((inTurn replies).hear missing world.replied) := by
  rw [look, ask, hear_inTurn, hasked, h]

theorem hear_look_settled {missing : Session (Except Chain.Error Chain.Receipt)} {j : Nat}
    (hasked : world.nodes = j) (h : ¬ Pending hash (replies j)) :
    ∃ outcome, Brings hash (replies j) outcome ∧
      (inTurn replies).hear (look client hash missing) world =
        (outcome, [⟨client, .receipt hash⟩]) := by
  rw [look, ask, hear_inTurn, hasked]
  unfold Pending at h
  rcases hresult : (Question.receipt hash).resultOf (replies j) with e | _ | found
  · exact ⟨_, .failure hresult, rfl⟩
  · exact absurd hresult h
  · exact ⟨_, brings_report hresult, rfl⟩

/-- The look behind `j` others is due: the ticket for it says when, and it is not yet later. -/
structure Due (timing : Timing) (deadline next : Ticket) (j : Nat) (world : World Nat) : Prop where
  asked : world.nodes = j
  now : world.now ≤ j * timing.pollInterval
  next : next.time = j * timing.pollInterval
  deadline : deadline.time = timing.receiptTimeout

variable {deadline next : Ticket} {j : Nat}

theorem Due.now_eq (h : Due timing deadline next j world)
    (htime : j * timing.pollInterval ≤ timing.receiptTimeout) :
    max world.now (deadline.earlier next).time = j * timing.pollInterval := by
  rw [earlier_time, h.deadline, h.next, Nat.min_eq_right htime, Nat.max_eq_right h.now]

/-- A look that is in time is made when it is due. -/
theorem Due.hear_lookAgain (h : Due timing deadline next j world)
    (htime : j * timing.pollInterval ≤ timing.receiptTimeout) (looks : Nat) :
    (inTurn replies).hear (lookAgain timing client hash deadline (looks + 1) next) world =
      (inTurn replies).hear
        (look client hash do
          lookAgain timing client hash deadline looks (← timer timing.pollInterval))
        { world with now := j * timing.pollInterval } := by
  have hnext : ¬ deadline.time < next.time := by rw [h.deadline, h.next]; omega
  rw [lookAgain, if_neg hnext, hear_wait_bind, h.now_eq htime]

/-- A look that finds nothing makes the next one due. -/
theorem Due.hear_lookAgain_pending (h : Due timing deadline next j world)
    (htime : j * timing.pollInterval ≤ timing.receiptTimeout) (hpending : Pending hash (replies j))
    (looks : Nat) :
    ∃ after later, Due timing deadline after (j + 1) later ∧
      (inTurn replies).hear (lookAgain timing client hash deadline (looks + 1) next) world =
        behind ⟨client, .receipt hash⟩
          ((inTurn replies).hear (lookAgain timing client hash deadline looks after) later) := by
  refine ⟨⟨j * timing.pollInterval + timing.pollInterval, world.issued⟩,
    ⟨world.nodes + 1, j * timing.pollInterval, world.issued + 1⟩, ?_, ?_⟩
  · exact {
      asked := congrArg (· + 1) h.asked
      now := Nat.mul_le_mul_right _ (Nat.le_succ j)
      next := (Nat.succ_mul ..).symm
      deadline := h.deadline }
  · rw [h.hear_lookAgain htime, hear_look_pending (by exact h.asked) hpending, hear_timer_bind]
    rfl

theorem Due.hear_lookAgain_settled (h : Due timing deadline next j world)
    (htime : j * timing.pollInterval ≤ timing.receiptTimeout)
    (hsettled : ¬ Pending hash (replies j)) (looks : Nat) :
    ∃ outcome, Brings hash (replies j) outcome ∧
      (inTurn replies).hear (lookAgain timing client hash deadline (looks + 1) next) world =
        (outcome, [⟨client, .receipt hash⟩]) := by
  rw [h.hear_lookAgain htime]
  exact hear_look_settled (by exact h.asked) hsettled

/-- The first reply that is a receipt or a failure decides, when its look is in time. -/
theorem hear_lookAgain_of_settled {looks d k : Nat} (hdue : Due timing deadline next j world)
    (hk : j + d = k) (hfirst : FirstSettled hash replies k)
    (htime : k * timing.pollInterval ≤ timing.receiptTimeout) (hlooks : d < looks) :
    ∃ outcome, Brings hash (replies k) outcome ∧
      (inTurn replies).hear (lookAgain timing client hash deadline looks next) world =
        (outcome, List.replicate (d + 1) ⟨client, .receipt hash⟩) := by
  induction d generalizing looks j world next with
  | zero =>
      obtain ⟨looks, rfl⟩ := Nat.exists_eq_add_one_of_ne_zero (Nat.ne_zero_of_lt hlooks)
      obtain rfl : j = k := hk
      exact hdue.hear_lookAgain_settled htime hfirst.settled looks
  | succ d ih =>
      obtain ⟨looks, rfl⟩ := Nat.exists_eq_add_one_of_ne_zero (Nat.ne_zero_of_lt hlooks)
      have hj : j < k := by omega
      have hinTime : j * timing.pollInterval ≤ timing.receiptTimeout :=
        Nat.le_trans (Nat.mul_le_mul_right _ (Nat.le_of_lt hj)) htime
      obtain ⟨after, later, hlater, hheard⟩ :=
        hdue.hear_lookAgain_pending hinTime (hfirst.pending j hj) looks
      obtain ⟨outcome, hbrings, hrest⟩ := ih hlater (by omega) (Nat.lt_of_succ_lt_succ hlooks)
      exact ⟨outcome, hbrings, by rw [hheard, hrest]; rfl⟩

/-- While all replies in time are "not yet", the time runs out. -/
theorem hear_lookAgain_of_pending (client : Client) {looks : Nat}
    (hdue : Due timing deadline next j world)
    (hpending : ∀ i, i * timing.pollInterval ≤ timing.receiptTimeout → Pending hash (replies i)) :
    ((inTurn replies).hear (lookAgain timing client hash deadline looks next) world).1 =
      .error (.receiptTimeout hash.text (timing.receiptTimeout / 1000)) := by
  induction looks generalizing j world next with
  | zero => rfl
  | succ looks ih =>
      by_cases htime : j * timing.pollInterval ≤ timing.receiptTimeout
      · obtain ⟨after, later, hlater, hheard⟩ :=
          hdue.hear_lookAgain_pending htime (hpending j htime) looks
        rw [hheard]
        exact ih hlater
      · have hlate : deadline.time < next.time := by
          rw [hdue.deadline, hdue.next]
          omega
        rw [lookAgain, if_pos hlate]
        rfl

end Looks

section Awaited

variable (timing : Timing) (client : Client) {hash : TxHash} {replies : Nat → Reply}

theorem hear_awaitReceipt_settled (hsettled : ¬ Pending hash (replies 0)) :
    ∃ outcome, Brings hash (replies 0) outcome ∧
      (inTurn replies).hear (awaitReceipt timing client hash) ⟨0, 0, 0⟩ =
        (outcome, [⟨client, .receipt hash⟩]) :=
  hear_look_settled (by rfl) hsettled

/-- The deadline is set with the ticket for the second look. -/
theorem hear_awaitReceipt_pending (hpending : Pending hash (replies 0)) :
    ∃ deadline after later, Due timing deadline after 1 later ∧
      (inTurn replies).hear (awaitReceipt timing client hash) ⟨0, 0, 0⟩ =
        behind ⟨client, .receipt hash⟩
          ((inTurn replies).hear (lookAgain timing client hash deadline timing.furtherLooks after)
            later) := by
  refine ⟨⟨0 + timing.receiptTimeout, 1⟩, ⟨0 + timing.pollInterval, 0⟩, ⟨1, 0, 2⟩, ?_, ?_⟩
  · exact {
      asked := rfl
      now := Nat.zero_le _
      next := (Nat.zero_add _).trans (Nat.one_mul _).symm
      deadline := Nat.zero_add _ }
  · rw [awaitReceipt, hear_look_pending (by rfl) hpending, hear_timer_bind, hear_timer_bind]
    rfl

end Awaited

/-- With an interval between looks and replies that take no time: the first reply that is more than
"not yet" is reported when its look comes before the deadline, after exactly the looks up to it, and
the time runs out when there is no such reply before the deadline. -/
theorem receipt_awaited {timing : Timing} (hinterval : 0 < timing.pollInterval) (client : Client)
    (hash : TxHash) (replies : Nat → Reply) :
    let held := ((inTurn replies).hold (awaitReceipt timing client hash) 0).1
    (∀ k, FirstSettled hash replies k → k * timing.pollInterval < timing.receiptTimeout →
      Brings hash (replies k) held.1 ∧
        held.2 = List.replicate (k + 1) ⟨client, .receipt hash⟩) ∧
    ((∀ k, FirstSettled hash replies k → timing.receiptTimeout < k * timing.pollInterval) →
      held.1 = .error (.receiptTimeout hash.text (timing.receiptTimeout / 1000))) := by
  intro held
  have hheld : held = (inTurn replies).hear (awaitReceipt timing client hash) ⟨0, 0, 0⟩ :=
    hold_eq_hear _ _
  rw [hheld]
  constructor
  · intro k hfirst htime
    cases k with
    | zero =>
        obtain ⟨outcome, hbrings, hheard⟩ := hear_awaitReceipt_settled timing client hfirst.settled
        rw [hheard]
        exact ⟨hbrings, rfl⟩
    | succ d =>
        have hlooks : d < timing.furtherLooks := by
          have hd : d + 1 ≤ (d + 1) * timing.pollInterval := Nat.le_mul_of_pos_right _ hinterval
          have hbound : timing.receiptTimeout ≤ timing.furtherLooks := Nat.le_max_left _ _
          omega
        obtain ⟨deadline, after, later, hdue, hheard⟩ :=
          hear_awaitReceipt_pending timing client (hfirst.pending 0 (Nat.succ_pos d))
        obtain ⟨outcome, hbrings, hrest⟩ :=
          hear_lookAgain_of_settled hdue (Nat.add_comm 1 d) hfirst (Nat.le_of_lt htime) hlooks
        rw [hheard, hrest]
        exact ⟨hbrings, rfl⟩
  · intro hlate
    have hpending : ∀ i, i * timing.pollInterval ≤ timing.receiptTimeout →
        Pending hash (replies i) := by
      classical
      intro i hi
      by_contra hsettled
      have hexists : ∃ k, ¬ Pending hash (replies k) := ⟨i, hsettled⟩
      have hfirst : FirstSettled hash replies (Nat.find hexists) :=
        ⟨fun j hj => not_not.mp (Nat.find_min hexists hj), Nat.find_spec hexists⟩
      have hle : Nat.find hexists * timing.pollInterval ≤ i * timing.pollInterval :=
        Nat.mul_le_mul_right _ (Nat.find_min' hexists hsettled)
      exact absurd (hlate _ hfirst) (Nat.not_lt.mpr (Nat.le_trans hle hi))
    obtain ⟨deadline, after, later, hdue, hheard⟩ :=
      hear_awaitReceipt_pending timing client (hpending 0 (by simp))
    rw [hheard]
    exact hear_lookAgain_of_pending client hdue hpending

/-- The third look finds the receipt of a transaction that failed; without any receipt the time
runs out, and its whole seconds are told. -/
theorem receipt_awaited_third :
    let timing : Timing := ⟨2500, 500⟩
    let client : Client := ⟨.ethereum, "https://eth.llamarpc.com"⟩
    let hash := TxHash.ofNat 0xabc
    let replies : Nat → Reply := fun i =>
      if i < 2 then .result .null else .result (failedReceipt hash)
    0 < timing.pollInterval ∧ FirstSettled hash replies 2 ∧
      Brings hash (replies 2) (.ok ⟨hash, .failed, some 16, some 21000⟩) ∧
      ((inTurn replies).hold (awaitReceipt timing client hash) 0).1 =
        (.ok ⟨hash, .failed, some 16, some 21000⟩, List.replicate 3 ⟨client, .receipt hash⟩) ∧
      ((inTurn fun _ => .result .null).hold (awaitReceipt timing client hash) 0).1.1 =
        .error (.receiptTimeout hash.text 2) := by
  intro timing client hash replies
  have hfound : (Question.receipt hash).resultOf (replies 2) =
      .ok (some ⟨some 0, some 16, some 21000⟩) := by
    rw [show replies 2 = .result (failedReceipt hash) from if_neg (by decide)]
    exact resultOf_failedReceipt hash
  have hfirst : FirstSettled hash replies 2 := by
    refine ⟨fun i hi => ?_, fun hpending => ?_⟩
    · simp only [replies, if_pos hi]
      rfl
    · rw [Pending, hfound] at hpending
      cases hpending
  have hinterval : 0 < timing.pollInterval := by decide
  obtain ⟨hbrings, hasked⟩ :=
    (receipt_awaited hinterval client hash replies).1 2 hfirst (by decide)
  have hnone : ∀ k, ¬ FirstSettled hash (fun _ => .result .null) k := fun k h => h.settled rfl
  have hlate := (receipt_awaited hinterval client hash fun _ => .result .null).2
    fun k hk => absurd hk (hnone k)
  have hseconds : timing.receiptTimeout / 1000 = 2 := by decide
  exact ⟨hinterval, hfirst, brings_report hfound, Prod.ext (hbrings.eq_report hfound) hasked,
    hlate.trans (congrArg (Except.error ∘ Chain.Error.receiptTimeout hash.text) hseconds)⟩

end StakingGateway.Node
