import Mathlib.Tactic.GCongr
import StakingGateway.Proofs.ExactPercent

/-!
# Exact yearly rates

The rewards of a year in percent of the stake have a text for all words: the exact rate, rounded
half up to two places. Rounding respects order, so the number in the text rises with the rewards and
falls with the stake.
-/

namespace StakingGateway.Amount

open Text

def yearlyPercent (rewardPerSecond staked : Nat) : ℚ :=
  rewardPerSecond * 31536000 * 100 / staked

/-- The text says the rate with two places, rounded half up, and without a needless zero. -/
structure IsYearlyRate (rewardPerSecond staked : Nat) (n : DecimalText) : Prop where
  whole : NoLeadingZero n.whole
  places : n.fraction.map List.length = some 2
  half_up : n.value = ⌊yearlyPercent rewardPerSecond staked * 10 ^ 2 + 1 / 2⌋₊ / 10 ^ 2

variable {rewardPerSecond staked : Uint256}

/-- With rewards and a stake, the rate is a percentage of the rewards of the year. -/
theorem estimatedRate_eq_percentWide (hreward : rewardPerSecond.toNat ≠ 0)
    (hstaked : staked.toNat ≠ 0) :
    estimatedRate rewardPerSecond staked =
      percentWide (rewardPerSecond.wideMul (BitVec.ofNat 256 secondsPerYear)) (staked.widen 256)
        rateDecimals := by
  rw [estimatedRate, if_neg]
  simp [hreward, hstaked]

theorem exists_isYearlyRate (hreward : rewardPerSecond.toNat ≠ 0) (hstaked : staked.toNat ≠ 0) :
    ∃ n : DecimalText, estimatedRate rewardPerSecond staked = .ok n.text ∧
      IsYearlyRate rewardPerSecond.toNat staked.toNat n := by
  have hseconds : (BitVec.ofNat 256 secondsPerYear).toNat = 31536000 := by decide +kernel
  have hwide : (staked.widen 256).toNat = staked.toNat := Word.toNat_widen staked 256
  obtain ⟨text, htext⟩ := estimatedRate_of_words rewardPerSecond staked
  have hpercent := htext
  rw [estimatedRate_eq_percentWide hreward hstaked] at hpercent
  have hne : (staked.widen 256).toNat ≠ 0 := fun hzero => hstaked (hwide.symm.trans hzero)
  obtain ⟨-, hexact⟩ := ((exactOrOverflow_percentWide hne).exact text).mp hpercent
  rw [Word.toNat_wideMul, hseconds, hwide] at hexact
  obtain ⟨n, rfl, hn⟩ := hexact.quotient
  refine ⟨n, htext, hn.whole, hn.fraction, ?_⟩
  rw [hn.value, hexact.half_up, yearlyPercent, rateDecimals]
  push_cast
  rw [mul_comm 100]

/-- A text of a rate is the text of its rate. -/
theorem isYearlyRate_of_text (hreward : rewardPerSecond.toNat ≠ 0) (hstaked : staked.toNat ≠ 0)
    {n : DecimalText} (h : estimatedRate rewardPerSecond staked = .ok n.text) :
    IsYearlyRate rewardPerSecond.toNat staked.toNat n := by
  obtain ⟨m, hm, hrate⟩ := exists_isYearlyRate hreward hstaked
  rw [h] at hm
  rwa [DecimalText.text_injective (Except.ok.inj hm)]

theorem yearlyPercent_mono {reward more less stake : Nat} (hreward : reward ≤ more)
    (hpos : 0 < less) (hstake : less ≤ stake) :
    yearlyPercent reward stake ≤ yearlyPercent more less := by
  have hless : (0 : ℚ) < less := by exact_mod_cast hpos
  have hle : (less : ℚ) ≤ stake := by exact_mod_cast hstake
  have hmore : (reward : ℚ) ≤ more := by exact_mod_cast hreward
  unfold yearlyPercent
  gcongr

theorem IsYearlyRate.mono {reward more less stake : Nat} {n m : DecimalText}
    (hn : IsYearlyRate reward stake n) (hm : IsYearlyRate more less m) (hreward : reward ≤ more)
    (hpos : 0 < less) (hstake : less ≤ stake) : n.value ≤ m.value := by
  have hrate := yearlyPercent_mono hreward hpos hstake
  have hfloor : ⌊yearlyPercent reward stake * 10 ^ 2 + 1 / 2⌋₊ ≤
      ⌊yearlyPercent more less * 10 ^ 2 + 1 / 2⌋₊ := by gcongr
  rw [hn.half_up, hm.half_up]
  gcongr

theorem estimatedRate_of_zero (h : rewardPerSecond.toNat = 0 ∨ staked.toNat = 0) :
    estimatedRate rewardPerSecond staked = .ok "0" := by
  rw [estimatedRate, if_pos]
  simpa using h

/-- A yearly rate has a text for all words: the plain zero without rewards or without a stake, and
the exact rate with two places otherwise. More rewards never lower it, and more stake never raises
it. -/
theorem estimatedRate_exact :
    (∀ rewardPerSecond staked : Uint256, rewardPerSecond.toNat = 0 ∨ staked.toNat = 0 →
      estimatedRate rewardPerSecond staked = .ok "0") ∧
    (∀ rewardPerSecond staked : Uint256, 0 < rewardPerSecond.toNat → 0 < staked.toNat →
      ∃ n : DecimalText, estimatedRate rewardPerSecond staked = .ok n.text ∧
        IsYearlyRate rewardPerSecond.toNat staked.toNat n) ∧
    ∀ reward more less stake : Uint256, 0 < reward.toNat → reward.toNat ≤ more.toNat →
      0 < less.toNat → less.toNat ≤ stake.toNat → ∀ n m : DecimalText,
        estimatedRate reward stake = .ok n.text → estimatedRate more less = .ok m.text →
          n.value ≤ m.value := by
  refine ⟨fun _ _ => estimatedRate_of_zero, fun _ _ hreward hstaked => ?_, ?_⟩
  · exact exists_isYearlyRate (Nat.ne_of_gt hreward) (Nat.ne_of_gt hstaked)
  · intro reward more less stake hpos hreward hless hstake n m hn hm
    have hmore : more.toNat ≠ 0 := Nat.ne_of_gt (Nat.lt_of_lt_of_le hpos hreward)
    have hstaked : stake.toNat ≠ 0 := Nat.ne_of_gt (Nat.lt_of_lt_of_le hless hstake)
    have hlower := isYearlyRate_of_text (Nat.ne_of_gt hpos) hstaked hn
    have hhigher := isYearlyRate_of_text hmore (Nat.ne_of_gt hless) hm
    exact hlower.mono hhigher hreward hless hstake

/-- Ten tokens a year for a thousand are one percent, and a token a second for half of them is far
more. -/
theorem estimatedRate_exact_tokens :
    let slow : Uint256 := BitVec.ofNat 256 317097919837
    let fast : Uint256 := BitVec.ofNat 256 (10 ^ 18)
    let stake : Uint256 := BitVec.ofNat 256 (1000 * 10 ^ 18)
    let half : Uint256 := BitVec.ofNat 256 (500 * 10 ^ 18)
    estimatedRate slow 0 = .ok "0" ∧
      estimatedRate slow stake = .ok "1.00" ∧ estimatedRate fast half = .ok "6307200.00" ∧
      ∃ n m : DecimalText, n.text = "1.00" ∧ IsYearlyRate slow.toNat stake.toNat n ∧
        m.text = "6307200.00" ∧ IsYearlyRate fast.toNat half.toNat m ∧ n.value ≤ m.value := by
  intro slow fast stake half
  obtain ⟨hzero, hexact, hmono⟩ := estimatedRate_exact
  have hslow : estimatedRate slow stake = .ok "1.00" := by decide +kernel
  have hfast : estimatedRate fast half = .ok "6307200.00" := by decide +kernel
  obtain ⟨n, hn, hlower⟩ := hexact slow stake (by decide +kernel) (by decide +kernel)
  obtain ⟨m, hm, hhigher⟩ := hexact fast half (by decide +kernel) (by decide +kernel)
  refine ⟨hzero slow 0 (by decide +kernel), hslow, hfast, n, m, ?_, hlower, ?_, hhigher, ?_⟩
  · exact Except.ok.inj (hn.symm.trans hslow)
  · exact Except.ok.inj (hm.symm.trans hfast)
  · exact hmono slow fast half stake (by decide +kernel) (by decide +kernel) (by decide +kernel)
      (by decide +kernel) n m hn hm

-- The largest rewards on the smallest stake still have a rate.
example : (estimatedRate (BitVec.allOnes 256) 1).isOk = true := by decide +kernel

end StakingGateway.Amount
