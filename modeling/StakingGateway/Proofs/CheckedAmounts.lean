import StakingGateway.Amount.Format
import StakingGateway.Proofs.ExactPercent

/-!
# Calculations in checked steps

The calculations behind the reports, with a result for every step: a sum or product that leaves its
word, a power of ten that has no word and a division by zero give nothing. All of them give what the
calculation itself gives, so none of their steps fails, for any words.
-/

namespace StakingGateway

namespace Word

variable {bits : Nat} {x y w : Word bits}

def checkedDiv (x y : Word bits) : Option (Word bits) :=
  if y.toNat = 0 then none else ofNat? (x.toNat / y.toNat)

def checkedMod (x y : Word bits) : Option (Word bits) :=
  if y.toNat = 0 then none else ofNat? (x.toNat % y.toNat)

theorem checkedDiv_eq_some :
    checkedDiv x y = some w ↔ y.toNat ≠ 0 ∧ w.toNat = x.toNat / y.toNat := by
  unfold checkedDiv
  split_ifs with hzero <;> simp [hzero, ofNat?_eq_some]

theorem checkedMod_eq_some :
    checkedMod x y = some w ↔ y.toNat ≠ 0 ∧ w.toNat = x.toNat % y.toNat := by
  unfold checkedMod
  split_ifs with hzero <;> simp [hzero, ofNat?_eq_some]

theorem exists_checkedDiv (x : Word bits) (hy : y.toNat ≠ 0) :
    ∃ w, checkedDiv x y = some w ∧ w.toNat = x.toNat / y.toNat := by
  obtain ⟨w, hw⟩ := exists_toNat_eq (Nat.lt_of_le_of_lt (Nat.div_le_self x.toNat y.toNat) x.isLt)
  exact ⟨w, checkedDiv_eq_some.mpr ⟨hy, hw⟩, hw⟩

theorem exists_checkedMod (x : Word bits) (hy : y.toNat ≠ 0) :
    ∃ w, checkedMod x y = some w ∧ w.toNat = x.toNat % y.toNat := by
  obtain ⟨w, hw⟩ := exists_toNat_eq (Nat.lt_of_le_of_lt (Nat.mod_le x.toNat y.toNat) x.isLt)
  exact ⟨w, checkedMod_eq_some.mpr ⟨hy, hw⟩, hw⟩

theorem toNat_saturatingSub (x y : Word bits) :
    (saturatingSub x y).toNat = x.toNat - y.toNat := by
  rw [saturatingSub, BitVec.toNat_ofNat]
  exact Nat.mod_eq_of_lt (Nat.lt_of_le_of_lt (Nat.sub_le _ _) x.isLt)

end Word

namespace Amount

/-- A percentage with a check of every sum, product and division. -/
def percentSteps (part whole : Uint512) (places : Nat) : Option String :=
  if whole.toNat = 0 then some "0"
  else do
    let unit ← Word.pow10? places
    let scaled := Word.saturatingMul (Word.saturatingMul part 100) unit
    let doubled ← Word.checkedAdd (Word.saturatingMul scaled 2) whole
    let divisor ← Word.checkedMul whole 2
    let quotient ← Word.checkedDiv doubled divisor
    return String.ofList (pointChars places (Text.digits quotient.toNat))

def rateSteps (rewardPerSecond staked : Uint256) : Option String :=
  if rewardPerSecond.toNat = 0 || staked.toNat = 0 then some "0"
  else do
    let seconds : Uint256 := BitVec.ofNat 256 secondsPerYear
    let yearly ← Word.checkedMul (rewardPerSecond.widen 256) (seconds.widen 256)
    percentSteps yearly (staked.widen 256) rateDecimals

def priceSteps (pooled shares : Uint256) : Option Uint256 :=
  if shares.toNat = 0 then some 0
  else do
    let unit : Uint256 ← Word.pow10? 18
    let product ← Word.checkedMul (pooled.widen 256) (unit.widen 256)
    let quotient ← Word.checkedDiv product (shares.widen 256)
    return Word.clamp quotient.toNat

def unitsSteps (amount : Uint256) (decimals : Nat) : Option String :=
  if decimals ≤ maxDecimals then do
    let unit ← Word.pow10? decimals
    let whole ← Word.checkedDiv amount unit
    let rest ← Word.checkedMod amount unit
    let fraction := fractionChars decimals rest.toNat
    return String.ofList
      (if fraction.isEmpty then Text.digits whole.toNat
        else Text.digits whole.toNat ++ '.' :: fraction)
  else some (String.ofList (Text.digits amount.toNat))

theorem percentSteps_of_ok {part whole : Uint512} {places : Nat} {text : String}
    (h : percentWide part whole places = .ok text) : percentSteps part whole places = some text := by
  unfold percentWide at h
  unfold percentSteps
  by_cases hwhole : whole.toNat = 0
  · rw [if_pos hwhole] at h ⊢
    exact congrArg some (Except.ok.inj h)
  · rw [if_neg hwhole] at h ⊢
    simp only [checked_bind_eq_ok] at h
    obtain ⟨unit, hunit, doubled, hdoubled, divisor, hdivisor, htext⟩ := h
    -- The divisor is twice a whole that is not zero.
    have hne : divisor.toNat ≠ 0 := by
      rw [checkedMul_two_eq_some.mp hdivisor]
      exact Nat.mul_ne_zero (by decide) hwhole
    obtain ⟨quotient, hquotient, hvalue⟩ := Word.exists_checkedDiv doubled hne
    simp only [hunit, hdoubled, hdivisor, hquotient, hvalue, Option.bind_eq_bind, Option.bind_some]
    exact congrArg some (Except.ok.inj htext)

/-- The product of two widened words is their whole product. -/
theorem checkedMul_widen (x y : Uint256) :
    Word.checkedMul (x.widen 256) (y.widen 256) = some (x.wideMul y) := by
  rw [Word.checkedMul_eq_some, Word.toNat_wideMul, Word.toNat_widen, Word.toNat_widen]

theorem rateSteps_of_ok {rewardPerSecond staked : Uint256} {text : String}
    (h : estimatedRate rewardPerSecond staked = .ok text) :
    rateSteps rewardPerSecond staked = some text := by
  unfold estimatedRate at h
  unfold rateSteps
  split_ifs at h ⊢ with hzero
  · exact congrArg some (Except.ok.inj h)
  · simp only [checkedMul_widen, Option.bind_eq_bind, Option.bind_some]
    exact percentSteps_of_ok h

theorem priceSteps_eq (pooled shares : Uint256) :
    priceSteps pooled shares = some (sharePrice pooled shares) := by
  unfold priceSteps sharePrice
  split_ifs with hzero
  · rfl
  · have hunit : (Word.pow10? 18 : Option Uint256) = some (BitVec.ofNat 256 (Nat.pow 10 18)) := by
      decide +kernel
    have hshares : (shares.widen 256).toNat ≠ 0 := by rwa [Word.toNat_widen]
    obtain ⟨quotient, hquotient, hvalue⟩ := Word.exists_checkedDiv
      (pooled.wideMul (BitVec.ofNat 256 (Nat.pow 10 18))) hshares
    rw [Word.toNat_widen] at hvalue
    simp only [hunit, checkedMul_widen, hquotient, hvalue, Option.bind_eq_bind, Option.bind_some]
    rfl

theorem unitsSteps_eq (amount : Uint256) (decimals : Nat) :
    unitsSteps amount decimals = some (formatUnits amount decimals) := by
  unfold unitsSteps formatUnits unitsChars
  split_ifs with hdecimals
  · have hlt : 10 ^ decimals < 2 ^ 256 :=
      calc 10 ^ decimals ≤ 10 ^ maxDecimals := Nat.pow_le_pow_right (by decide) hdecimals
        _ < 2 ^ 256 := by decide +kernel
    obtain ⟨unit, hunit⟩ := Word.exists_toNat_eq hlt
    have hne : unit.toNat ≠ 0 := by
      rw [hunit]
      exact Nat.ne_of_gt (Nat.pow_pos (by decide))
    obtain ⟨whole, hwhole, hquotient⟩ := Word.exists_checkedDiv amount hne
    obtain ⟨rest, hrest, hremainder⟩ := Word.exists_checkedMod amount hne
    rw [hunit] at hquotient hremainder
    simp only [Word.pow10?_eq_some.mpr hunit, hwhole, hrest, hquotient, hremainder,
      Option.bind_eq_bind, Option.bind_some]
    rfl
  · rfl

/-- Every calculation behind a report has a result that its checked steps give too. -/
structure Calculable : Prop where
  share : ∀ staked total : Uint256, ∃ text,
    percentSteps (staked.widen 256) (total.widen 256) shareDecimals = some text ∧
      percent staked total shareDecimals = .ok text
  rate : ∀ rewardPerSecond staked : Uint256, ∃ text,
    rateSteps rewardPerSecond staked = some text ∧ estimatedRate rewardPerSecond staked = .ok text
  price : ∀ pooled shares : Uint256, priceSteps pooled shares = some (sharePrice pooled shares)
  units : ∀ (amount : Uint256) (decimals : Nat),
    unitsSteps amount decimals = some (formatUnits amount decimals)
  /-- A balance that went down counts as nothing received. -/
  difference : ∀ after before : Uint256,
    (Word.saturatingSub after before).toNat = after.toNat - before.toNat

theorem calculable : Calculable where
  share staked total := by
    obtain ⟨text, htext, -⟩ := percent_of_words staked total (by decide : shareDecimals ≤ 74)
    exact ⟨text, percentSteps_of_ok htext, htext⟩
  rate rewardPerSecond staked := by
    obtain ⟨text, htext⟩ := estimatedRate_of_words rewardPerSecond staked
    exact ⟨text, rateSteps_of_ok htext, htext⟩
  price := priceSteps_eq
  units := unitsSteps_eq
  difference := Word.toNat_saturatingSub

end Amount

end StakingGateway
