import Mathlib.Algebra.Order.Floor.Semifield
import Mathlib.Data.Rat.Floor
import StakingGateway.Amount.Percent
import StakingGateway.Proofs.CheckedWords
import StakingGateway.Proofs.DecimalText

/-!
# Exact percentages

A percentage is a quotient that is printed with a fixed number of digits behind the point. Its
products saturate, but a saturated product never reaches the division: the sum behind it overflows.
So a percentage is exact or it fails.
-/

namespace StakingGateway.Amount

open Text

/-! ## A quotient with a point -/

/-- The text says `quotient / 10 ^ places`, with exactly `places` digits behind the point, without a
point if there are none, and without a needless zero in front. -/
structure PrintsQuotient (places quotient : Nat) (n : DecimalText) : Prop where
  whole : NoLeadingZero n.whole
  fraction : n.fraction.map List.length = if places = 0 then none else some places
  value : n.value = quotient / 10 ^ places

variable {places quotient : Nat} {n m : DecimalText}

theorem PrintsQuotient.fraction_eq (h : PrintsQuotient places quotient n) :
    n.behindPoint.length = places ∧
      n.fraction = if places = 0 then none else some n.behindPoint := by
  have hlength := h.fraction
  rw [DecimalText.behindPoint]
  by_cases hplaces : places = 0
  · rw [if_pos hplaces] at hlength ⊢
    rw [Option.map_eq_none_iff.mp hlength]
    exact ⟨hplaces.symm, rfl⟩
  · rw [if_neg hplaces] at hlength ⊢
    obtain ⟨digits, hdigits, hcount⟩ := Option.map_eq_some_iff.mp hlength
    rw [hdigits]
    exact ⟨hcount, rfl⟩

theorem PrintsQuotient.unique (hn : PrintsQuotient places quotient n)
    (hm : PrintsQuotient places quotient m) : n = m := by
  obtain ⟨hplaces, hfraction⟩ := hn.fraction_eq
  obtain ⟨hplaces', hfraction'⟩ := hm.fraction_eq
  obtain ⟨hwhole, hbehind⟩ :=
    DecimalText.parts_eq_of_value_eq hn.whole hm.whole (hn.value.trans hm.value.symm)
  have hrow : n.behindPoint = m.behindPoint := by
    apply eq_of_valueOfDigits_eq (hplaces.trans hplaces'.symm) n.behindPoint_digits
      m.behindPoint_digits
    rw [placeValue_eq, placeValue_eq, hplaces, hplaces'] at hbehind
    field_simp at hbehind
    exact_mod_cast hbehind
  apply DecimalText.ext
  · exact hwhole
  · rw [hfraction, hfraction', hrow]

variable (places quotient)

def row : List Char := padZeros (places + 1) (digits quotient)

theorem lt_length_row : places < (row places quotient).length := by
  rw [row, padZeros, List.length_append, List.length_replicate]
  omega

theorem areDigits_row : areDigits (row places quotient) = true :=
  areDigits_padZeros _ (areDigits_digits quotient)

def beforePoint : List Char :=
  (row places quotient).take ((row places quotient).length - places)

def afterPoint : List Char :=
  (row places quotient).drop ((row places quotient).length - places)

theorem beforePoint_append_afterPoint :
    beforePoint places quotient ++ afterPoint places quotient = row places quotient :=
  List.take_append_drop _ _

theorem length_afterPoint : (afterPoint places quotient).length = places := by
  have hlength := lt_length_row places quotient
  rw [afterPoint, List.length_drop]
  omega

theorem noLeadingZero_beforePoint : NoLeadingZero (beforePoint places quotient) := by
  -- A short quotient gets zeros in front, but only up to the digit before the point.
  rcases Nat.le_total (digits quotient).length (places + 1) with hshort | hlong
  · have hrow : (row places quotient).length = places + 1 := length_padZeros hshort
    have hone : (beforePoint places quotient).length = 1 := by
      rw [beforePoint, List.length_take, hrow]
      omega
    obtain ⟨c, hc⟩ := List.length_eq_one_iff.mp hone
    rw [hc]
    exact noLeadingZero_singleton c
  · have hrow : row places quotient = digits quotient := padZeros_of_le hlong
    rw [beforePoint, hrow]
    exact (noLeadingZero_digits quotient).take (by omega)

def fixedPoint : DecimalText where
  whole := beforePoint places quotient
  fraction := if places = 0 then none else some (afterPoint places quotient)
  whole_ne_nil := by
    have hlength := lt_length_row places quotient
    rw [beforePoint, ← List.length_pos_iff, List.length_take]
    omega
  whole_digits := by
    have hrow := areDigits_row places quotient
    rw [← beforePoint_append_afterPoint] at hrow
    exact (areDigits_append.mp hrow).1
  fraction_digits := by
    intro digits hdigits
    simp only [Option.mem_def, Option.ite_none_left_eq_some, Option.some.injEq] at hdigits
    have hrow := areDigits_row places quotient
    rw [← beforePoint_append_afterPoint] at hrow
    rw [← hdigits.2]
    exact (areDigits_append.mp hrow).2

theorem behindPoint_fixedPoint :
    (fixedPoint places quotient).behindPoint = afterPoint places quotient := by
  simp only [DecimalText.behindPoint, fixedPoint]
  split_ifs with hplaces
  · have hlength := length_afterPoint places quotient
    rw [hplaces] at hlength ⊢
    exact (List.length_eq_zero_iff.mp hlength).symm
  · rfl

theorem printsQuotient_fixedPoint :
    PrintsQuotient places quotient (fixedPoint places quotient) where
  whole := noLeadingZero_beforePoint places quotient
  fraction := by
    simp only [fixedPoint]
    split_ifs
    · rfl
    · rw [Option.map_some, length_afterPoint]
  value := by
    have hrow : valueOfDigits (row places quotient) = quotient := by
      rw [row, valueOfDigits_padZeros, valueOfDigits_digits]
    rw [← beforePoint_append_afterPoint, valueOfDigits_append, length_afterPoint] at hrow
    have hwhole : (fixedPoint places quotient).whole = beforePoint places quotient := rfl
    rw [DecimalText.value_eq, DecimalText.places, behindPoint_fixedPoint, length_afterPoint, hwhole,
      eq_div_iff (by positivity)]
    conv_rhs => rw [← hrow]
    push_cast
    field_simp

theorem pointChars_eq :
    pointChars places (digits quotient) = (fixedPoint places quotient).chars := by
  simp only [pointChars, DecimalText.chars, fixedPoint]
  split_ifs with hplaces
  · subst hplaces
    have hrow : row 0 quotient = digits quotient :=
      padZeros_of_le (List.length_pos_iff.mpr (digits_ne_nil quotient))
    rw [beforePoint, hrow, Nat.sub_zero, List.take_length]
  · rfl

/-! ## The calculation -/

/-- Twice the scaled number, and half a divisor to round it. -/
def dividend (part whole places : Nat) : Nat := 200 * 10 ^ places * part + whole

/-- What the calculation needs a place for in a word. -/
structure Fits (bits part whole places : Nat) : Prop where
  unit : 10 ^ places < 2 ^ bits
  sum : dividend part whole places < 2 ^ bits
  divisor : 2 * whole < 2 ^ bits

theorem fits_iff {bits part whole places : Nat} :
    Fits bits part whole places ↔ ∃ unit sum divisor : Word bits, unit.toNat = 10 ^ places ∧
      sum.toNat = dividend part whole places ∧ divisor.toNat = 2 * whole := by
  constructor
  · intro h
    obtain ⟨unit, hunit⟩ := Word.exists_toNat_eq h.unit
    obtain ⟨sum, hsum⟩ := Word.exists_toNat_eq h.sum
    obtain ⟨divisor, hdivisor⟩ := Word.exists_toNat_eq h.divisor
    exact ⟨unit, sum, divisor, hunit, hsum, hdivisor⟩
  · rintro ⟨unit, sum, divisor, hunit, hsum, hdivisor⟩
    exact ⟨lt_of_eq_of_lt hunit.symm unit.isLt, lt_of_eq_of_lt hsum.symm sum.isLt,
      lt_of_eq_of_lt hdivisor.symm divisor.isLt⟩

theorem quotient_eq_floor {part whole : Nat} (hwhole : 0 < whole) :
    dividend part whole places / (2 * whole) =
      ⌊(100 * part / whole : ℚ) * 10 ^ places + 1 / 2⌋₊ := by
  have hne : (whole : ℚ) ≠ 0 := by exact_mod_cast Nat.ne_of_gt hwhole
  have hexact : (100 * part / whole : ℚ) * 10 ^ places + 1 / 2 =
      (dividend part whole places : ℕ) / (2 * whole : ℕ) := by
    rw [dividend]
    push_cast
    field_simp
    ring
  rw [hexact, Nat.floor_div_eq_div]

variable {places} {part whole : Uint512}

theorem percentWide_of_zero (h : whole.toNat = 0) : percentWide part whole places = .ok "0" := by
  simp [percentWide, h, pure, Except.pure]

theorem toNat_two : (2 : Uint512).toNat = 2 := by decide +kernel

/-- However many products saturate, the sum overflows exactly when its number is too large. -/
theorem checkedAdd_scaled {unit : Uint512} (hwhole : whole.toNat ≠ 0)
    (hunit : unit.toNat = 10 ^ places) :
    Word.checkedAdd (Word.saturatingMul (Word.saturatingMul (Word.saturatingMul part 100) unit) 2)
      whole = Word.ofNat? (dividend part.toNat whole.toNat places) := by
  have hscaled := Word.toNat_saturatingMul_of_clamped (y := 2)
    (Word.toNat_saturatingMul_of_clamped (y := unit) (Word.toNat_saturatingMul part 100))
  have hnumber : part.toNat * (100 : Uint512).toNat * unit.toNat * (2 : Uint512).toNat +
      whole.toNat = dividend part.toNat whole.toNat places := by
    have hhundred : (100 : Uint512).toNat = 100 := by decide +kernel
    rw [hhundred, toNat_two, hunit, dividend]
    ring
  rw [Word.checkedAdd_of_clamped hscaled (Nat.pos_of_ne_zero hwhole), hnumber]

theorem checkedMul_two_eq_some {divisor : Uint512} :
    Word.checkedMul whole 2 = some divisor ↔ divisor.toNat = 2 * whole.toNat := by
  rw [Word.checkedMul_eq_some, toNat_two, Nat.mul_comm]

theorem checked_bind_eq_ok {α β : Type} {value : Option α} {next : α → Except Overflow β}
    {result : β} :
    (checked value >>= next) = .ok result ↔ ∃ x, value = some x ∧ next x = .ok result := by
  cases value with
  | none => exact ⟨nofun, nofun⟩
  | some x =>
      constructor
      · exact fun h => ⟨x, rfl, h⟩
      · rintro ⟨y, hy, h⟩
        rwa [Option.some.inj hy]

theorem percentWide_eq_ok_iff (hwhole : whole.toNat ≠ 0) {text : String} :
    percentWide part whole places = .ok text ↔ Fits 512 part.toNat whole.toNat places ∧
      text = (fixedPoint places
        (dividend part.toNat whole.toNat places / (2 * whole.toNat))).text := by
  rw [percentWide, if_neg hwhole, fits_iff]
  simp only [checked_bind_eq_ok, Word.pow10?_eq_some, pointChars_eq]
  constructor
  · rintro ⟨unit, hunit, sum, hsum, divisor, hdivisor, htext⟩
    rw [checkedAdd_scaled hwhole hunit, Word.ofNat?_eq_some] at hsum
    rw [checkedMul_two_eq_some] at hdivisor
    rw [hsum, hdivisor] at htext
    exact ⟨⟨unit, sum, divisor, hunit, hsum, hdivisor⟩, (Except.ok.inj htext).symm⟩
  · rintro ⟨⟨unit, sum, divisor, hunit, hsum, hdivisor⟩, rfl⟩
    refine ⟨unit, hunit, sum, ?_, divisor, checkedMul_two_eq_some.mpr hdivisor, ?_⟩
    · rw [checkedAdd_scaled hwhole hunit, Word.ofNat?_eq_some, hsum]
    · rw [hsum, hdivisor]
      rfl

theorem eq_overflow {α : Type} {outcome : Except Overflow α} (h : ∀ x, outcome ≠ .ok x) :
    outcome = .error .overflow := by
  cases outcome with
  | ok x => exact absurd rfl (h x)
  | error cause => rfl

/-- The text of a percentage: the exact quotient, rounded half up and printed with its places. -/
structure IsPercentage (part whole places : Nat) (text : String) : Prop where
  quotient : ∃ n : DecimalText, text = n.text ∧
    PrintsQuotient places (dividend part whole places / (2 * whole)) n
  half_up : dividend part whole places / (2 * whole) =
    ⌊(100 * part / whole : ℚ) * 10 ^ places + 1 / 2⌋₊

theorem isPercentage_fixedPoint {part whole : Nat} (places : Nat) (hwhole : 0 < whole) :
    IsPercentage part whole places
      (fixedPoint places (dividend part whole places / (2 * whole))).text where
  quotient := ⟨_, rfl, printsQuotient_fixedPoint places _⟩
  half_up := quotient_eq_floor places hwhole

theorem IsPercentage.unique {part whole : Nat} {text other : String}
    (h : IsPercentage part whole places text) (hother : IsPercentage part whole places other) :
    text = other := by
  obtain ⟨n, rfl, hn⟩ := h.quotient
  obtain ⟨m, rfl, hm⟩ := hother.quotient
  rw [hn.unique hm]

/-- A calculation gives a text exactly when it stays in the word, and only the percentage then. -/
structure ExactOrOverflow (outcome : Except Overflow String) (part whole places : Nat) : Prop where
  returns : (∃ text, outcome = .ok text) ↔ Fits 512 part whole places
  exact : ∀ text, outcome = .ok text ↔
    Fits 512 part whole places ∧ IsPercentage part whole places text
  overflows : ¬ Fits 512 part whole places → outcome = .error .overflow

theorem exactOrOverflow_percentWide (hwhole : whole.toNat ≠ 0) :
    ExactOrOverflow (percentWide part whole places) part.toNat whole.toNat places where
  returns := by
    constructor
    · rintro ⟨text, htext⟩
      exact ((percentWide_eq_ok_iff hwhole).mp htext).1
    · exact fun h => ⟨_, (percentWide_eq_ok_iff hwhole).mpr ⟨h, rfl⟩⟩
  exact text := by
    have hexact : IsPercentage part.toNat whole.toNat places _ :=
      isPercentage_fixedPoint places (Nat.pos_of_ne_zero hwhole)
    rw [percentWide_eq_ok_iff hwhole]
    constructor
    · rintro ⟨hfits, rfl⟩
      exact ⟨hfits, hexact⟩
    · rintro ⟨hfits, htext⟩
      exact ⟨hfits, htext.unique hexact⟩
  overflows hlarge :=
    eq_overflow fun _ htext => hlarge ((percentWide_eq_ok_iff hwhole).mp htext).1

theorem fits_of_words (part whole : Uint256) (hplaces : places ≤ 74) :
    Fits 512 part.toNat whole.toNat places := by
  have hpart := part.isLt
  have hwhole := whole.isLt
  have hunit : 10 ^ places ≤ 10 ^ 74 := Nat.pow_le_pow_right (by decide) hplaces
  refine ⟨lt_of_le_of_lt hunit (by decide +kernel), ?_, ?_⟩
  · have hscaled : 200 * 10 ^ places * part.toNat ≤ 200 * 10 ^ 74 * 2 ^ 256 := by gcongr
    have hlimit : 200 * 10 ^ 74 * 2 ^ 256 + 2 ^ 256 < 2 ^ 512 := by decide +kernel
    rw [dividend]
    omega
  · have hlimit : 2 * 2 ^ 256 < 2 ^ 512 := by decide +kernel
    omega

theorem percent_of_words (part whole : Uint256) (hplaces : places ≤ 74) :
    ∃ text, percent part whole places = .ok text ∧ (whole.toNat = 0 → text = "0") ∧
      (whole.toNat ≠ 0 → IsPercentage part.toNat whole.toNat places text) := by
  have hwide : (whole.widen 256).toNat = whole.toNat := Word.toNat_widen whole 256
  by_cases hwhole : whole.toNat = 0
  · refine ⟨"0", percentWide_of_zero (hwide.trans hwhole), fun _ => rfl, ?_⟩
    exact fun hne => absurd hwhole hne
  · have hne : (whole.widen 256).toNat ≠ 0 := fun h => hwhole (hwide.symm.trans h)
    have hexact : ExactOrOverflow (percent part whole places) (part.widen 256).toNat
        (whole.widen 256).toNat places := exactOrOverflow_percentWide hne
    rw [Word.toNat_widen, hwide] at hexact
    obtain ⟨text, htext⟩ := hexact.returns.mpr (fits_of_words part whole hplaces)
    exact ⟨text, htext, fun hzero => absurd hzero hwhole, fun _ => ((hexact.exact text).mp htext).2⟩

/-- The rewards of a year and their percentage always have a place in the wide word. -/
theorem estimatedRate_of_words (rewardPerSecond staked : Uint256) :
    ∃ text, estimatedRate rewardPerSecond staked = .ok text := by
  unfold estimatedRate
  by_cases hzero : (rewardPerSecond.toNat = 0 || staked.toNat = 0) = true
  · exact ⟨"0", if_pos hzero⟩
  rw [if_neg hzero]
  have hstaked : (staked.widen 256).toNat = staked.toNat := Word.toNat_widen staked 256
  have hne : (staked.widen 256).toNat ≠ 0 := by
    intro h
    rw [hstaked] at h
    simp [h] at hzero
  have hseconds : (BitVec.ofNat 256 secondsPerYear).toNat = 31536000 := by decide +kernel
  refine (exactOrOverflow_percentWide hne).returns.mpr ?_
  rw [Word.toNat_wideMul, hseconds, hstaked]
  have hrate := rewardPerSecond.isLt
  have hlt := staked.isLt
  refine ⟨by decide +kernel, ?_, ?_⟩
  · have hyearly : 200 * 10 ^ rateDecimals * (rewardPerSecond.toNat * 31536000) ≤
        200 * 10 ^ rateDecimals * (2 ^ 256 * 31536000) := by gcongr
    have hlimit : 200 * 10 ^ rateDecimals * (2 ^ 256 * 31536000) + 2 ^ 256 < 2 ^ 512 := by
      decide +kernel
    exact lt_of_le_of_lt (Nat.add_le_add hyearly (Nat.le_of_lt hlt)) hlimit
  · have hlimit : 2 * 2 ^ 256 < 2 ^ 512 := by decide +kernel
    omega

/-- A percentage is exact, or its calculation needs a number that is no word and fails. With words
of 256 bits and up to 74 places it never fails. -/
theorem percent_exact (places : Nat) :
    (∀ part whole : Uint512, whole.toNat = 0 → percentWide part whole places = .ok "0") ∧
    (∀ part whole : Uint512, whole.toNat ≠ 0 →
      ExactOrOverflow (percentWide part whole places) part.toNat whole.toNat places) ∧
    (places ≤ 74 → ∀ part whole : Uint256, ∃ text, percent part whole places = .ok text ∧
      (whole.toNat = 0 → text = "0") ∧
      (whole.toNat ≠ 0 → IsPercentage part.toNat whole.toNat places text)) :=
  ⟨fun _ _ => percentWide_of_zero, fun _ _ => exactOrOverflow_percentWide,
    fun hplaces part whole => percent_of_words part whole hplaces⟩

/-- Two thirds are rounded up, and the largest word is no percentage of one. -/
theorem percent_exact_thirds :
    percentWide 2 0 2 = .ok "0" ∧
      (percentWide 2 3 2 = .ok "66.67" ∧ IsPercentage 2 3 2 "66.67") ∧
      percentWide (BitVec.allOnes 512) 1 0 = .error .overflow ∧
      74 ≤ 74 ∧ ∃ text, percent 2 3 74 = .ok text ∧ IsPercentage 2 3 74 text := by
  obtain ⟨hzero, hwide, hword⟩ := percent_exact 2
  refine ⟨hzero 2 0 (by decide +kernel), ?_, ?_, le_refl 74, ?_⟩
  · have hthirds : percentWide 2 3 2 = .ok "66.67" := by decide +kernel
    have htwo : (2 : Uint512).toNat = 2 := by decide +kernel
    have hthree : (3 : Uint512).toNat = 3 := by decide +kernel
    have h := hwide 2 3 (by decide +kernel)
    rw [htwo, hthree] at h
    exact ⟨hthirds, ((h.exact _).mp hthirds).2⟩
  · obtain ⟨-, hlargest, -⟩ := percent_exact 0
    have h := hlargest (BitVec.allOnes 512) 1 (by decide +kernel)
    exact h.overflows fun hfits => absurd hfits.sum (by decide +kernel)
  · obtain ⟨-, -, hplaces⟩ := percent_exact 74
    obtain ⟨text, htext, -, h⟩ := hplaces (le_refl 74) 2 3
    exact ⟨text, htext, h (by decide)⟩

-- A short quotient is filled up with zeros, and a half is rounded up.
example : percent 0 7 4 = .ok "0.0000" ∧ percent 1 8 0 = .ok "13" := by decide +kernel

-- With one more place, the largest words of 256 bits leave the word.
example : percent (BitVec.allOnes 256) (BitVec.allOnes 256) 75 = .error .overflow := by
  decide +kernel

end StakingGateway.Amount
