import StakingGateway.Proofs.AmountReading

/-!
# Writing amounts

An amount is written as the canonical text of its number, which is read back as the same amount.
-/

namespace StakingGateway.Amount

open Text

variable {decimals remainder : Nat}

/-- With no places there is no remainder, and its one digit is a zero that is dropped. -/
theorem fractionChars_zero : fractionChars 0 0 = [] := by decide

theorem length_padZeros_digits (hdecimals : 0 < decimals) (h : remainder < 10 ^ decimals) :
    (padZeros decimals (digits remainder)).length = decimals :=
  length_padZeros ((length_digits_le hdecimals).mpr h)

theorem areDigits_fractionChars (decimals remainder : Nat) :
    areDigits (fractionChars decimals remainder) = true :=
  areDigits_dropTrailingZeros (areDigits_padZeros _ (areDigits_digits remainder))

theorem length_fractionChars_le (h : remainder < 10 ^ decimals) :
    (fractionChars decimals remainder).length ≤ decimals := by
  rcases Nat.eq_zero_or_pos decimals with rfl | hdecimals
  · rw [Nat.lt_one_iff.mp h, fractionChars_zero]
    exact Nat.le_refl 0
  · calc (fractionChars decimals remainder).length
        ≤ (padZeros decimals (digits remainder)).length := length_dropTrailingZeros_le _
      _ = decimals := length_padZeros_digits hdecimals h

/-- The digits behind the point denote the remainder. -/
theorem valueOfDigits_fractionChars (h : remainder < 10 ^ decimals) :
    valueOfDigits (fractionChars decimals remainder) *
      10 ^ (decimals - (fractionChars decimals remainder).length) = remainder := by
  rcases Nat.eq_zero_or_pos decimals with rfl | hdecimals
  · rw [Nat.lt_one_iff.mp h, fractionChars_zero]
    rfl
  · have hvalue := valueOfDigits_dropTrailingZeros (padZeros decimals (digits remainder))
    rwa [length_padZeros_digits hdecimals h, valueOfDigits_padZeros, valueOfDigits_digits] at hvalue

/-- The text of `amount / 10 ^ decimals` without anything needless. -/
def written (amount decimals : Nat) : DecimalText where
  whole := digits (amount / 10 ^ decimals)
  fraction :=
    if (fractionChars decimals (amount % 10 ^ decimals)).isEmpty then none
    else some (fractionChars decimals (amount % 10 ^ decimals))
  whole_ne_nil := digits_ne_nil _
  whole_digits := areDigits_digits _
  fraction_digits := by
    intro digits hdigits
    simp only [Option.mem_def, Option.ite_none_left_eq_some, Option.some.injEq] at hdigits
    rw [← hdigits.2]
    exact areDigits_fractionChars _ _

variable (amount : Nat)

theorem behindPoint_written :
    (written amount decimals).behindPoint = fractionChars decimals (amount % 10 ^ decimals) := by
  simp only [DecimalText.behindPoint, written]
  split_ifs with hempty
  · rw [List.isEmpty_iff.mp hempty]
    rfl
  · rfl

theorem canonical_written : (written amount decimals).Canonical where
  whole := noLeadingZero_digits _
  fraction := by
    intro digits hdigits
    simp only [written, Option.mem_def, Option.ite_none_left_eq_some, Option.some.injEq,
      List.isEmpty_iff] at hdigits
    obtain ⟨hne, rfl⟩ := hdigits
    exact ⟨hne, getLast?_dropTrailingZeros _⟩

theorem places_written_le : (written amount decimals).places ≤ decimals := by
  rw [DecimalText.places, behindPoint_written]
  exact length_fractionChars_le (Nat.mod_lt _ (Nat.pow_pos (by decide)))

theorem units_written : (written amount decimals).units decimals = amount := by
  have hremainder : amount % 10 ^ decimals < 10 ^ decimals := Nat.mod_lt _ (Nat.pow_pos (by decide))
  have hwhole : valueOfDigits (written amount decimals).whole = amount / 10 ^ decimals :=
    valueOfDigits_digits _
  rw [DecimalText.units, DecimalText.places, behindPoint_written,
    valueOfDigits_fractionChars hremainder, hwhole]
  exact Nat.div_add_mod' amount (10 ^ decimals)

theorem value_written : (written amount decimals).value = amount / 10 ^ decimals := by
  have hplaces : (written amount decimals).places ≤ decimals := places_written_le amount
  have hvalue := DecimalText.value_mul_pow hplaces
  rw [units_written] at hvalue
  rw [← hvalue]
  field_simp

theorem formatUnits_eq_written (amount : Uint256) (h : decimals ≤ maxDecimals) :
    formatUnits amount decimals = (written amount.toNat decimals).text := by
  rw [formatUnits, unitsChars, if_pos h, DecimalText.text, DecimalText.chars]
  simp only [written, Nat.pow_eq]
  split_ifs <;> rfl

/-- A text is that of an amount exactly when it is canonical and denotes the amount. -/
theorem formatUnits_eq_iff (amount : Uint256) (h : decimals ≤ maxDecimals) (n : DecimalText) :
    formatUnits amount decimals = n.text ↔
      n.Canonical ∧ n.value = (amount.toNat : ℚ) / 10 ^ decimals := by
  rw [formatUnits_eq_written amount h]
  constructor
  · intro htext
    have hsame := DecimalText.text_injective htext
    rw [← hsame]
    exact ⟨canonical_written _, value_written _⟩
  · rintro ⟨hcanonical, hvalue⟩
    rw [← value_written] at hvalue
    rw [(canonical_written _).eq_of_value_eq hcanonical hvalue.symm]

theorem parseUnits_formatUnits (amount : Uint256) (h : decimals ≤ maxDecimals) :
    parseUnits (formatUnits amount decimals) decimals = .ok amount := by
  have hvalue : (written amount.toNat decimals).value * 10 ^ decimals = amount.toNat := by
    rw [DecimalText.value_mul_pow (places_written_le _), units_written]
  refine parseUnits_eq_ok_iff.mpr ⟨written amount.toNat decimals, ?_, hvalue.symm⟩
  refine ⟨?_, places_written_le _, h, ?_⟩
  · rw [formatUnits_eq_written amount h, DecimalText.text, String.toList_ofList]
    exact DecimalText.trims_chars _
  · rw [hvalue]
    exact_mod_cast amount.isLt

theorem denotes_formatUnits (amount : Uint256) (h : decimals ≤ maxDecimals) :
    Denotes (formatUnits amount decimals) decimals amount :=
  denotes_of_parseUnits (parseUnits_formatUnits amount h)

theorem text_eq_formatUnits (amount : Uint256) : amount.text = formatUnits amount 0 := by
  rw [formatUnits_eq_written amount (Nat.zero_le _), DecimalText.text, DecimalText.chars]
  simp only [written, pow_zero, Nat.div_one, Nat.mod_one, fractionChars_zero, List.isEmpty_nil,
    if_true]
  rfl

/-- The text of an amount is its only canonical one, and it stands for the amount. -/
structure WritesExactly (amount : Uint256) (decimals : Nat) : Prop where
  places : ∃ n : DecimalText, formatUnits amount decimals = n.text ∧ n.places ≤ decimals
  canonical : ∀ n : DecimalText, formatUnits amount decimals = n.text ↔
    n.Canonical ∧ n.value = (amount.toNat : ℚ) / 10 ^ decimals
  read_back : parseUnits (formatUnits amount decimals) decimals = .ok amount
  distinct : ∀ other, formatUnits other decimals = formatUnits amount decimals → other = amount
  /-- Every text that is read as the amount may be replaced by the canonical one. -/
  replaces : ∀ text, parseUnits text decimals = .ok amount →
    parseUnits (formatUnits amount decimals) decimals = parseUnits text decimals

theorem writing_exact (amount : Uint256) (decimals : Nat) (h : decimals ≤ maxDecimals) :
    WritesExactly amount decimals where
  places := ⟨_, formatUnits_eq_written amount h, places_written_le _⟩
  canonical := formatUnits_eq_iff amount h
  read_back := parseUnits_formatUnits amount h
  distinct other hsame := by
    have hread := parseUnits_formatUnits other h
    rw [hsame, parseUnits_formatUnits amount h] at hread
    exact (Except.ok.inj hread).symm
  replaces text hread := by rw [hread, parseUnits_formatUnits amount h]

/-- The largest amount with the most places. -/
theorem writing_exact_allOnes :
    77 ≤ maxDecimals ∧ WritesExactly (BitVec.allOnes 256) 77 ∧
      formatUnits (BitVec.allOnes 256) 77 =
        "1.15792089237316195423570985008687907853269984665640564039457584007913129639935" :=
  ⟨by decide, writing_exact (BitVec.allOnes 256) 77 (by decide), by decide +kernel⟩

-- The zeros of a whole number stay.
example : formatUnits 1000 0 = "1000" ∧ formatUnits 1000 4 = "0.1" := by decide +kernel

end StakingGateway.Amount
