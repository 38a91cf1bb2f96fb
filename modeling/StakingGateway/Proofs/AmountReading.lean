import StakingGateway.Amount.Format
import StakingGateway.Amount.Parse
import StakingGateway.Proofs.CheckedWords
import StakingGateway.Proofs.DecimalText

/-!
# Reading amounts

Whole part and fraction are read and scaled one after the other, and each step is checked. All these
checks together refuse a text only when the amount itself has no place in its word: every number on
the way is a part of the sum at the end. What is read is therefore exact.
-/

namespace StakingGateway.Amount

open Text

variable {text : String} {decimals : Nat} {amount : Uint256}

theorem ofDigits?_eq_some {cs : List Char} : ofDigits? cs = some amount ↔
    amount.toNat = valueOfDigits cs :=
  Word.ofNat?_eq_some

theorem pow_lt_of_le (h : decimals ≤ maxDecimals) : 10 ^ decimals < 2 ^ 256 :=
  calc 10 ^ decimals ≤ 10 ^ maxDecimals := Nat.pow_le_pow_right (by decide) h
    _ < 2 ^ 256 := by decide

theorem le_of_pow_lt (h : 10 ^ decimals < 2 ^ 256) : decimals ≤ maxDecimals := by
  by_contra hlarge
  have hpow : 10 ^ (maxDecimals + 1) ≤ 10 ^ decimals :=
    Nat.pow_le_pow_right (by decide) (Nat.lt_of_not_le hlarge)
  have hword : 2 ^ 256 < 10 ^ (maxDecimals + 1) := by decide
  omega

/-- Scaling a part of the amount stays in the word if the scaled part does. -/
theorem checkedMul_pow10? {cs : List Char} {places : Nat} {part : Uint256}
    (hplaces : places ≤ maxDecimals) (hpart : part.toNat = valueOfDigits cs * 10 ^ places) :
    ∃ row unit : Uint256, ofDigits? cs = some row ∧ Word.pow10? places = some unit ∧
      Word.checkedMul row unit = some part := by
  have hrow : valueOfDigits cs < 2 ^ 256 :=
    calc valueOfDigits cs ≤ valueOfDigits cs * 10 ^ places :=
          Nat.le_mul_of_pos_right _ (Nat.pow_pos (by decide))
      _ = part.toNat := hpart.symm
      _ < 2 ^ 256 := part.isLt
  obtain ⟨row, hrow⟩ := Word.exists_toNat_eq hrow
  obtain ⟨unit, hunit⟩ := Word.exists_toNat_eq (pow_lt_of_le hplaces)
  refine ⟨row, unit, ofDigits?_eq_some.mpr hrow, Word.pow10?_eq_some.mpr hunit, ?_⟩
  rw [Word.checkedMul_eq_some, hrow, hunit, hpart]

theorem scale?_eq_some {n : DecimalText} :
    scale? n.whole n.behindPoint decimals = some amount ↔
      decimals ≤ maxDecimals ∧ amount.toNat = n.units decimals := by
  simp only [scale?, Option.bind_eq_bind, Option.bind_eq_some_iff, DecimalText.units]
  constructor
  · rintro ⟨row, hrow, unit, hunit, part, hpart, hrest⟩
    rw [ofDigits?_eq_some] at hrow
    rw [Word.pow10?_eq_some] at hunit
    rw [Word.checkedMul_eq_some, hrow, hunit] at hpart
    refine ⟨le_of_pow_lt (hunit ▸ unit.isLt), ?_⟩
    by_cases hempty : n.behindPoint = []
    · simp [hempty] at hrest
      simp [hempty, ← hrest, hpart]
    · simp only [List.isEmpty_iff, hempty, if_false, Option.bind_eq_some_iff] at hrest
      obtain ⟨digits, hdigits, small, hsmall, parts, hparts, hsum⟩ := hrest
      rw [ofDigits?_eq_some] at hdigits
      rw [Word.pow10?_eq_some] at hsmall
      rw [Word.checkedMul_eq_some, hdigits, hsmall] at hparts
      rw [Word.checkedAdd_eq_some, hpart, hparts] at hsum
      exact hsum
  · rintro ⟨hdecimals, hamount⟩
    have hlt := amount.isLt
    obtain ⟨part, hpart⟩ : ∃ part : Uint256, part.toNat = valueOfDigits n.whole * 10 ^ decimals :=
      Word.exists_toNat_eq (lt_of_le_of_lt (Nat.le_add_right _ _) (hamount ▸ hlt))
    obtain ⟨row, unit, hrow, hunit, hmul⟩ := checkedMul_pow10? hdecimals hpart
    refine ⟨row, hrow, unit, hunit, part, hmul, ?_⟩
    by_cases hempty : n.behindPoint = []
    · have hsame : part = amount := by
        apply BitVec.eq_of_toNat_eq
        rw [hpart, hamount, hempty, valueOfDigits_nil, Nat.zero_mul, Nat.add_zero]
      simp [hempty, hsame]
    · simp only [List.isEmpty_iff, hempty, if_false, Option.bind_eq_some_iff]
      have hbehind : n.behindPoint.length = n.places := rfl
      rw [hbehind]
      obtain ⟨parts, hparts⟩ : ∃ parts : Uint256,
          parts.toNat = valueOfDigits n.behindPoint * 10 ^ (decimals - n.places) :=
        Word.exists_toNat_eq (lt_of_le_of_lt (Nat.le_add_left _ _) (hamount ▸ hlt))
      obtain ⟨digits, small, hdigits, hsmall, hmul'⟩ :=
        checkedMul_pow10? (le_trans (Nat.sub_le _ _) hdecimals) hparts
      refine ⟨digits, hdigits, small, hsmall, parts, hmul', ?_⟩
      rw [Word.checkedAdd_eq_some, hpart, hparts, hamount]

/-! ## Texts -/

theorem parseUnits_of_chars {n : DecimalText} (h : trimChars text.toList = n.chars) :
    parseUnits text decimals =
      if decimals < n.places then .error (.tooManyPlaces n.text decimals)
      else
        match scale? n.whole n.behindPoint decimals with
        | some amount => .ok amount
        | none => .error (.tooLarge n.text decimals) := by
  have hwhole : n.whole.isEmpty = false := by simpa using n.whole_ne_nil
  have hfraction : areDigits (n.fraction.getD []) = true := n.behindPoint_digits
  simp only [parseUnits, h, n.splitFirst_chars, hwhole, n.whole_digits, hfraction, Bool.not_true,
    Bool.or_false, Bool.false_eq_true, if_false]
  rfl

theorem exists_of_parseUnits (h : parseUnits text decimals = .ok amount) :
    ∃ n : DecimalText, trimChars text.toList = n.chars := by
  unfold parseUnits at h
  cases hsplit : splitFirst (· == '.') (trimChars text.toList) with
  | mk whole fraction =>
      simp only [hsplit] at h
      split at h
      next => cases h
      next hvalid =>
          simp only [Bool.or_eq_true, Bool.not_eq_true', not_or, Bool.not_eq_false,
            List.isEmpty_iff] at hvalid
          exact DecimalText.exists_chars_eq hsplit hvalid.1.1 hvalid.1.2 hvalid.2

/-- The text can be read as a decimal number with that many places. -/
structure Readable (text : String) (decimals : Nat) (n : DecimalText) : Prop where
  trimmed : Trims text.toList n.chars
  places : n.places ≤ decimals
  scale : decimals ≤ maxDecimals
  fits : n.value * 10 ^ decimals < 2 ^ 256

theorem parseUnits_eq_ok_iff : parseUnits text decimals = .ok amount ↔
    ∃ n, Readable text decimals n ∧ (amount.toNat : ℚ) = n.value * 10 ^ decimals := by
  constructor
  · intro h
    obtain ⟨n, hn⟩ := exists_of_parseUnits h
    rw [parseUnits_of_chars hn] at h
    split at h
    next => cases h
    next hplaces =>
        replace hplaces := Nat.le_of_not_lt hplaces
        split at h
        next read hscale =>
            cases h
            obtain ⟨hdecimals, hamount⟩ := scale?_eq_some.mp hscale
            have hvalue : (amount.toNat : ℚ) = n.value * 10 ^ decimals := by
              rw [DecimalText.value_mul_pow hplaces, hamount]
            refine ⟨n, ⟨trimChars_eq_iff.mp hn, hplaces, hdecimals, ?_⟩, hvalue⟩
            rw [← hvalue]
            exact_mod_cast amount.isLt
        next => cases h
  · rintro ⟨n, ⟨htrimmed, hplaces, hdecimals, -⟩, hvalue⟩
    rw [DecimalText.value_mul_pow hplaces] at hvalue
    have hscale := scale?_eq_some.mpr ⟨hdecimals, Nat.cast_injective hvalue⟩
    rw [parseUnits_of_chars (trimChars_eq_iff.mpr htrimmed), if_neg (Nat.not_lt.mpr hplaces),
      hscale]

/-- Every decimal text that can be read denotes an amount. -/
theorem Readable.exists_amount {n : DecimalText} (h : Readable text decimals n) :
    ∃ amount : Uint256, (amount.toNat : ℚ) = n.value * 10 ^ decimals := by
  have hfits := h.fits
  rw [DecimalText.value_mul_pow h.places] at hfits ⊢
  obtain ⟨amount, hamount⟩ : ∃ amount : Uint256, amount.toNat = n.units decimals :=
    Word.exists_toNat_eq (by exact_mod_cast hfits)
  exact ⟨amount, by rw [hamount]⟩

/-- A text is read exactly when it is a decimal text between blanks whose number has a place in a
word, and what is read is that number. -/
theorem reading_exact (text : String) (decimals : Nat) :
    ((∃ amount, parseUnits text decimals = .ok amount) ↔ ∃ n, Readable text decimals n) ∧
      ∀ amount, parseUnits text decimals = .ok amount ↔
        ∃ n, Readable text decimals n ∧ (amount.toNat : ℚ) = n.value * 10 ^ decimals := by
  refine ⟨⟨?_, ?_⟩, fun amount => parseUnits_eq_ok_iff⟩
  · rintro ⟨amount, h⟩
    obtain ⟨n, hread, -⟩ := parseUnits_eq_ok_iff.mp h
    exact ⟨n, hread⟩
  · rintro ⟨n, hread⟩
    obtain ⟨amount, hamount⟩ := hread.exists_amount
    exact ⟨amount, parseUnits_eq_ok_iff.mpr ⟨n, hread, hamount⟩⟩

-- The largest amount, with two places and zeros in front.
example :
    parseUnits
      " 001157920892373161954235709850086879078532699846656405640394575840079131296399.35 " 2 =
      .ok (BitVec.allOnes 256) := by
  decide +kernel

/-! ## What a text denotes -/

/-- Between blanks the text is a decimal number, and so many units of `10 ^ -decimals` are it. -/
def Denotes (text : String) (decimals : Nat) (amount : Uint256) : Prop :=
  ∃ n : DecimalText, Trims text.toList n.chars ∧ (amount.toNat : ℚ) = n.value * 10 ^ decimals

theorem Denotes.unique {other : Uint256} (h : Denotes text decimals amount)
    (hother : Denotes text decimals other) : amount = other := by
  obtain ⟨n, htrims, hamount⟩ := h
  obtain ⟨m, htrims', hother⟩ := hother
  have hchars : n.chars = m.chars := by
    rw [← trimChars_eq_iff.mpr htrims, trimChars_eq_iff.mpr htrims']
  rw [DecimalText.eq_of_chars_eq hchars, ← hother] at hamount
  exact BitVec.eq_of_toNat_eq (Nat.cast_injective hamount)

theorem denotes_of_parseUnits (h : parseUnits text decimals = .ok amount) :
    Denotes text decimals amount := by
  obtain ⟨n, hread, hamount⟩ := parseUnits_eq_ok_iff.mp h
  exact ⟨n, hread.trimmed, hamount⟩

/-- A whole number of the smallest unit is a decimal number without a point. -/
theorem denotes_of_parseWei (h : parseWei text = .ok amount) : Denotes text 0 amount := by
  simp only [parseWei] at h
  split at h
  next => cases h
  next hvalid =>
      simp only [Bool.or_eq_true, Bool.not_eq_true', not_or, Bool.not_eq_false,
        List.isEmpty_iff] at hvalid
      split at h
      next read hread =>
          cases h
          let n : DecimalText := ⟨trimChars text.toList, none, hvalid.1, hvalid.2, by simp⟩
          refine ⟨n, trimChars_eq_iff.mp rfl, ?_⟩
          rw [DecimalText.value_mul_pow (le_refl 0), ofDigits?_eq_some.mp hread]
          simp [n, DecimalText.units, DecimalText.behindPoint]
      next => cases h

end StakingGateway.Amount
