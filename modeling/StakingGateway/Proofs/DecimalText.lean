import Mathlib.Algebra.Order.Field.Rat
import Mathlib.Tactic.FieldSimp
import Mathlib.Tactic.Linarith
import Mathlib.Tactic.Positivity
import StakingGateway.Proofs.DecimalDigits

/-!
# Decimal numbers as texts

A decimal text is a row of digits, perhaps with a point and more digits behind it. It denotes a
rational number: every digit counts what its place says. Leading zeros, zeros at the end and a point
with nothing behind it do not change the number; the text without any of these is canonical, and
each number has only one canonical text.
-/

namespace StakingGateway.Amount

open Text

/-- The number that digits denote by their places; the first one counts a tenth of `unit`. -/
def placeValue (unit : ℚ) : List Char → ℚ
  | [] => 0
  | c :: rest => digitValue c * (unit / 10) + placeValue (unit / 10) rest

theorem placeValue_eq (unit : ℚ) (cs : List Char) :
    placeValue unit cs = unit * valueOfDigits cs / 10 ^ cs.length := by
  induction cs generalizing unit with
  | nil => simp [placeValue]
  | cons c cs ih =>
      rw [placeValue, ih, valueOfDigits_cons, List.length_cons]
      push_cast
      field_simp
      ring

@[ext]
structure DecimalText where
  whole : List Char
  /-- The digits behind the point, if there is a point. -/
  fraction : Option (List Char)
  whole_ne_nil : whole ≠ []
  whole_digits : areDigits whole = true
  fraction_digits : ∀ digits ∈ fraction, areDigits digits = true

namespace DecimalText

variable (n : DecimalText)

def behindPoint : List Char := n.fraction.getD []

def places : Nat := n.behindPoint.length

def chars : List Char :=
  match n.fraction with
  | none => n.whole
  | some digits => n.whole ++ '.' :: digits

def text : String := String.ofList n.chars

/-- The first digit counts as many tens as there are digits before the point. -/
def value : ℚ := placeValue (10 ^ n.whole.length) (n.whole ++ n.behindPoint)

theorem behindPoint_digits : areDigits n.behindPoint = true := by
  unfold behindPoint
  cases hfraction : n.fraction with
  | none => rfl
  | some digits => exact n.fraction_digits digits hfraction

theorem value_eq :
    n.value = valueOfDigits n.whole + valueOfDigits n.behindPoint / 10 ^ n.places := by
  rw [value, placeValue_eq, valueOfDigits_append, List.length_append, places, pow_add]
  push_cast
  field_simp

/-- The number of units of `10 ^ -decimals`, when there are not more places than that. -/
def units (decimals : Nat) : Nat :=
  valueOfDigits n.whole * 10 ^ decimals + valueOfDigits n.behindPoint * 10 ^ (decimals - n.places)

variable {n}

theorem value_mul_pow {decimals : Nat} (h : n.places ≤ decimals) :
    n.value * 10 ^ decimals = n.units decimals := by
  have hpow : (10 : ℚ) ^ decimals = 10 ^ n.places * 10 ^ (decimals - n.places) := by
    rw [← pow_add, Nat.add_sub_cancel' h]
  rw [value_eq, units]
  push_cast
  rw [hpow]
  field_simp

/-! ## The characters -/

theorem isBlank_of_mem_chars (n : DecimalText) : ∀ c ∈ n.chars, isBlank c = false := by
  have hdigits : ∀ cs, areDigits cs = true → ∀ c ∈ cs, isBlank c = false := fun cs hcs c hc =>
    isBlank_of_isDigit (List.all_eq_true.mp hcs c hc)
  have hwhole := hdigits n.whole n.whole_digits
  unfold chars
  cases hfraction : n.fraction with
  | none => exact hwhole
  | some digits =>
      refine List.forall_mem_append.mpr ⟨hwhole, List.forall_mem_cons.mpr ⟨by decide, ?_⟩⟩
      exact hdigits digits (n.fraction_digits digits hfraction)

theorem trims_chars (n : DecimalText) : Trims n.chars n.chars := trims_self n.isBlank_of_mem_chars

theorem splitFirst_chars (n : DecimalText) :
    splitFirst (· == '.') n.chars = (n.whole, n.fraction) := by
  have hwhole : ∀ c ∈ n.whole, (c == '.') = false := fun c hc =>
    ne_point_of_isDigit (List.all_eq_true.mp n.whole_digits c hc)
  unfold chars
  cases hfraction : n.fraction with
  | none => exact splitFirst_of_forall hwhole
  | some digits => exact splitFirst_append_cons hwhole (by decide)

theorem eq_of_chars_eq {n m : DecimalText} (h : n.chars = m.chars) : n = m := by
  have hsplit : (n.whole, n.fraction) = (m.whole, m.fraction) := by
    rw [← splitFirst_chars, h, splitFirst_chars]
  exact DecimalText.ext (congrArg Prod.fst hsplit) (congrArg Prod.snd hsplit)

theorem text_injective {n m : DecimalText} (h : n.text = m.text) : n = m :=
  eq_of_chars_eq (String.ofList_injective h)

/-- Where digits only are around the first point, there is a decimal text. -/
theorem exists_chars_eq {cs whole : List Char} {fraction : Option (List Char)}
    (hsplit : splitFirst (· == '.') cs = (whole, fraction)) (hne : whole ≠ [])
    (hwhole : areDigits whole = true) (hfraction : areDigits (fraction.getD []) = true) :
    ∃ n : DecimalText, cs = n.chars := by
  have hdigits : ∀ digits ∈ fraction, areDigits digits = true := by
    rintro digits hmem
    rwa [Option.mem_def.mp hmem] at hfraction
  refine ⟨⟨whole, fraction, hne, hwhole, hdigits⟩, ?_⟩
  rcases splitFirst_cases (· == '.') cs with hnone | ⟨front, c, rest, rfl, hc, hsome⟩
  · rw [hnone] at hsplit
    cases hsplit
    rfl
  · rw [hsome] at hsplit
    cases hsplit
    rw [beq_iff_eq.mp hc]
    rfl

/-! ## Canonical texts -/

/-- Nothing in the text is needless: no zero in front, none at the end, and no point that nothing
stands behind. -/
structure Canonical (n : DecimalText) : Prop where
  whole : NoLeadingZero n.whole
  fraction : ∀ digits ∈ n.fraction, digits ≠ [] ∧ digits.getLast? ≠ some '0'

theorem placeValue_nonneg {unit : ℚ} (h : 0 ≤ unit) (cs : List Char) : 0 ≤ placeValue unit cs := by
  rw [placeValue_eq]
  positivity

theorem placeValue_lt {unit : ℚ} (h : 0 < unit) {cs : List Char} (hcs : areDigits cs = true) :
    placeValue unit cs < unit := by
  have hlt : (valueOfDigits cs : ℚ) < 10 ^ cs.length := by exact_mod_cast valueOfDigits_lt hcs
  rw [placeValue_eq, div_lt_iff₀ (by positivity)]
  exact mul_lt_mul_of_pos_left hlt h

theorem eq_of_add_eq_add {k m : Nat} {x y : ℚ} (hx : 0 ≤ x) (hx1 : x < 1) (hy : 0 ≤ y) (hy1 : y < 1)
    (h : (k : ℚ) + x = m + y) : k = m ∧ x = y := by
  have hkm : (k : ℚ) < m + 1 := by linarith
  have hmk : (m : ℚ) < k + 1 := by linarith
  have heq : k = m := by
    have h1 : k < m + 1 := by exact_mod_cast hkm
    have h2 : m < k + 1 := by exact_mod_cast hmk
    omega
  subst heq
  exact ⟨rfl, by linarith⟩

theorem placeValue_one_cons (c : Char) (cs : List Char) :
    10 * placeValue 1 (c :: cs) = digitValue c + placeValue 1 cs := by
  rw [placeValue, placeValue_eq, placeValue_eq 1]
  ring

theorem eq_nil_of_placeValue_eq_zero {cs : List Char} (hcs : areDigits cs = true)
    (hlast : cs.getLast? ≠ some '0') (h : placeValue 1 cs = 0) : cs = [] := by
  rcases List.eq_nil_or_concat cs with rfl | ⟨front, c, rfl⟩
  · rfl
  · rw [List.concat_eq_append] at *
    have hc : c.isDigit = true := (areDigits_cons.mp (areDigits_append.mp hcs).2).1
    have hzero : valueOfDigits (front ++ [c]) = 0 := by
      rw [placeValue_eq, div_eq_zero_iff] at h
      simpa using h
    rw [valueOfDigits_append, valueOfDigits_singleton] at hzero
    have hdigit : digitValue c = digitValue '0' := Nat.eq_zero_of_add_eq_zero_left hzero
    rw [eq_of_digitValue_eq hc (by decide) hdigit] at hlast
    simp at hlast

theorem eq_of_placeValue_eq {left right : List Char} (hleft : areDigits left = true)
    (hright : areDigits right = true) (hlastLeft : left.getLast? ≠ some '0')
    (hlastRight : right.getLast? ≠ some '0') (h : placeValue 1 left = placeValue 1 right) :
    left = right := by
  induction left generalizing right with
  | nil => exact (eq_nil_of_placeValue_eq_zero hright hlastRight h.symm).symm
  | cons c left ih =>
      cases right with
      | nil => exact eq_nil_of_placeValue_eq_zero hleft hlastLeft h
      | cons d right =>
          obtain ⟨hc, hcs⟩ := areDigits_cons.mp hleft
          obtain ⟨hd, hds⟩ := areDigits_cons.mp hright
          have htail : ∀ {a : Char} {as : List Char}, (a :: as).getLast? ≠ some '0' →
              as.getLast? ≠ some '0' := by
            intro a as hlast htail
            refine hlast ?_
            rw [List.getLast?_cons, htail]
            rfl
          have hsum : (digitValue c : ℚ) + placeValue 1 left =
              digitValue d + placeValue 1 right := by
            rw [← placeValue_one_cons, ← placeValue_one_cons, h]
          obtain ⟨hdigit, hrest⟩ := eq_of_add_eq_add (placeValue_nonneg zero_le_one _)
            (placeValue_lt one_pos hcs) (placeValue_nonneg zero_le_one _)
            (placeValue_lt one_pos hds) hsum
          rw [eq_of_digitValue_eq hc hd hdigit,
            ih hcs hds (htail hlastLeft) (htail hlastRight) hrest]

theorem value_eq_placeValue (n : DecimalText) :
    n.value = valueOfDigits n.whole + placeValue 1 n.behindPoint := by
  rw [value_eq, placeValue_eq, one_mul, places]

theorem Canonical.getLast?_behindPoint (h : n.Canonical) : n.behindPoint.getLast? ≠ some '0' := by
  unfold behindPoint
  cases hfraction : n.fraction with
  | none => simp
  | some digits => exact (h.fraction digits hfraction).2

theorem Canonical.fraction_eq (h : n.Canonical) :
    n.fraction = if n.behindPoint = [] then none else some n.behindPoint := by
  unfold behindPoint
  cases hfraction : n.fraction with
  | none => rfl
  | some digits =>
      rw [Option.getD_some, if_neg (h.fraction digits hfraction).1]

/-- Equal numbers have equal whole parts, and equal digits up to zeros behind the point. -/
theorem parts_eq_of_value_eq {n m : DecimalText} (hn : NoLeadingZero n.whole)
    (hm : NoLeadingZero m.whole) (h : n.value = m.value) :
    n.whole = m.whole ∧ placeValue 1 n.behindPoint = placeValue 1 m.behindPoint := by
  rw [value_eq_placeValue, value_eq_placeValue] at h
  obtain ⟨hwhole, hbehind⟩ := eq_of_add_eq_add (placeValue_nonneg zero_le_one _)
    (placeValue_lt one_pos n.behindPoint_digits) (placeValue_nonneg zero_le_one _)
    (placeValue_lt one_pos m.behindPoint_digits) h
  refine ⟨?_, hbehind⟩
  rw [← digits_valueOfDigits n.whole_ne_nil n.whole_digits hn, hwhole,
    digits_valueOfDigits m.whole_ne_nil m.whole_digits hm]

theorem Canonical.eq_of_value_eq {n m : DecimalText} (hn : n.Canonical) (hm : m.Canonical)
    (h : n.value = m.value) : n = m := by
  obtain ⟨hwhole, hbehind⟩ := parts_eq_of_value_eq hn.whole hm.whole h
  have hrow : n.behindPoint = m.behindPoint :=
    eq_of_placeValue_eq n.behindPoint_digits m.behindPoint_digits hn.getLast?_behindPoint
      hm.getLast?_behindPoint hbehind
  apply DecimalText.ext
  · exact hwhole
  · rw [hn.fraction_eq, hm.fraction_eq, hrow]

end DecimalText

end StakingGateway.Amount
