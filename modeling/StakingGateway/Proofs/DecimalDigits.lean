import Mathlib.Data.Nat.Basic
import Mathlib.Tactic.Ring
import StakingGateway.Proofs.Trimming
import StakingGateway.Text.Digits

/-!
# Rows of decimal digits

Zeros in front of a row of digits do not change its number, and zeros behind it multiply it by
ten. A row without needless zeros is the row that is written for its number.
-/

namespace StakingGateway.Text

def digitValue (c : Char) : Nat := c.toNat - '0'.toNat

variable {c : Char} {cs left right : List Char}

theorem digitValue_lt (h : c.isDigit = true) : digitValue c < 10 := by
  have hrange := Char.isDigit_iff_toNat.mp h
  simp only [digitValue]
  simp at hrange ⊢
  omega

theorem digitChar_digitValue (h : c.isDigit = true) : (digitValue c).digitChar = c := by
  have hrange := Char.isDigit_iff_toNat.mp h
  apply Char.toNat_inj.mp
  rw [Nat.toNat_digitChar_of_lt_ten (digitValue_lt h)]
  simp only [digitValue]
  simp at hrange ⊢
  omega

theorem eq_of_digitValue_eq {d : Char} (hc : c.isDigit = true) (hd : d.isDigit = true)
    (h : digitValue c = digitValue d) : c = d := by
  rw [← digitChar_digitValue hc, h, digitChar_digitValue hd]

theorem isBlank_of_isDigit (h : c.isDigit = true) : isBlank c = false := by
  have hrange := Char.isDigit_iff_toNat.mp h
  simp at hrange
  simp [isBlank]
  omega

theorem ne_point_of_isDigit (h : c.isDigit = true) : (c == '.') = false := by
  have hne : c ≠ '.' := by
    rintro rfl
    exact absurd h (by decide)
  simpa using hne

theorem areDigits_cons : areDigits (c :: cs) = true ↔ c.isDigit = true ∧ areDigits cs = true := by
  simp [areDigits]

theorem areDigits_append :
    areDigits (left ++ right) = true ↔ areDigits left = true ∧ areDigits right = true := by
  simp [areDigits]

theorem areDigits_replicate_zero (n : Nat) : areDigits (List.replicate n '0') = true := by
  simp [areDigits]

@[simp]
theorem valueOfDigits_nil : valueOfDigits [] = 0 := rfl

theorem valueOfDigits_append (left right : List Char) :
    valueOfDigits (left ++ right) =
      valueOfDigits left * 10 ^ right.length + valueOfDigits right := by
  rw [valueOfDigits, Nat.ofDigitChars_append, Nat.ofDigitChars_eq_ofDigitChars_zero,
    Nat.mul_comm (10 ^ right.length)]
  rfl

theorem valueOfDigits_singleton (c : Char) : valueOfDigits [c] = digitValue c := by
  simp [valueOfDigits, Nat.ofDigitChars_cons, digitValue]

theorem valueOfDigits_cons (c : Char) (cs : List Char) :
    valueOfDigits (c :: cs) = digitValue c * 10 ^ cs.length + valueOfDigits cs := by
  rw [← valueOfDigits_singleton, ← valueOfDigits_append, List.singleton_append]

theorem valueOfDigits_replicate_zero (n : Nat) : valueOfDigits (List.replicate n '0') = 0 := by
  simp [valueOfDigits]

theorem valueOfDigits_lt (h : areDigits cs = true) : valueOfDigits cs < 10 ^ cs.length := by
  induction cs with
  | nil => simp
  | cons c cs ih =>
      obtain ⟨hc, hcs⟩ := areDigits_cons.mp h
      have hdigit : digitValue c + 1 ≤ 10 := digitValue_lt hc
      calc valueOfDigits (c :: cs)
          = digitValue c * 10 ^ cs.length + valueOfDigits cs := valueOfDigits_cons c cs
        _ < digitValue c * 10 ^ cs.length + 10 ^ cs.length := Nat.add_lt_add_left (ih hcs) _
        _ = (digitValue c + 1) * 10 ^ cs.length := by ring
        _ ≤ 10 * 10 ^ cs.length := Nat.mul_le_mul_right _ hdigit
        _ = 10 ^ (c :: cs).length := (Nat.pow_succ' ..).symm

theorem mul_add_div_of_lt {digit unit rest : Nat} (h : rest < unit) :
    (digit * unit + rest) / unit = digit := by
  rw [Nat.mul_comm, Nat.mul_add_div (Nat.zero_lt_of_lt h), Nat.div_eq_of_lt h, Nat.add_zero]

/-- Among rows of one length, the number fixes the row. -/
theorem eq_of_valueOfDigits_eq (hlength : left.length = right.length)
    (hleft : areDigits left = true) (hright : areDigits right = true)
    (h : valueOfDigits left = valueOfDigits right) : left = right := by
  induction left generalizing right with
  | nil => exact (List.length_eq_zero_iff.mp hlength.symm).symm
  | cons c left ih =>
      cases right with
      | nil => cases hlength
      | cons d right =>
          obtain ⟨hc, hcs⟩ := areDigits_cons.mp hleft
          obtain ⟨hd, hds⟩ := areDigits_cons.mp hright
          replace hlength : left.length = right.length := Nat.succ.inj hlength
          have hleftLt := valueOfDigits_lt hcs
          have hrightLt := valueOfDigits_lt hds
          rw [valueOfDigits_cons, valueOfDigits_cons, hlength] at h
          rw [hlength] at hleftLt
          have hdigit : digitValue c = digitValue d :=
            calc digitValue c
                = (digitValue c * 10 ^ right.length + valueOfDigits left) / 10 ^ right.length :=
                  (mul_add_div_of_lt hleftLt).symm
              _ = (digitValue d * 10 ^ right.length + valueOfDigits right) / 10 ^ right.length := by
                  rw [h]
              _ = digitValue d := mul_add_div_of_lt hrightLt
          rw [hdigit, Nat.add_left_cancel_iff] at h
          rw [eq_of_digitValue_eq hc hd hdigit, ih hlength hcs hds h]

/-! ## Zeros in front -/

theorem valueOfDigits_padZeros (width : Nat) (cs : List Char) :
    valueOfDigits (padZeros width cs) = valueOfDigits cs := by
  rw [padZeros, valueOfDigits_append, valueOfDigits_replicate_zero, Nat.zero_mul, Nat.zero_add]

theorem areDigits_padZeros (width : Nat) (h : areDigits cs = true) :
    areDigits (padZeros width cs) = true :=
  areDigits_append.mpr ⟨areDigits_replicate_zero _, h⟩

theorem length_padZeros {width : Nat} (h : cs.length ≤ width) :
    (padZeros width cs).length = width := by
  simp [padZeros, h]

theorem padZeros_of_le {width : Nat} (h : width ≤ cs.length) : padZeros width cs = cs := by
  simp [padZeros, h]

theorem length_digits_le {n width : Nat} (hwidth : 0 < width) :
    (digits n).length ≤ width ↔ n < 10 ^ width :=
  Nat.length_toDigits_le_iff (by decide) hwidth

/-- No zero stands in front of the row, unless the row is the zero. -/
def NoLeadingZero (cs : List Char) : Prop :=
  cs = ['0'] ∨ cs.head? ≠ some '0'

theorem digits_ne_nil (n : Nat) : digits n ≠ [] := Nat.toDigits_ne_nil

theorem digits_of_lt {n : Nat} (h : n < 10) : digits n = [n.digitChar] :=
  Nat.toDigits_of_lt_base h

theorem digits_append_digit {n : Nat} (hn : 0 < n) (hc : c.isDigit = true) :
    digits n ++ [c] = digits (n * 10 + digitValue c) := by
  rw [Nat.mul_comm, digits, digits,
    ← Nat.toDigits_append_toDigits (by decide) hn (digitValue_lt hc),
    Nat.toDigits_of_lt_base (digitValue_lt hc), digitChar_digitValue hc]

theorem head?_digits {n : Nat} (hn : 0 < n) : (digits n).head? ≠ some '0' := by
  induction n using Nat.strong_induction_on with
  | _ n ih =>
      by_cases hsmall : n < 10
      · rw [digits_of_lt hsmall]
        simpa using Nat.ne_of_gt hn
      · have hrest := ih (n / 10) (by omega) (by omega)
        rw [digits, Nat.toDigits_of_base_le (by decide) (by omega)]
        rwa [List.head?_append_of_ne_nil _ Nat.toDigits_ne_nil]

theorem noLeadingZero_digits (n : Nat) : NoLeadingZero (digits n) := by
  rcases Nat.eq_zero_or_pos n with rfl | hn
  · exact Or.inl rfl
  · exact Or.inr (head?_digits hn)

theorem NoLeadingZero.take {cs : List Char} (h : NoLeadingZero cs) {k : Nat} (hk : 0 < k) :
    NoLeadingZero (cs.take k) := by
  rcases h with rfl | hhead
  · exact Or.inl (List.take_of_length_le hk)
  · refine Or.inr ?_
    rwa [List.head?_take, if_neg (Nat.ne_of_gt hk)]

theorem noLeadingZero_singleton (c : Char) : NoLeadingZero [c] := by
  by_cases hc : c = '0'
  · exact Or.inl (by rw [hc])
  · exact Or.inr (by simpa using hc)

theorem valueOfDigits_pos (hne : cs ≠ []) (hdigits : areDigits cs = true)
    (hhead : cs.head? ≠ some '0') : 0 < valueOfDigits cs := by
  cases cs with
  | nil => exact absurd rfl hne
  | cons c cs =>
      have hc := (areDigits_cons.mp hdigits).1
      have hdigit : 0 < digitValue c := by
        refine Nat.pos_of_ne_zero fun hzero => hhead ?_
        rw [List.head?_cons, eq_of_digitValue_eq hc (by decide : '0'.isDigit = true) hzero]
      rw [valueOfDigits_cons]
      exact Nat.add_pos_left (Nat.mul_pos hdigit (Nat.pow_pos (by decide))) _

/-- A row without needless zeros in front is the one that is written for its number. -/
theorem digits_valueOfDigits (hne : cs ≠ []) (hdigits : areDigits cs = true)
    (hzero : NoLeadingZero cs) : digits (valueOfDigits cs) = cs := by
  rcases hzero with rfl | hhead
  · rfl
  · induction cs using List.reverseRecOn with
    | nil => exact absurd rfl hne
    | append_singleton cs c ih =>
        obtain ⟨hcs, hc⟩ := areDigits_append.mp hdigits
        have hdigit : c.isDigit = true := (areDigits_cons.mp hc).1
        rw [valueOfDigits_append, valueOfDigits_singleton]
        by_cases hnil : cs = []
        · subst hnil
          simp [digits_of_lt (digitValue_lt hdigit), digitChar_digitValue hdigit]
        · rw [List.head?_append_of_ne_nil _ hnil] at hhead
          rw [List.length_singleton, Nat.pow_one,
            ← digits_append_digit (valueOfDigits_pos hnil hcs hhead) hdigit, ih hnil hcs hhead]

/-! ## Zeros behind -/

/-- Dropping the zeros at the end drops a power of ten. -/
theorem dropTrailingZeros_append (cs : List Char) :
    ∃ n, cs = dropTrailingZeros cs ++ List.replicate n '0' := by
  obtain ⟨back, hsplit, hback⟩ := dropEndWhile_append (· == '0') cs
  refine ⟨back.length, hsplit.trans ?_⟩
  have hzeros : back = List.replicate back.length '0' :=
    List.eq_replicate_iff.mpr ⟨rfl, fun c hc => by simpa using hback c hc⟩
  rw [← hzeros]
  rfl

theorem getLast?_dropTrailingZeros (cs : List Char) :
    (dropTrailingZeros cs).getLast? ≠ some '0' := by
  intro hlast
  have hnot := not_of_mem_getLast?_dropEndWhile (p := (· == '0')) (Option.mem_def.mpr hlast)
  simp at hnot

theorem length_dropTrailingZeros_le (cs : List Char) :
    (dropTrailingZeros cs).length ≤ cs.length := by
  obtain ⟨n, hsplit⟩ := dropTrailingZeros_append cs
  have hlength := congrArg List.length hsplit
  rw [List.length_append] at hlength
  omega

theorem areDigits_dropTrailingZeros (h : areDigits cs = true) :
    areDigits (dropTrailingZeros cs) = true := by
  obtain ⟨n, hsplit⟩ := dropTrailingZeros_append cs
  rw [hsplit] at h
  exact (areDigits_append.mp h).1

theorem valueOfDigits_dropTrailingZeros (cs : List Char) :
    valueOfDigits (dropTrailingZeros cs) * 10 ^ (cs.length - (dropTrailingZeros cs).length) =
      valueOfDigits cs := by
  obtain ⟨n, hsplit⟩ := dropTrailingZeros_append cs
  have hlength := congrArg List.length hsplit
  rw [List.length_append, List.length_replicate] at hlength
  conv_rhs => rw [hsplit, valueOfDigits_append, valueOfDigits_replicate_zero,
    List.length_replicate, Nat.add_zero]
  rw [hlength, Nat.add_sub_cancel_left]

end StakingGateway.Text
