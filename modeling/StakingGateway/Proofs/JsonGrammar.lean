import StakingGateway.Proofs.HexDigits

/-!
# The grammar of JSON

Which characters are a JSON text, whatever a reader makes of them. Each part is a relation between
the text before it and the text behind it. Nothing here limits the size of a number or how deep
lists and objects stand inside each other, and any four hexadecimal digits are the number of an
escape.
-/

namespace StakingGateway.Json.Grammar

/-! ## Blanks and numbers -/

inductive Blanks : List Char → List Char → Prop
  | none (after : List Char) : Blanks after after
  | cons {c : Char} {before after : List Char} (hc : c ∈ [' ', '\n', '\t', '\r'])
      (h : Blanks before after) : Blanks (c :: before) after

inductive Digits : List Char → List Char → Prop
  | last {c : Char} (hc : c.isDigit = true) (after : List Char) : Digits (c :: after) after
  | cons {c : Char} {before after : List Char} (hc : c.isDigit = true) (h : Digits before after) :
      Digits (c :: before) after

/-- Zero, or digits that do not begin with zero. -/
inductive Whole : List Char → List Char → Prop
  | zero (after : List Char) : Whole ('0' :: after) after
  | digits {c : Char} {before after : List Char} (hc : c ≠ '0') (h : Digits (c :: before) after) :
      Whole (c :: before) after

inductive Fraction : List Char → List Char → Prop
  | none (after : List Char) : Fraction after after
  | point {before after : List Char} (h : Digits before after) : Fraction ('.' :: before) after

inductive Exponent : List Char → List Char → Prop
  | none (after : List Char) : Exponent after after
  | unsigned {e : Char} {before after : List Char} (he : e ∈ ['e', 'E']) (h : Digits before after) :
      Exponent (e :: before) after
  | signed {e sign : Char} {before after : List Char} (he : e ∈ ['e', 'E'])
      (hsign : sign ∈ ['+', '-']) (h : Digits before after) : Exponent (e :: sign :: before) after

inductive Numeral : List Char → List Char → Prop
  | parts {before point letter after : List Char} (hwhole : Whole before point)
      (hfraction : Fraction point letter) (hexponent : Exponent letter after) : Numeral before after

/-! ## Strings -/

inductive Escape : List Char → List Char → Prop
  | letter {c : Char} (hc : c ∈ ['"', '\\', '/', 'b', 'f', 'n', 'r', 't']) (after : List Char) :
      Escape (c :: after) after
  | number {digits : List Char} (hlength : digits.length = 4)
      (hdigits : ∀ d ∈ digits, ∃ n, Bytes.StandsFor d n) (after : List Char) :
      Escape ('u' :: (digits ++ after)) after

inductive StringTail : List Char → List Char → Prop
  | close (after : List Char) : StringTail ('"' :: after) after
  | plain {c : Char} {before after : List Char} (hquote : c ≠ '"') (hslash : c ≠ '\\')
      (hcontrol : 0x20 ≤ c.toNat) (h : StringTail before after) : StringTail (c :: before) after
  | escape {before between after : List Char} (hescape : Escape before between)
      (h : StringTail between after) : StringTail ('\\' :: before) after

/-! ## Values -/

inductive Scalar : List Char → List Char → Prop
  | null (after : List Char) : Scalar ('n' :: 'u' :: 'l' :: 'l' :: after) after
  | yes (after : List Char) : Scalar ('t' :: 'r' :: 'u' :: 'e' :: after) after
  | no (after : List Char) : Scalar ('f' :: 'a' :: 'l' :: 's' :: 'e' :: after) after
  | positive {before after : List Char} (h : Numeral before after) : Scalar before after
  | negative {before after : List Char} (h : Numeral before after) : Scalar ('-' :: before) after
  | string {before after : List Char} (h : StringTail before after) : Scalar ('"' :: before) after

inductive Name : List Char → List Char → Prop
  | quoted {before name colon after : List Char} (hgap : Blanks before ('"' :: name))
      (hname : StringTail name colon) (hcolon : Blanks colon (':' :: after)) : Name before after

mutual

inductive Value : List Char → List Char → Prop
  | scalar {before after : List Char} (h : Scalar before after) : Value before after
  | emptyList {before after : List Char} (h : Blanks before (']' :: after)) :
      Value ('[' :: before) after
  | list {before after : List Char} (h : Items before after) : Value ('[' :: before) after
  | emptyObject {before after : List Char} (h : Blanks before ('\x7d' :: after)) :
      Value ('\x7b' :: before) after
  | object {before after : List Char} (h : Fields before after) : Value ('\x7b' :: before) after

/-- One item or more, and the end of the list. -/
inductive Items : List Char → List Char → Prop
  | last {before start stop after : List Char} (hgap : Blanks before start)
      (hvalue : Value start stop) (hend : Blanks stop (']' :: after)) : Items before after
  | more {before start stop rest after : List Char} (hgap : Blanks before start)
      (hvalue : Value start stop) (hcomma : Blanks stop (',' :: rest)) (hrest : Items rest after) :
      Items before after

inductive Fields : List Char → List Char → Prop
  | last {before gap start stop after : List Char} (hname : Name before gap)
      (hgap : Blanks gap start) (hvalue : Value start stop) (hend : Blanks stop ('\x7d' :: after)) :
      Fields before after
  | more {before gap start stop rest after : List Char} (hname : Name before gap)
      (hgap : Blanks gap start) (hvalue : Value start stop) (hcomma : Blanks stop (',' :: rest))
      (hrest : Fields rest after) : Fields before after

end

inductive IsText : List Char → Prop
  | value {text start stop : List Char} (hgap : Blanks text start) (hvalue : Value start stop)
      (hend : Blanks stop []) : IsText text

/-! ## Parts take up text -/

variable {before after : List Char}

theorem Blanks.length_le (h : Blanks before after) : after.length ≤ before.length := by
  induction h with
  | none => exact Nat.le_refl _
  | cons _ _ ih => exact Nat.le_succ_of_le ih

theorem Digits.length_lt (h : Digits before after) : after.length < before.length := by
  induction h with
  | last => exact Nat.lt_succ_self _
  | cons _ _ ih => exact Nat.lt_succ_of_lt ih

theorem Whole.length_lt (h : Whole before after) : after.length < before.length := by
  cases h with
  | zero => exact Nat.lt_succ_self _
  | digits _ h => exact h.length_lt

theorem Fraction.length_le (h : Fraction before after) : after.length ≤ before.length := by
  cases h with
  | none => exact Nat.le_refl _
  | point h => exact Nat.le_succ_of_le (Nat.le_of_lt h.length_lt)

theorem Exponent.length_le (h : Exponent before after) : after.length ≤ before.length := by
  cases h with
  | none => exact Nat.le_refl _
  | unsigned _ h | signed _ _ h =>
      have := h.length_lt
      simp only [List.length_cons]
      omega

theorem Numeral.length_lt (h : Numeral before after) : after.length < before.length := by
  obtain ⟨hwhole, hfraction, hexponent⟩ := h
  have htail := Nat.le_trans hexponent.length_le hfraction.length_le
  exact Nat.lt_of_le_of_lt htail hwhole.length_lt

theorem Escape.length_lt (h : Escape before after) : after.length < before.length := by
  cases h with
  | letter => exact Nat.lt_succ_self _
  | number =>
      simp only [List.length_cons, List.length_append]
      omega

theorem StringTail.length_lt (h : StringTail before after) : after.length < before.length := by
  induction h with
  | close => exact Nat.lt_succ_self _
  | plain _ _ _ _ ih => exact Nat.lt_succ_of_lt ih
  | escape hescape _ ih => exact Nat.lt_succ_of_lt (Nat.lt_trans ih hescape.length_lt)

theorem Scalar.length_lt (h : Scalar before after) : after.length < before.length := by
  cases h with
  | null | yes | no => simp only [List.length_cons]; omega
  | positive h => exact h.length_lt
  | negative h => exact Nat.lt_succ_of_lt h.length_lt
  | string h => exact Nat.lt_succ_of_lt h.length_lt

end StakingGateway.Json.Grammar
