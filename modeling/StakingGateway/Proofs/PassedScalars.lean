import StakingGateway.Json.Skip
import StakingGateway.Proofs.CursorSteps

/-!
# Plain values that are passed over

Numbers and strings are taken by two readers, one that makes a value of them and one that only goes
behind them. Both find what the grammar has, and whatever the first one reads the second one passes,
up to the same place. What stands at the start of a value is told here for both of them.
-/

namespace StakingGateway.Json

namespace Reader

variable {α : Type} {c c' : Cursor} {u : Unit} {x : Number} {negative : Bool} {significand : Nat}
  {exponent : Int}

/-! ## Exponents -/

theorem digits_of_head {d : Char} (h : c.rest.head? = some d) (hd : d.isDigit = true) :
    Grammar.Digits c.rest (c.span Char.isDigit).2.rest := by
  apply Cursor.digits_span
  obtain ⟨_ | ⟨x, rest⟩, place⟩ := c
  · cases h
  · obtain rfl : x = d := Option.some.inj h
    unfold Cursor.span
    rw [Cursor.span_go_cons, if_pos hd]
    exact List.cons_ne_nil _ _

def behindSign (c : Cursor) : Cursor :=
  match c.rest.head? with
  | some '+' | some '-' => c.eat
  | _ => c

theorem sign_cases (next : Option Char) :
    next = some '+' ∨ next = some '-' ∨ next ≠ some '+' ∧ next ≠ some '-' := by
  by_cases hplus : next = some '+'
  · exact Or.inl hplus
  by_cases hminus : next = some '-'
  · exact Or.inr (Or.inl hminus)
  · exact Or.inr (Or.inr ⟨hplus, hminus⟩)

theorem behindSign_cases (c : Cursor) :
    (∃ sign rest place, sign ∈ ['+', '-'] ∧ c = ⟨sign :: rest, place⟩ ∧
      behindSign c = ⟨rest, place.after sign⟩) ∨ behindSign c = c := by
  obtain ⟨_ | ⟨sign, rest⟩, place⟩ := c
  · exact Or.inr rfl
  · rcases sign_cases (some sign) with ⟨⟨⟩⟩ | ⟨⟨⟩⟩ | ⟨hplus, hminus⟩
    · exact Or.inl ⟨_, rest, place, by simp, rfl, rfl⟩
    · exact Or.inl ⟨_, rest, place, by simp, rfl, rfl⟩
    · right
      simp only [behindSign, List.head?_cons]

/-- From the letter of an exponent on: digits must follow, behind a sign or without one. -/
structure Powers (c c' : Cursor) : Prop where
  head : ∃ d, (behindSign c.eat).rest.head? = some d ∧ d.isDigit = true
  stop : c' = ((behindSign c.eat).span Char.isDigit).2

theorem Powers.grammar {e : Char} {rest : List Char} {place : Position}
    (h : Powers ⟨e :: rest, place⟩ c') (he : e ∈ ['e', 'E']) :
    Grammar.Exponent (e :: rest) c'.rest := by
  obtain ⟨⟨d, hhead, hd⟩, rfl⟩ := h
  have hdigits := digits_of_head hhead hd
  rw [Cursor.eat_cons] at hdigits ⊢
  rcases behindSign_cases ⟨rest, place.after e⟩ with
    ⟨sign, others, behind, hsign, hcursor, hbehind⟩ | hbehind
  · obtain ⟨rfl, rfl⟩ := Cursor.mk.inj hcursor
    rw [hbehind] at hdigits ⊢
    exact .signed he hsign hdigits
  · rw [hbehind] at hdigits ⊢
    exact .unsigned he hdigits

def passPowers : Reader Unit := do
  match ← peek with
  | none => fail .badNumber
  | some c =>
    if c.isDigit then
      let _ ← span Char.isDigit
    else failAhead .badNumber

theorem skipExponent_eq (c : Cursor) : skipExponent c = passPowers (behindSign c.eat) := by
  unfold skipExponent behindSign
  rw [eat_bind, peek_bind]
  rcases sign_cases c.eat.rest.head? with hnext | hnext | ⟨hplus, hminus⟩
  · simp only [hnext]
    rfl
  · simp only [hnext]
    rfl
  · simp only
    rfl

theorem skipExponent_eq_ok_iff : skipExponent c = .ok (u, c') ↔ Powers c c' := by
  rw [skipExponent_eq, passPowers, peek_bind]
  cases hhead : (behindSign c.eat).rest.head? with
  | none => exact iff_of_false (by simp) fun h => by simpa [hhead] using h.head
  | some d =>
      cases hd : d.isDigit with
      | false => exact iff_of_false (by simp [hd]) fun h => by simpa [hhead, hd] using h.head
      | true =>
          simp only [hd, if_true, span_bind, pure_eq_ok_iff, true_and]
          exact ⟨fun hstop => ⟨⟨d, hhead, hd⟩, hstop⟩, fun h => h.stop⟩

def readPowers (negative : Bool) (significand : Nat) (start : Int) (down : Bool) :
    Reader Number := do
  match ← peek with
  | none => fail .endInValue
  | some c =>
    if !c.isDigit then failAhead .badNumber
    else
      let begin ← get
      let digits ← span Char.isDigit
      match exponentOverflow? 0 0 digits with
      | some count =>
        if significand ≠ 0 && !down then
          throw ⟨.numberTooLarge, begin.place.line, begin.place.column + count⟩
        else pure (.real (Binary64.zero negative))
      | none =>
        let exponent : Int := Nat.ofDigitChars 10 digits 0
        real negative significand (if down then start - exponent else start + exponent)

theorem exponentPart_eq (negative : Bool) (significand : Nat) (start : Int) (c : Cursor) :
    ∃ down, exponentPart negative significand start c =
      readPowers negative significand start down (behindSign c.eat) := by
  unfold exponentPart behindSign
  rw [eat_bind, peek_bind]
  rcases sign_cases c.eat.rest.head? with hnext | hnext | ⟨hplus, hminus⟩
  · simp only [hnext]
    exact ⟨_, rfl⟩
  · simp only [hnext]
    exact ⟨_, rfl⟩
  · simp only
    exact ⟨_, rfl⟩

theorem real_eq_ok (h : real negative significand exponent c = .ok (x, c')) : c' = c := by
  unfold real at h
  cases hreal : realOfParts? negative significand exponent with
  | none => simp [hreal] at h
  | some value =>
      rw [hreal] at h
      exact (pure_eq_ok_iff.mp h).2

theorem powers_of_exponentPart (h : exponentPart negative significand exponent c = .ok (x, c')) :
    Powers c c' := by
  obtain ⟨down, hpart⟩ := exponentPart_eq negative significand exponent c
  rw [hpart, readPowers, peek_bind] at h
  cases hhead : (behindSign c.eat).rest.head? with
  | none => simp [hhead] at h
  | some d =>
      cases hd : d.isDigit with
      | false => simp [hhead, hd] at h
      | true =>
          refine ⟨⟨d, hhead, hd⟩, ?_⟩
          simp only [hhead, hd, Bool.not_true, Bool.false_eq_true, if_false, get_bind,
            span_bind] at h
          cases hlarge : exponentOverflow? 0 0 ((behindSign c.eat).span Char.isDigit).1 with
          | none =>
              rw [hlarge] at h
              exact real_eq_ok h
          | some count =>
              simp only [hlarge] at h
              split_ifs at h
              · cases h
              · exact (pure_eq_ok_iff.mp h).2

/-! ## Numbers -/

theorem letter_cases (next : Option Char) :
    next = some 'e' ∨ next = some 'E' ∨ next ≠ some 'e' ∧ next ≠ some 'E' := by
  by_cases hsmall : next = some 'e'
  · exact Or.inl hsmall
  by_cases hcapital : next = some 'E'
  · exact Or.inr (Or.inl hcapital)
  · exact Or.inr (Or.inr ⟨hsmall, hcapital⟩)

theorem not_letter {next : Option Char} {e : Char} (hnext : next = some e) (he : e ∈ ['e', 'E'])
    (hsmall : next ≠ some 'e') (hcapital : next ≠ some 'E') : False := by
  simp only [List.mem_cons, List.not_mem_nil, or_false] at he
  rcases he with rfl | rfl
  · exact hsmall hnext
  · exact hcapital hnext

/-- Behind the digits of a number: an exponent, if its letter comes next. -/
inductive Scaled (c : Cursor) : Cursor → Prop
  | letter {e : Char} {c' : Cursor} (hhead : c.rest.head? = some e) (he : e ∈ ['e', 'E'])
      (h : Powers c c') : Scaled c c'
  | none (hsmall : c.rest.head? ≠ some 'e') (hcapital : c.rest.head? ≠ some 'E') : Scaled c c

theorem Scaled.grammar (h : Scaled c c') : Grammar.Exponent c.rest c'.rest := by
  cases h with
  | none => exact .none _
  | letter hhead he h =>
      obtain ⟨_ | ⟨x, rest⟩, place⟩ := c
      · cases hhead
      · obtain rfl := Option.some.inj hhead
        exact h.grammar he

theorem scaled_iff_powers {e : Char} (hhead : c.rest.head? = some e) (he : e ∈ ['e', 'E']) :
    Scaled c c' ↔ Powers c c' := by
  refine ⟨fun h => ?_, .letter hhead he⟩
  cases h with
  | letter _ _ h => exact h
  | none hsmall hcapital => exact (not_letter hhead he hsmall hcapital).elim

theorem skipExponentOrNothing_eq_ok_iff : skipExponentOrNothing c = .ok (u, c') ↔ Scaled c c' := by
  unfold skipExponentOrNothing
  rw [peek_bind]
  rcases letter_cases c.rest.head? with hnext | hnext | ⟨hsmall, hcapital⟩
  · simp only [hnext]
    rw [skipExponent_eq_ok_iff, scaled_iff_powers hnext (by simp)]
  · simp only [hnext]
    rw [skipExponent_eq_ok_iff, scaled_iff_powers hnext (by simp)]
  · simp only [pure_eq_ok_iff, true_and]
    constructor
    · rintro rfl
      exact .none hsmall hcapital
    · rintro (⟨hhead, he, _⟩ | _)
      · exact (not_letter hhead he hsmall hcapital).elim
      · rfl

theorem scaled_of_exponentOr {otherwise : Reader Number}
    (hotherwise : ∀ x c', otherwise c = .ok (x, c') → c' = c)
    (h : exponentOr negative significand exponent otherwise c = .ok (x, c')) : Scaled c c' := by
  unfold exponentOr at h
  rw [peek_bind] at h
  rcases letter_cases c.rest.head? with hnext | hnext | ⟨hsmall, hcapital⟩
  · rw [hnext] at h
    exact .letter hnext (by simp) (powers_of_exponentPart h)
  · rw [hnext] at h
    exact .letter hnext (by simp) (powers_of_exponentPart h)
  · simp only at h
    obtain rfl := hotherwise x c' h
    exact .none hsmall hcapital

/-- Behind the whole part of a number: a fraction, if a point comes next. -/
inductive Broken (c : Cursor) : Cursor → Prop
  | point {c' : Cursor} (hhead : c.rest.head? = some '.')
      (hdigits : (c.eat.span Char.isDigit).1 ≠ []) (h : Scaled (c.eat.span Char.isDigit).2 c') :
      Broken c c'
  | none {c' : Cursor} (hhead : c.rest.head? ≠ some '.') (h : Scaled c c') : Broken c c'

theorem Broken.grammar (h : Broken c c') :
    ∃ letter, Grammar.Fraction c.rest letter ∧ Grammar.Exponent letter c'.rest := by
  cases h with
  | none _ h => exact ⟨_, .none _, h.grammar⟩
  | point hhead hdigits h =>
      obtain ⟨_ | ⟨x, rest⟩, place⟩ := c
      · cases hhead
      · obtain rfl := Option.some.inj hhead
        exact ⟨_, .point (Cursor.digits_span hdigits), h.grammar⟩

def skipBroken : Reader Unit := do
  match ← peek with
  | some '.' => skipFraction
  | _ => skipExponentOrNothing

theorem skipBroken_eq_ok_iff : skipBroken c = .ok (u, c') ↔ Broken c c' := by
  unfold skipBroken
  rw [peek_bind]
  by_cases hpoint : c.rest.head? = some '.'
  · simp only [hpoint, skipFraction]
    rw [eat_bind, span_bind]
    constructor
    · intro h
      split_ifs at h with hempty
      · cases h
      · exact .point hpoint (by simpa using hempty) (skipExponentOrNothing_eq_ok_iff.mp h)
    · rintro (⟨_, hdigits, h⟩ | ⟨hhead, _⟩)
      · rw [if_neg (by simpa using hdigits)]
        exact skipExponentOrNothing_eq_ok_iff.mpr h
      · exact absurd hpoint hhead
  · simp only
    rw [skipExponentOrNothing_eq_ok_iff]
    refine ⟨.none hpoint, ?_⟩
    rintro (⟨hhead, _⟩ | ⟨_, h⟩)
    · exact absurd hhead hpoint
    · exact h

theorem broken_of_afterWhole {dropped : Nat}
    (h : afterWhole negative significand dropped c = .ok (x, c')) : Broken c c' := by
  unfold afterWhole at h
  rw [peek_bind] at h
  by_cases hpoint : c.rest.head? = some '.'
  · rw [hpoint] at h
    simp only [fractionPart] at h
    rw [eat_bind, span_bind] at h
    split_ifs at h with hempty
    · rw [peek_bind] at h
      generalize (c.eat.span Char.isDigit).2.rest.head? = next at h
      cases next <;> cases h
    · exact .point hpoint (by simpa using hempty) (scaled_of_exponentOr (fun _ _ => real_eq_ok) h)
  · simp only at h
    refine .none hpoint (scaled_of_exponentOr (fun y c'' hy => ?_) h)
    split_ifs at hy
    all_goals first | exact real_eq_ok hy | exact (pure_eq_ok_iff.mp hy).2

inductive Numbered (c c' : Cursor) : Prop
  | zero {rest : List Char} (hrest : c.rest = '0' :: rest)
      (hnext : ∀ d ∈ rest.head?, d.isDigit = false) (h : Broken c.eat c')
  | digits {d : Char} (hhead : c.rest.head? = some d) (hzero : d ≠ '0') (hd : d.isDigit = true)
      (h : Broken (c.span Char.isDigit).2 c')

theorem Numbered.grammar (h : Numbered c c') : Grammar.Numeral c.rest c'.rest := by
  cases h with
  | zero hrest _ h =>
      obtain ⟨text, place⟩ := c
      obtain rfl : text = '0' :: _ := hrest
      obtain ⟨letter, hfraction, hexponent⟩ := h.grammar
      exact .parts (.zero _) hfraction hexponent
  | digits hhead hzero hd h =>
      obtain ⟨letter, hfraction, hexponent⟩ := h.grammar
      have hdigits := digits_of_head hhead hd
      obtain ⟨_ | ⟨x, rest⟩, place⟩ := c
      · cases hhead
      · obtain rfl := Option.some.inj hhead
        exact .parts (.digits hzero hdigits) hfraction hexponent

theorem numbered_zero {rest : List Char} {place : Position} :
    Numbered ⟨'0' :: rest, place⟩ c' ↔
      (∀ d ∈ rest.head?, d.isDigit = false) ∧ Broken ⟨rest, place.after '0'⟩ c' := by
  constructor
  · rintro (⟨⟨⟩, hnext, h⟩ | ⟨⟨⟩, hzero, _, _⟩)
    · exact ⟨hnext, h⟩
    · exact absurd rfl hzero
  · exact fun ⟨hnext, h⟩ => .zero rfl hnext h

theorem numbered_cons {d : Char} {rest : List Char} {place : Position} (hzero : d ≠ '0') :
    Numbered ⟨d :: rest, place⟩ c' ↔
      d.isDigit = true ∧ Broken (Cursor.span Char.isDigit ⟨d :: rest, place⟩).2 c' := by
  constructor
  · rintro (⟨⟨⟩, _, _⟩ | ⟨⟨⟩, _, hd, h⟩)
    · exact absurd rfl hzero
    · exact ⟨hd, h⟩
  · exact fun ⟨hd, h⟩ => .digits rfl hzero hd h

theorem not_numbered_nil {place : Position} : ¬ Numbered ⟨[], place⟩ c' := by
  rintro (⟨⟨⟩, _⟩ | ⟨⟨⟩, _⟩)

theorem skipNumeral_eq_ok_iff : skipNumeral c = .ok (u, c') ↔ Numbered c c' := by
  unfold skipNumeral
  rw [peek_bind]
  obtain ⟨_ | ⟨d, rest⟩, place⟩ := c
  · exact iff_of_false (by simp [bind_eq_ok_iff]) not_numbered_nil
  by_cases hzero : d = '0'
  · subst hzero
    rw [numbered_zero]
    simp only [List.head?_cons]
    rw [eat_bind, Cursor.eat_cons, peek_bind]
    cases hhead : rest.head? with
    | none =>
        simp only [Option.not_mem_none, false_implies, implies_true, true_and]
        exact skipBroken_eq_ok_iff
    | some next =>
        cases hnext : next.isDigit with
        | true => simp [hnext, bind_eq_ok_iff]
        | false =>
            simp only [Option.mem_some, forall_eq', hnext, true_and]
            exact skipBroken_eq_ok_iff
  · rw [numbered_cons hzero]
    simp only [List.head?_cons]
    cases hd : d.isDigit with
    | false => simp [bind_eq_ok_iff]
    | true =>
        simp only [Bool.not_true, Bool.false_eq_true, if_false, span_bind, true_and]
        exact skipBroken_eq_ok_iff

theorem numbered_of_numeral (h : numeral negative c = .ok (x, c')) : Numbered c c' := by
  unfold numeral at h
  rw [peek_bind] at h
  obtain ⟨_ | ⟨d, rest⟩, place⟩ := c
  · cases h
  by_cases hzero : d = '0'
  · subst hzero
    rw [numbered_zero]
    simp only [List.head?_cons] at h
    rw [eat_bind, Cursor.eat_cons, peek_bind] at h
    cases hhead : rest.head? with
    | none =>
        simp only [hhead] at h
        exact ⟨by simp, broken_of_afterWhole h⟩
    | some next =>
        simp only [hhead] at h
        split_ifs at h with hnext
        · cases h
        · exact ⟨by simpa using hnext, broken_of_afterWhole h⟩
  · rw [numbered_cons hzero]
    simp only [List.head?_cons] at h
    split_ifs at h with hd
    · cases h
    · rw [span_bind] at h
      exact ⟨by simpa using hd, broken_of_afterWhole h⟩

/-! ## Strings -/

theorem forall_of_mapM_eq_some {β γ : Type} {f : β → Option γ} {l : List β} {values : List γ}
    (h : l.mapM f = some values) : ∀ a ∈ l, ∃ b, f a = some b := by
  induction l generalizing values with
  | nil => simp
  | cons a rest ih =>
      simp only [List.mapM_cons, Option.bind_eq_bind, Option.bind_eq_some_iff] at h
      obtain ⟨b, hb, others, hrest, -⟩ := h
      exact List.forall_mem_cons.mpr ⟨⟨b, hb⟩, ih hrest⟩

theorem utf8Size_of_standsFor {d : Char} {n : Nat} (h : Bytes.StandsFor d n) : d.utf8Size = 1 := by
  have hlt := Bytes.toNat_lt_of_hexValue? (Bytes.hexValue?_eq_some_iff.mpr h)
  rw [Char.utf8Size_eq_one_iff, UInt32.le_iff_toNat_le]
  exact Nat.le_of_lt_succ (Nat.lt_trans hlt (by decide))

theorem utf8ByteSize_hexDigits {digits : List Char} (h : ∀ d ∈ digits, ∃ n, Bytes.StandsFor d n) :
    (String.ofList digits).utf8ByteSize = digits.length := by
  induction digits with
  | nil => rfl
  | cons d digits ih =>
      obtain ⟨⟨n, hd⟩, hrest⟩ := List.forall_mem_cons.mp h
      rw [String.ofList_cons, String.utf8ByteSize_append, ih hrest, String.utf8ByteSize_singleton,
        utf8Size_of_standsFor hd, List.length_cons, Nat.add_comm]

theorem hex4_eq_ok {n : Nat} (h : hex4 c = .ok (n, c')) :
    ∃ digits rest, c.rest = digits ++ rest ∧ digits.length = 4 ∧
      (∀ d ∈ digits, ∃ n, Bytes.StandsFor d n) ∧ c'.rest = rest := by
  unfold hex4 at h
  split_ifs at h with hshort
  cases hvalues : (c.rest.take 4).mapM Bytes.hexValue? with
  | none => simp [hvalues] at h
  | some values =>
      have hdigits : ∀ d ∈ c.rest.take 4, ∃ n, Bytes.StandsFor d n := fun d hd =>
        (forall_of_mapM_eq_some hvalues d hd).imp fun _ => Bytes.hexValue?_eq_some_iff.mp
      rw [utf8ByteSize_hexDigits hdigits, List.length_take, Nat.not_lt, Nat.le_min] at hshort
      rw [hvalues] at h
      obtain ⟨-, rfl⟩ := Prod.mk.inj (Except.ok.inj h)
      refine ⟨c.rest.take 4, c.rest.drop 4, (List.take_append_drop 4 _).symm,
        by simpa using hshort.2, hdigits, ?_⟩
      obtain ⟨text, place⟩ := c
      match text, hshort.2 with
      | _ :: _ :: _ :: _ :: _, _ => rfl

theorem skipEscape_number {rest : List Char} {place : Position} :
    skipEscape ⟨'u' :: rest, place⟩ = .ok (u, c') ↔
      ∃ n, hex4 ⟨rest, place.after 'u'⟩ = .ok (n, c') := by
  unfold skipEscape
  rw [peek_bind]
  simp only [List.head?_cons, if_true]
  rw [eat_bind, bind_eq_ok_iff]
  simp

theorem skipEscape_letter {x : Char} {rest : List Char} {place : Position} (hx : x ≠ 'u') :
    skipEscape ⟨x :: rest, place⟩ = .ok (u, c') ↔
      x ∈ ['"', '\\', '/', 'b', 'f', 'n', 'r', 't'] ∧ c' = ⟨rest, place.after x⟩ := by
  unfold skipEscape
  rw [peek_bind]
  simp only [List.head?_cons, if_neg hx]
  split_ifs with hletter
  · simp [eat_eq_ok_iff, hletter]
  · simp [hletter]

theorem escape_of_skipEscape (h : skipEscape c = .ok (u, c')) : Grammar.Escape c.rest c'.rest := by
  obtain ⟨_ | ⟨x, rest⟩, place⟩ := c
  · cases h
  by_cases hx : x = 'u'
  · subst hx
    obtain ⟨n, hnumber⟩ := skipEscape_number.mp h
    obtain ⟨digits, behind, rfl, hlength, hdigits, hrest⟩ := hex4_eq_ok hnumber
    rw [hrest]
    exact .number hlength hdigits behind
  · obtain ⟨hletter, rfl⟩ := (skipEscape_letter hx).mp h
    exact .letter hletter rest

/-- One escape, or two that are the halves of one character. -/
inductive Escapes (c c' : Cursor) : Prop
  | one (h : skipEscape c = .ok ((), c'))
  | two {rest : List Char} {place : Position}
      (hfirst : skipEscape c = .ok ((), ⟨'\\' :: rest, place⟩))
      (hsecond : skipEscape ⟨rest, place.after '\\'⟩ = .ok ((), c'))

theorem surrogateMark_eq_ok {wanted : Char} (h : surrogateMark wanted c = .ok (u, c')) :
    ∃ rest place, c = ⟨wanted :: rest, place⟩ ∧ c' = ⟨rest, place.after wanted⟩ := by
  obtain ⟨_ | ⟨x, rest⟩, place⟩ := c
  · cases h
  unfold surrogateMark at h
  rw [peek_bind] at h
  simp only [List.head?_cons] at h
  split_ifs at h with hx
  · subst hx
    exact ⟨rest, place, rfl, eat_eq_ok_iff.mp h⟩
  · cases h

theorem escapes_of_numberedEscape {rest : List Char} {place : Position} {x : Char}
    (h : numberedEscape ⟨rest, place.after 'u'⟩ = .ok (x, c')) :
    Escapes ⟨'u' :: rest, place⟩ c' := by
  obtain ⟨high, behind, hhigh, hbehind⟩ := bind_eq_ok_iff.mp h
  have hfirst : skipEscape ⟨'u' :: rest, place⟩ = .ok ((), behind) :=
    skipEscape_number.mpr ⟨high, hhigh⟩
  split_ifs at hbehind
  · cases hbehind
  · obtain ⟨_, between, hmark, hpair⟩ := bind_eq_ok_iff.mp hbehind
    obtain ⟨_, after, hletter, hhalf⟩ := bind_eq_ok_iff.mp hpair
    obtain ⟨low, stop, hlow, hchar⟩ := bind_eq_ok_iff.mp hhalf
    obtain ⟨others, there, rfl, rfl⟩ := surrogateMark_eq_ok hmark
    obtain ⟨digits, here, hcursor, rfl⟩ := surrogateMark_eq_ok hletter
    split_ifs at hchar
    · obtain ⟨-, rfl⟩ := pure_eq_ok_iff.mp hchar
      obtain ⟨rfl, rfl⟩ := Cursor.mk.inj hcursor
      exact .two hfirst (skipEscape_number.mpr ⟨low, hlow⟩)
    · cases hchar
  · obtain ⟨-, rfl⟩ := pure_eq_ok_iff.mp hbehind
    exact .one hfirst

theorem escapes_of_escape {x : Char} (h : escape c = .ok (x, c')) : Escapes c c' := by
  obtain ⟨_ | ⟨mark, rest⟩, place⟩ := c
  · cases h
  unfold escape at h
  rw [peek_bind] at h
  simp only [List.head?_cons] at h
  have hletter {mark x : Char} (hmark : mark ∈ ['"', '\\', '/', 'b', 'f', 'n', 'r', 't'])
      (h : (eat >>= fun _ => pure x : Reader Char) ⟨mark :: rest, place⟩ = .ok (x, c')) :
      Escapes ⟨mark :: rest, place⟩ c' := by
    rw [eat_bind, Cursor.eat_cons, pure_eq_ok_iff] at h
    have hother : mark ≠ 'u' := by
      rintro rfl
      exact absurd hmark (by decide)
    exact .one ((skipEscape_letter hother).mpr ⟨hmark, h.2⟩)
  split at h
  case h_9 => exact escapes_of_numberedEscape h
  case h_10 => cases h
  all_goals
    obtain ⟨rfl, -⟩ := pure_eq_ok_iff.mp h
    exact hletter (by decide) h

/-! A string takes one step for each of its characters, when it is read, and one for each escape,
when it is passed over. Both have enough fuel for what is left of the text. -/

theorem length_lt_of_skipEscape (h : skipEscape c = .ok (u, c')) :
    c'.rest.length < c.rest.length := (escape_of_skipEscape h).length_lt

theorem skipString_quote {fuel : Nat} {rest : List Char} {place : Position} :
    skipString (fuel + 1) ⟨'"' :: rest, place⟩ = .ok ((), ⟨rest, place.after '"'⟩) := rfl

theorem skipString_escape {fuel : Nat} {rest : List Char} {place : Position} {between : Cursor}
    (h : skipEscape ⟨rest, place.after '\\'⟩ = .ok ((), between)) :
    skipString (fuel + 1) ⟨'\\' :: rest, place⟩ = skipString fuel between := by
  change (skipEscape >>= fun _ => skipString fuel) ⟨rest, place.after '\\'⟩ = _
  exact bind_of_eq_ok h

theorem skipString_plain {fuel : Nat} {x : Char} {rest : List Char} {place : Position}
    (hquote : x ≠ '"') (hslash : x ≠ '\\') (hcontrol : ¬ x.toNat < 0x20) :
    skipString (fuel + 1) ⟨x :: rest, place⟩ = skipString fuel ⟨rest, place.after x⟩ := by
  rw [skipString, peek_bind]
  simp only [List.head?_cons, if_neg hquote, if_neg hslash, if_neg hcontrol]
  rfl

theorem skipString_of_stringTail {fuel spare : Nat} {cs : List Char}
    (h : stringTail fuel c = .ok (cs, c')) (hspare : c.rest.length < spare) :
    skipString spare c = .ok ((), c') := by
  induction fuel generalizing c cs spare with
  | zero => cases h
  | succ fuel ih =>
      obtain ⟨spare, rfl⟩ := Nat.exists_eq_add_one_of_ne_zero (Nat.ne_zero_of_lt hspare)
      obtain ⟨_ | ⟨x, rest⟩, place⟩ := c
      · cases h
      rw [stringTail, peek_bind] at h
      simp only [List.head?_cons] at h
      have hless : rest.length < spare := Nat.lt_of_succ_lt_succ hspare
      split_ifs at h with hquote hslash hcontrol
      · subst hquote
        rw [eat_bind, pure_eq_ok_iff] at h
        rw [h.2]
        exact skipString_quote
      · subst hslash
        rw [eat_bind, Cursor.eat_cons] at h
        obtain ⟨y, between, hescape, hrest⟩ := bind_eq_ok_iff.mp h
        obtain ⟨others, behind, htail, hdone⟩ := bind_eq_ok_iff.mp hrest
        obtain ⟨-, rfl⟩ := pure_eq_ok_iff.mp hdone
        cases escapes_of_escape hescape with
        | one hone =>
            have hshorter := length_lt_of_skipEscape hone
            rw [skipString_escape hone]
            exact ih htail (Nat.lt_trans hshorter hless)
        | @two rest' place' hfirst hsecond =>
            have hshorter := length_lt_of_skipEscape hfirst
            have hshortest := length_lt_of_skipEscape hsecond
            simp only [List.length_cons] at hshorter hshortest
            obtain ⟨spare, rfl⟩ := Nat.exists_eq_add_one_of_ne_zero (Nat.ne_zero_of_lt hless)
            rw [skipString_escape hfirst, skipString_escape hsecond]
            exact ih htail (by omega)
      · cases h
      · rw [eat_bind, Cursor.eat_cons] at h
        obtain ⟨others, behind, htail, hdone⟩ := bind_eq_ok_iff.mp h
        obtain ⟨-, rfl⟩ := pure_eq_ok_iff.mp hdone
        rw [skipString_plain hquote hslash hcontrol]
        exact ih htail hless

theorem skipString_of_stringBody {text : String} (h : stringBody c = .ok (text, c')) :
    skipString (c.rest.length + 1) c = .ok ((), c') := by
  unfold stringBody at h
  rw [remaining_bind] at h
  obtain ⟨cs, between, htail, hdone⟩ := bind_eq_ok_iff.mp h
  obtain ⟨-, rfl⟩ := pure_eq_ok_iff.mp hdone
  exact skipString_of_stringTail htail (Nat.lt_succ_self _)

theorem stringTail_of_skipString {fuel : Nat} (h : skipString fuel c = .ok (u, c')) :
    Grammar.StringTail c.rest c'.rest := by
  induction fuel generalizing c with
  | zero => cases h
  | succ fuel ih =>
      obtain ⟨_ | ⟨x, rest⟩, place⟩ := c
      · cases h
      rw [skipString, peek_bind] at h
      simp only [List.head?_cons] at h
      split_ifs at h with hquote hslash hcontrol
      · subst hquote
        rw [eat_eq_ok_iff.mp h]
        exact .close rest
      · subst hslash
        rw [eat_bind, Cursor.eat_cons] at h
        obtain ⟨_, between, hescape, hrest⟩ := bind_eq_ok_iff.mp h
        exact .escape (escape_of_skipEscape hescape) (ih hrest)
      · cases h
      · rw [eat_bind, Cursor.eat_cons] at h
        exact .plain hquote hslash (Nat.not_lt.mp hcontrol) (ih h)

/-! ## Plain values -/

def Frame.opener : Frame → Char
  | list => '['
  | object => '\x7b'

def Frame.closer : Frame → Char
  | list => ']'
  | object => '\x7d'

/-- What is passed at the start of a value: a plain value, or the opening of a list or an object. -/
inductive Starts (c c' : Cursor) : Option Frame → Prop
  | scalar {start : List Char} (hgap : Grammar.Blanks c.rest start)
      (h : Grammar.Scalar start c'.rest) : Starts c c' none
  | opened {frame : Frame} (hgap : Grammar.Blanks c.rest (frame.opener :: c'.rest)) :
      Starts c c' (some frame)

theorem starts_of_skipStart {opened : Option Frame} (h : skipStart c = .ok (opened, c')) :
    Starts c c' opened := by
  have hgap := c.blanks_skipSpaces
  unfold skipStart at h
  rw [peekPastSpaces_bind] at h
  generalize c.skipSpaces = start at h hgap
  obtain ⟨_ | ⟨x, rest⟩, place⟩ := start
  · cases h
  simp only [List.head?_cons] at h
  -- One case for each branch of the reader, in its order.
  split at h
  case h_1 | h_2 | h_3 =>
    rw [eat_bind, Cursor.eat_cons] at h
    obtain ⟨_, between, hword, hdone⟩ := bind_eq_ok_iff.mp h
    obtain ⟨rfl, rfl⟩ := pure_eq_ok_iff.mp hdone
    have hrest : rest = _ := word_eq_ok hword
    subst hrest
    refine .scalar hgap ?_
    first
      | exact .null c'.rest
      | exact .yes c'.rest
      | exact .no c'.rest
  case h_4 =>
    rw [eat_bind, Cursor.eat_cons] at h
    obtain ⟨_, between, hnumeral, hdone⟩ := bind_eq_ok_iff.mp h
    obtain ⟨rfl, rfl⟩ := pure_eq_ok_iff.mp hdone
    exact .scalar hgap (.negative (skipNumeral_eq_ok_iff.mp hnumeral).grammar)
  case h_5 =>
    rw [eat_bind, Cursor.eat_cons, remaining_bind] at h
    obtain ⟨_, between, hstring, hdone⟩ := bind_eq_ok_iff.mp h
    obtain ⟨rfl, rfl⟩ := pure_eq_ok_iff.mp hdone
    exact .scalar hgap (.string (stringTail_of_skipString hstring))
  case h_6 =>
    obtain ⟨rfl, rfl⟩ := pure_eq_ok_iff.mp h
    exact .opened hgap
  case h_7 =>
    obtain ⟨rfl, rfl⟩ := pure_eq_ok_iff.mp h
    exact .opened hgap
  case h_8 =>
    split_ifs at h
    · obtain ⟨_, between, hnumeral, hdone⟩ := bind_eq_ok_iff.mp h
      obtain ⟨rfl, rfl⟩ := pure_eq_ok_iff.mp hdone
      exact .scalar hgap (.positive (skipNumeral_eq_ok_iff.mp hnumeral).grammar)
    · cases h

/-! ## How a value begins -/

def Bare : Json → Prop
  | .null | .bool _ | .number _ => True
  | _ => False

inductive Begins (list object : Reader Json) (c c' : Cursor) (v : Json) : Prop
  | bare {x : Char} (hhead : c.skipSpaces.rest.head? = some x) (hx : x ∉ ['"', '[', '\x7b'])
      (hv : Bare v) (h : skipStart c = .ok (none, c'))
  | string {rest : List Char} {place : Position} {text : String}
      (hstart : c.skipSpaces = ⟨'"' :: rest, place⟩) (hv : v = .string text)
      (h : stringBody ⟨rest, place.after '"'⟩ = .ok (text, c'))
  | list {rest : List Char} {place : Position} (hstart : c.skipSpaces = ⟨'[' :: rest, place⟩)
      (h : list ⟨'[' :: rest, place⟩ = .ok (v, c'))
  | object {rest : List Char} {place : Position} (hstart : c.skipSpaces = ⟨'\x7b' :: rest, place⟩)
      (h : object ⟨'\x7b' :: rest, place⟩ = .ok (v, c'))

/-- A value that is read in one step is passed in one step. -/
theorem Begins.of_step {α : Type} {read : Reader α} {pass : Reader Unit} {make : α → Json}
    {list object : Reader Json} {here : Cursor} {v : Json} {x : Char}
    (h : (read >>= fun a => pure (make a)) here = .ok (v, c'))
    (hhead : c.skipSpaces.rest.head? = some x) (hx : x ∉ ['"', '[', '\x7b'])
    (hbare : ∀ a, Bare (make a)) (hskip : skipStart c = (pass >>= fun _ => pure none) here)
    (hpass : ∀ a c', read here = .ok (a, c') → pass here = .ok ((), c')) :
    Begins list object c c' v := by
  obtain ⟨a, between, hread, hdone⟩ := bind_eq_ok_iff.mp h
  obtain ⟨rfl, rfl⟩ := pure_eq_ok_iff.mp hdone
  refine .bare hhead hx (hbare a) ?_
  rw [hskip, bind_of_eq_ok (hpass a c' hread)]
  rfl

theorem begins_of_valueWith {list object : Reader Json} {v : Json}
    (h : valueWith list object c = .ok (v, c')) : Begins list object c c' v := by
  unfold valueWith at h
  rw [peekPastSpaces_bind] at h
  have hskip : skipStart c = skipStart c := rfl
  conv_rhs at hskip => unfold skipStart
  rw [peekPastSpaces_bind] at hskip
  generalize hstart : c.skipSpaces = start at h hskip
  obtain ⟨_ | ⟨x, rest⟩, place⟩ := start
  · cases h
  have hhead : c.skipSpaces.rest.head? = some x := by rw [hstart]; rfl
  have hnumeral (negative : Bool) (here : Cursor) : ∀ x c', numeral negative here = .ok (x, c') →
      skipNumeral here = .ok ((), c') :=
    fun _ _ h => skipNumeral_eq_ok_iff.mpr (numbered_of_numeral h)
  simp only [List.head?_cons] at h hskip
  split at h
  case h_1 | h_2 | h_3 =>
    rw [eat_bind, Cursor.eat_cons] at h
    exact .of_step h hhead (by decide) (fun _ => trivial) hskip (fun _ _ hword => hword)
  case h_4 =>
    rw [eat_bind, Cursor.eat_cons] at h
    exact .of_step h hhead (by decide) (fun _ => trivial) hskip (hnumeral true _)
  case h_5 =>
    rw [eat_bind, Cursor.eat_cons] at h
    obtain ⟨text, between, hbody, hdone⟩ := bind_eq_ok_iff.mp h
    obtain ⟨rfl, rfl⟩ := pure_eq_ok_iff.mp hdone
    exact .string hstart rfl hbody
  case h_6 => exact .list hstart h
  case h_7 => exact .object hstart h
  case h_8 hquote hlist hobject =>
    split_ifs at h with hdigit
    · simp only [hdigit, if_true] at hskip
      exact .of_step h hhead (by simp_all) (fun _ => trivial) hskip (hnumeral false _)
    · cases h

theorem skipStart_of_stringBody {rest : List Char} {place : Position} {text : String}
    (hstart : c.skipSpaces = ⟨'"' :: rest, place⟩)
    (h : stringBody ⟨rest, place.after '"'⟩ = .ok (text, c')) : skipStart c = .ok (none, c') := by
  unfold skipStart
  rw [peekPastSpaces_bind, hstart]
  change (skipString (rest.length + 1) >>= fun _ => pure none) ⟨rest, place.after '"'⟩ = _
  exact bind_of_eq_ok (skipString_of_stringBody h)

end Reader

end StakingGateway.Json
