import Mathlib.Tactic.SplitIfs
import StakingGateway.Bytes.Hex
import StakingGateway.Text.Digits

/-!
# Patterns of texts

Published schemas constrain texts by patterns. A written pattern is read character by character;
what it means is a relation between a pattern and a stretch of a text, which also sees what stands
before and behind the stretch, for the anchors. A pattern may be found anywhere in a text, so it is
the anchors alone that make it speak of the whole text. Written forms outside of this part of the
language of patterns have no meaning here.
-/

namespace StakingGateway

inductive Pattern where
  /-- The place before the first character. -/
  | start
  /-- The place behind the last character. -/
  | stop
  /-- A character from one of the ranges. -/
  | oneOf (ranges : List (Char × Char))
  | empty
  | both (first second : Pattern)
  | optional (p : Pattern)
  | plus (p : Pattern)
  | times (count : Nat) (p : Pattern)
deriving DecidableEq

namespace Pattern

/-! ## Reading -/

/-- What the next character of a written pattern belongs to. -/
inductive Mode where
  | plain
  | escaped
  /-- A class: its ranges so far, the character before, and whether a dash stands behind that. -/
  | brackets (ranges : List (Char × Char)) (last : Option Char) (dash : Bool)
  | count (number : Option Nat)

structure Draft where
  /-- The parts of the innermost open group, the latest first. -/
  items : List Pattern
  outer : List (List Pattern)
  mode : Mode

def sequence (items : List Pattern) : Pattern :=
  items.foldl (fun rest item => both item rest) empty

/-- Can a quantifier stand behind the pattern? -/
def isAtom : Pattern → Bool
  | oneOf _ | empty | both .. => true
  | _ => false

namespace Draft

def push (d : Draft) (p : Pattern) : Draft :=
  { d with items := p :: d.items, mode := .plain }

def quantify (d : Draft) (f : Pattern → Pattern) : Option Draft :=
  match d.items with
  | p :: rest => if p.isAtom then some { d with items := f p :: rest, mode := .plain } else none
  | [] => none

def close (d : Draft) : Option Draft :=
  match d.outer with
  | items :: outer => some ⟨sequence d.items :: items, outer, .plain⟩
  | [] => none

def plain (d : Draft) (c : Char) : Option Draft :=
  if c = '^' then some (d.push start)
  else if c = '$' then some (d.push stop)
  else if c = '[' then some { d with mode := .brackets [] none false }
  else if c = '(' then some ⟨[], d.items :: d.outer, .plain⟩
  else if c = ')' then d.close
  else if c = '?' then d.quantify optional
  else if c = '+' then d.quantify plus
  else if c = '\x7b' then some { d with mode := .count none }
  else if c = '\\' then some { d with mode := .escaped }
  else if ['*', '.', '|', ']', '\x7d'].contains c then none
  else some (d.push (oneOf [(c, c)]))

def escapable : List Char :=
  ['^', '$', '\\', '.', '*', '+', '?', '(', ')', '[', ']', '\x7b', '\x7d', '|', '/']

def brackets (d : Draft) (ranges : List (Char × Char)) (last : Option Char) (dash : Bool)
    (c : Char) : Option Draft :=
  if ['^', '\\', '['].contains c then none
  else
    match last, dash with
    | none, _ =>
      if c = ']' then some (d.push (oneOf ranges))
      else some { d with mode := .brackets ranges (some c) false }
    | some first, true =>
      if c = ']' || c < first then none
      else some { d with mode := .brackets (ranges ++ [(first, c)]) none false }
    | some other, false =>
      if c = ']' then some (d.push (oneOf (ranges ++ [(other, other)])))
      else if c = '-' then some { d with mode := .brackets ranges (some other) true }
      else some { d with mode := .brackets (ranges ++ [(other, other)]) (some c) false }

def step (d : Draft) (c : Char) : Option Draft :=
  match d.mode with
  | .plain => d.plain c
  | .escaped => if escapable.contains c then some (d.push (oneOf [(c, c)])) else none
  | .brackets ranges last dash => d.brackets ranges last dash c
  | .count number =>
    if c.isDigit then
      some { d with mode := .count (some (number.getD 0 * 10 + (c.toNat - '0'.toNat))) }
    else if c = '\x7d' then number.bind fun n => d.quantify (times n)
    else none

end Draft

/-- The pattern that is written, if every group and class is closed. -/
def ofText? (written : String) : Option Pattern := do
  let d ← written.toList.foldlM Draft.step ⟨[], [], .plain⟩
  match d.outer, d.mode with
  | [], .plain => some (sequence d.items)
  | _, _ => none

/-! ## Meaning -/

/-- The stretch is a row of so many stretches with the property, each seen between the others. -/
def Repeats (part : List Char → List Char → List Char → Prop) :
    Nat → List Char → List Char → List Char → Prop
  | 0, _, inside, _ => inside = []
  | count + 1, before, inside, after => ∃ first rest, inside = first ++ rest ∧
      part before first (rest ++ after) ∧ Repeats part count (before ++ first) rest after

/-- The pattern stands for the stretch between the rest of the text. -/
def Spans : Pattern → List Char → List Char → List Char → Prop
  | start, before, inside, _ => before = [] ∧ inside = []
  | stop, _, inside, after => after = [] ∧ inside = []
  | oneOf ranges, _, inside, _ => ∃ c, inside = [c] ∧ ∃ range ∈ ranges, range.1 ≤ c ∧ c ≤ range.2
  | empty, _, inside, _ => inside = []
  | both first second, before, inside, after => ∃ left right, inside = left ++ right ∧
      first.Spans before left (right ++ after) ∧ second.Spans (before ++ left) right after
  | optional p, before, inside, after => inside = [] ∨ p.Spans before inside after
  | plus p, before, inside, after => ∃ count, Repeats p.Spans (count + 1) before inside after
  | times count p, before, inside, after => Repeats p.Spans count before inside after

def Found (p : Pattern) (text : List Char) : Prop :=
  ∃ before inside after, text = before ++ (inside ++ after) ∧ p.Spans before inside after

def Finds (written text : String) : Prop :=
  ∃ p, ofText? written = some p ∧ p.Found text.toList

variable {p q : Pattern} {before inside after text : List Char} {ranges : List (Char × Char)}

theorem finds_iff {written : String} (h : ofText? written = some p) (text : String) :
    Finds written text ↔ p.Found text.toList := by
  constructor
  · rintro ⟨other, hother, hfound⟩
    rwa [Option.some.inj (h.symm.trans hother)]
  · exact fun hfound => ⟨p, h, hfound⟩

theorem found_start :
    (both start p).Found text ↔ ∃ inside after, text = inside ++ after ∧ p.Spans [] inside after := by
  constructor
  · rintro ⟨_, _, after, rfl, _, inside, rfl, ⟨rfl, rfl⟩, h⟩
    exact ⟨inside, after, rfl, h⟩
  · rintro ⟨inside, after, rfl, h⟩
    exact ⟨[], inside, after, rfl, [], inside, rfl, ⟨rfl, rfl⟩, h⟩

theorem spans_before_stop : (both p (both stop empty)).Spans before inside after ↔
    after = [] ∧ p.Spans before inside [] := by
  constructor
  · rintro ⟨left, _, rfl, hp, _, _, rfl, ⟨hafter, rfl⟩, rfl⟩
    obtain rfl : after = [] := by simpa using hafter
    exact ⟨rfl, by simpa using hp⟩
  · rintro ⟨rfl, hp⟩
    exact ⟨inside, [], by simp, by simpa using hp, [], [], rfl, ⟨rfl, rfl⟩, rfl⟩

/-- Between the anchors the pattern speaks of the whole text. -/
theorem found_anchored : (both start (both p (both stop empty))).Found text ↔ p.Spans [] text [] := by
  rw [found_start]
  simp only [spans_before_stop]
  constructor
  · rintro ⟨inside, after, rfl, rfl, h⟩
    rwa [List.append_nil]
  · exact fun h => ⟨text, [], (List.append_nil text).symm, rfl, h⟩

def Within (ranges : List (Char × Char)) (c : Char) : Prop :=
  ∃ range ∈ ranges, range.1 ≤ c ∧ c ≤ range.2

theorem spans_single {c : Char} :
    (oneOf [(c, c)]).Spans before inside after ↔ inside = [c] := by
  constructor
  · rintro ⟨d, rfl, range, hrange, hle, hge⟩
    obtain rfl := List.mem_singleton.mp hrange
    have hd : d = c := Char.le_antisymm hge hle
    rw [hd]
  · rintro rfl
    exact ⟨c, rfl, (c, c), by simp, Char.le_refl c, Char.le_refl c⟩

theorem repeats_oneOf {count : Nat} : Repeats (oneOf ranges).Spans count before inside after ↔
    inside.length = count ∧ ∀ c ∈ inside, Within ranges c := by
  induction count generalizing before inside with
  | zero =>
      rw [Repeats, List.length_eq_zero_iff]
      constructor
      · rintro rfl
        simp
      · exact And.left
  | succ count ih =>
      rw [Repeats]
      constructor
      · rintro ⟨_, rest, rfl, ⟨c, rfl, hc⟩, hrest⟩
        obtain ⟨hlength, hall⟩ := ih.mp hrest
        exact ⟨by simp [hlength], List.forall_mem_cons.mpr ⟨hc, hall⟩⟩
      · rintro ⟨hlength, hall⟩
        obtain ⟨c, rest, rfl⟩ := List.exists_cons_of_length_eq_add_one hlength
        obtain ⟨hc, hrest⟩ := List.forall_mem_cons.mp hall
        exact ⟨[c], rest, rfl, ⟨c, rfl, hc⟩, ih.mpr ⟨Nat.succ.inj hlength, hrest⟩⟩

theorem spans_plus_oneOf : (plus (oneOf ranges)).Spans before inside after ↔
    inside ≠ [] ∧ ∀ c ∈ inside, Within ranges c := by
  rw [Spans]
  simp only [repeats_oneOf]
  constructor
  · rintro ⟨count, hlength, hall⟩
    exact ⟨List.ne_nil_of_length_eq_add_one hlength, hall⟩
  · rintro ⟨hne, hall⟩
    obtain ⟨count, hlength⟩ := Nat.exists_eq_succ_of_ne_zero (mt List.length_eq_zero_iff.mp hne)
    exact ⟨count, hlength, hall⟩

theorem spans_both_single {c : Char} : (both (oneOf [(c, c)]) p).Spans before inside after ↔
    ∃ rest, inside = c :: rest ∧ p.Spans (before ++ [c]) rest after := by
  rw [Spans]
  simp only [spans_single]
  constructor
  · rintro ⟨_, rest, rfl, rfl, h⟩
    exact ⟨rest, rfl, h⟩
  · rintro ⟨rest, rfl, h⟩
    exact ⟨[c], rest, rfl, rfl, h⟩

theorem spans_both_empty : (both p empty).Spans before inside after ↔
    p.Spans before inside after := by
  constructor
  · rintro ⟨left, right, rfl, hp, rfl⟩
    simpa using hp
  · intro h
    exact ⟨inside, [], by simp, by simpa using h, rfl⟩

/-! ## The published patterns -/

theorem within_digit {c : Char} : Within [('0', '9')] c ↔ c.isDigit = true := by
  simp [Within, Char.isDigit, Char.le_def]

theorem within_hexDigit {c : Char} : Within [('0', '9'), ('a', 'f'), ('A', 'F')] c ↔
    Bytes.isHexDigit c = true := by
  unfold Bytes.isHexDigit Bytes.hexValue? Within
  split_ifs <;> simp_all

theorem spans_digits : (plus (oneOf [('0', '9')])).Spans before inside after ↔
    inside ≠ [] ∧ Text.areDigits inside = true := by
  rw [spans_plus_oneOf, Text.areDigits, List.all_eq_true]
  simp only [within_digit]

theorem finds_wei (text : String) : Finds "^[0-9]+$" text ↔
    text.toList ≠ [] ∧ Text.areDigits text.toList = true := by
  have hread : ofText? "^[0-9]+$" =
      some (both start (both (plus (oneOf [('0', '9')])) (both stop empty))) := by decide
  rw [finds_iff hread, found_anchored, spans_digits]

theorem finds_decimal (text : String) : Finds "^[0-9]+(\\.[0-9]+)?$" text ↔
    ∃ whole fraction, whole ≠ [] ∧ Text.areDigits whole = true ∧
      (text.toList = whole ∨ text.toList = whole ++ '.' :: fraction ∧ fraction ≠ [] ∧
        Text.areDigits fraction = true) := by
  have hread : ofText? "^[0-9]+(\\.[0-9]+)?$" =
      some (both start (both (plus (oneOf [('0', '9')]))
        (both (optional (both (oneOf [('.', '.')]) (both (plus (oneOf [('0', '9')])) empty)))
          (both stop empty)))) := by decide
  rw [finds_iff hread, found_start]
  constructor
  · rintro ⟨_, _, htext, whole, behind, rfl, hwhole, hbehind⟩
    obtain ⟨rfl, hoptional⟩ := spans_before_stop.mp hbehind
    obtain ⟨hne, hdigits⟩ := spans_digits.mp hwhole
    rw [List.append_nil] at htext
    refine ⟨whole, behind.tail, hne, hdigits, ?_⟩
    rcases hoptional with rfl | hgroup
    · exact Or.inl (by simpa using htext)
    · obtain ⟨fraction, rfl, hfraction⟩ := spans_both_single.mp hgroup
      exact Or.inr ⟨htext, spans_digits.mp (spans_both_empty.mp hfraction)⟩
  · rintro ⟨whole, fraction, hne, hdigits, htext | ⟨htext, hfraction⟩⟩
    · refine ⟨whole, [], by simpa using htext, whole, [], by simp, spans_digits.mpr ⟨hne, hdigits⟩, ?_⟩
      exact spans_before_stop.mpr ⟨rfl, Or.inl rfl⟩
    · refine ⟨whole ++ '.' :: fraction, [], by simpa using htext, whole, '.' :: fraction, rfl,
        spans_digits.mpr ⟨hne, hdigits⟩, spans_before_stop.mpr ⟨rfl, Or.inr ?_⟩⟩
      exact spans_both_single.mpr
        ⟨fraction, rfl, spans_both_empty.mpr (spans_digits.mpr hfraction)⟩

theorem finds_address (text : String) : Finds "^0x[0-9a-fA-F]\x7b40\x7d$" text ↔
    ∃ digits, text.toList = '0' :: 'x' :: digits ∧ digits.length = 40 ∧
      digits.all Bytes.isHexDigit = true := by
  have hread : ofText? "^0x[0-9a-fA-F]\x7b40\x7d$" =
      some (both start (both (oneOf [('0', '0')]) (both (oneOf [('x', 'x')])
        (both (times 40 (oneOf [('0', '9'), ('a', 'f'), ('A', 'F')])) (both stop empty))))) := by
    decide
  rw [finds_iff hread, found_start]
  simp only [spans_both_single, spans_before_stop, List.all_eq_true, ← within_hexDigit]
  constructor
  · rintro ⟨_, _, htext, _, rfl, digits, rfl, rfl, hdigits⟩
    exact ⟨digits, by simpa using htext, repeats_oneOf.mp hdigits⟩
  · rintro ⟨digits, htext, hdigits⟩
    exact ⟨_, [], by simpa using htext, _, rfl, digits, rfl, rfl, repeats_oneOf.mpr hdigits⟩

end Pattern

end StakingGateway
