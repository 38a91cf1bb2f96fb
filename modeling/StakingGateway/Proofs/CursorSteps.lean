import StakingGateway.Json.Parser
import StakingGateway.Proofs.JsonGrammar
import StakingGateway.Proofs.Records

/-!
# What a step of a reader takes

A reader that succeeds has passed some part of the text. The building blocks are told apart here, as
a place before and a place behind: what each of them needs to find in the text, and where it stops.
-/

namespace StakingGateway.Json

/-! ## Places in a text -/

namespace Cursor

variable {c : Cursor} {p : Char → Bool} {rest : List Char} {x : Char} {place : Position}

@[simp]
theorem eat_cons : eat ⟨x :: rest, place⟩ = ⟨rest, place.after x⟩ := rfl

theorem span_go_nil : span.go p place [] = ([], ⟨[], place⟩) := rfl

theorem span_go_cons : span.go p place (x :: rest) =
    if p x then (x :: (span.go p (place.after x) rest).1, (span.go p (place.after x) rest).2)
    else ([], ⟨x :: rest, place⟩) := rfl

theorem span_append (p : Char → Bool) (c : Cursor) :
    (c.span p).1 ++ (c.span p).2.rest = c.rest ∧ (c.span p).1.all p ∧
      ∀ x ∈ (c.span p).2.rest.head?, p x = false := by
  obtain ⟨text, place⟩ := c
  unfold span
  induction text generalizing place with
  | nil => simp [span_go_nil]
  | cons x rest ih =>
      obtain ⟨happend, hall, hhead⟩ := ih (place.after x)
      rw [span_go_cons]
      split_ifs with hx
      · exact ⟨congrArg (x :: ·) happend, by simpa [hx] using hall, hhead⟩
      · exact ⟨rfl, rfl, by simpa using hx⟩

theorem span_eq_self (h : ∀ x ∈ c.rest.head?, p x = false) : (c.span p).2 = c := by
  obtain ⟨_ | ⟨x, rest⟩, place⟩ := c
  · rfl
  · have hx : p x = false := h x rfl
    unfold span
    rw [span_go_cons, if_neg (by simp [hx])]

theorem blanks_skipSpaces (c : Cursor) : Grammar.Blanks c.rest c.skipSpaces.rest := by
  obtain ⟨happend, hall, -⟩ := span_append isSpace c
  unfold skipSpaces
  rw [← happend]
  generalize (c.span isSpace).1 = blanks at hall
  induction blanks with
  | nil => exact .none _
  | cons b blanks ih =>
      rw [List.all_cons, Bool.and_eq_true] at hall
      exact .cons (by simpa [isSpace, or_assoc] using hall.1) (ih hall.2)

theorem blanks_of_skipSpaces (h : c.skipSpaces = ⟨rest, place⟩) : Grammar.Blanks c.rest rest := by
  have hblanks := c.blanks_skipSpaces
  rwa [h] at hblanks

theorem head_skipSpaces (c : Cursor) : ∀ x ∈ c.skipSpaces.rest.head?, isSpace x = false :=
  (span_append isSpace c).2.2

@[simp]
theorem skipSpaces_skipSpaces (c : Cursor) : c.skipSpaces.skipSpaces = c.skipSpaces :=
  span_eq_self c.head_skipSpaces

theorem digits_span (h : (c.span Char.isDigit).1 ≠ []) :
    Grammar.Digits c.rest (c.span Char.isDigit).2.rest := by
  obtain ⟨happend, hall, -⟩ := span_append Char.isDigit c
  rw [← happend]
  generalize (c.span Char.isDigit).1 = digits at h hall
  induction digits with
  | nil => exact absurd rfl h
  | cons d digits ih =>
      rw [List.all_cons, Bool.and_eq_true] at hall
      cases digits with
      | nil => exact .last hall.1 _
      | cons e digits => exact .cons hall.1 (ih (List.cons_ne_nil _ _) hall.2)

end Cursor

/-! ## Steps -/

namespace Reader

variable {α β : Type} {r : Reader α} {f : α → Reader β} {c c' : Cursor} {x : α} {y : β}

theorem bind_eq_ok_iff : (r >>= f) c = .ok (y, c') ↔
    ∃ x between, r c = .ok (x, between) ∧ f x between = .ok (y, c') := by
  change (r c >>= fun found => f found.1 found.2) = _ ↔ _
  rw [Json.bind_eq_ok, Prod.exists]

theorem bind_of_eq_ok (h : r c = .ok (x, c')) : (r >>= f) c = f x c' := by
  change (r c >>= fun found => f found.1 found.2) = _
  rw [h]
  rfl

theorem bind_congr_apply {s : Reader α} (h : r c = s c') : (r >>= f) c = (s >>= f) c' := by
  change (r c >>= fun found => f found.1 found.2) = (s c' >>= fun found => f found.1 found.2)
  rw [h]

theorem bind_congr_right {g : α → Reader β} (h : ∀ x, f x = g x) : (r >>= f) c = (r >>= g) c := by
  rw [funext h]

@[simp]
theorem pure_eq_ok_iff {z : α} : (pure x : Reader α) c = .ok (z, c') ↔ z = x ∧ c' = c := by
  change Except.ok (x, c) = _ ↔ _
  simp [eq_comm]

@[simp]
theorem fail_ne_ok {fault : Fault} : fail fault c ≠ .ok (x, c') := fun h => by cases h

@[simp]
theorem failAhead_ne_ok {fault : Fault} : failAhead fault c ≠ .ok (x, c') := fun h => by cases h

theorem bind_pure_eq_ok_iff {close : Reader Unit} {z : β} :
    (close >>= fun _ => pure y) c = .ok (z, c') ↔ close c = .ok ((), c') ∧ z = y := by
  rw [bind_eq_ok_iff]
  constructor
  · rintro ⟨_, between, hclose, hdone⟩
    obtain ⟨rfl, rfl⟩ := pure_eq_ok_iff.mp hdone
    exact ⟨hclose, rfl⟩
  · rintro ⟨hclose, rfl⟩
    exact ⟨(), c', hclose, rfl⟩

theorem peek_bind {f : Option Char → Reader β} : (peek >>= f) c = f c.rest.head? c := rfl

theorem eat_bind {f : Unit → Reader β} : (eat >>= f) c = f () c.eat := rfl

theorem peekPastSpaces_bind {f : Option Char → Reader β} :
    (peekPastSpaces >>= f) c = f c.skipSpaces.rest.head? c.skipSpaces := rfl

theorem peekPastSpaces_bind_skipSpaces {f : Option Char → Reader β} :
    (peekPastSpaces >>= f) c.skipSpaces = (peekPastSpaces >>= f) c := by
  rw [peekPastSpaces_bind, peekPastSpaces_bind, Cursor.skipSpaces_skipSpaces]

theorem span_bind {p : Char → Bool} {f : List Char → Reader β} :
    (span p >>= f) c = f (c.span p).1 (c.span p).2 := rfl

theorem remaining_bind {f : Nat → Reader β} : (remaining >>= f) c = f c.rest.length c := rfl

theorem get_bind {f : Cursor → Reader β} : ((get : Reader Cursor) >>= f) c = f c c := rfl

theorem pure_bind_apply {f : α → Reader β} : ((pure x : Reader α) >>= f) c = f x c := rfl

theorem eat_eq_ok_iff {u : Unit} : eat c = .ok (u, c') ↔ c' = c.eat := by
  simp [eat, eq_comm]

theorem word_eq_ok {cs : List Char} {u : Unit} (h : word cs c = .ok (u, c')) :
    c.rest = cs ++ c'.rest := by
  induction cs generalizing c with
  | nil =>
      obtain ⟨-, rfl⟩ := pure_eq_ok_iff.mp h
      rfl
  | cons wanted cs ih =>
      obtain ⟨_ | ⟨x, rest⟩, place⟩ := c
      · cases h
      · simp only [word, peek_bind, List.head?_cons] at h
        split_ifs at h with hx
        · rw [hx, List.cons_append, ← ih h]
          rfl
        · cases h

end Reader

end StakingGateway.Json
