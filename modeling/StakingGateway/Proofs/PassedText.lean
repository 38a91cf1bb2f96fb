import StakingGateway.Proofs.PassedScalars

/-!
# Text that is passed over

Passing over a value finds one in the sense of the grammar. What is still owed inside open lists and
objects is `Closes`; behind each value it says what the rest of the text has to bring. And whatever
is read as a value is passed over as well, up to the same place.
-/

namespace StakingGateway.Json

namespace Grammar

variable {before between after : List Char}

theorem Blanks.trans (h : Blanks before between) (hrest : Blanks between after) :
    Blanks before after := by
  induction h with
  | none => exact hrest
  | cons hc _ ih => exact .cons hc (ih hrest)

theorem Items.of_blanks (hgap : Blanks before between) (h : Items between after) :
    Items before after := by
  cases h with
  | last hinner hvalue hend => exact .last (hgap.trans hinner) hvalue hend
  | more hinner hvalue hcomma hrest => exact .more (hgap.trans hinner) hvalue hcomma hrest

theorem Name.of_blanks (hgap : Blanks before between) (h : Name between after) :
    Name before after := by
  obtain ⟨hinner, hname, hcolon⟩ := h
  exact .quoted (hgap.trans hinner) hname hcolon

theorem Fields.of_blanks (hgap : Blanks before between) (h : Fields between after) :
    Fields before after := by
  cases h with
  | last hname hinner hvalue hend => exact .last (hname.of_blanks hgap) hinner hvalue hend
  | more hname hinner hvalue hcomma hrest =>
      exact .more (hname.of_blanks hgap) hinner hvalue hcomma hrest

end Grammar

namespace Reader

open Grammar

/-! ## Open frames -/

def Entries : Frame → List Char → List Char → Prop
  | .list => Items
  | .object => Fields

theorem Entries.of_blanks {frame : Frame} {before between after : List Char}
    (hgap : Blanks before between) (h : Entries frame between after) :
    Entries frame before after := by
  cases frame with
  | list => exact Items.of_blanks hgap h
  | object => exact Fields.of_blanks hgap h

/-- What may follow a value in a frame: its end, or a comma and further entries. -/
inductive Rest (frame : Frame) : List Char → List Char → Prop
  | close {before after : List Char} (hend : Blanks before (frame.closer :: after)) :
      Rest frame before after
  | more {before rest after : List Char} (hcomma : Blanks before (',' :: rest))
      (hentries : Entries frame rest after) : Rest frame before after

/-- What is left of a list or an object, behind its opening or behind an entry. -/
inductive Inside (frame : Frame) : Bool → List Char → List Char → Prop
  | close {first : Bool} {before after : List Char} (hend : Blanks before (frame.closer :: after)) :
      Inside frame first before after
  | first {before after : List Char} (hentries : Entries frame before after) :
      Inside frame true before after
  | more {before rest after : List Char} (hcomma : Blanks before (',' :: rest))
      (hentries : Entries frame rest after) : Inside frame false before after

theorem Inside.rest {before after : List Char} (h : Inside frame false before after) :
    Rest frame before after := by
  cases h with
  | close hend => exact .close hend
  | more hcomma hentries => exact .more hcomma hentries

theorem Inside.value {before after : List Char} (h : Inside frame true before after) :
    Value (frame.opener :: before) after := by
  cases h with
  | close hend =>
      cases frame with
      | list => exact .emptyList hend
      | object => exact .emptyObject hend
  | first hentries =>
      cases frame with
      | list => exact .list hentries
      | object => exact .object hentries

/-- What is owed behind a value inside some frames, the innermost one first. -/
inductive Closes : List Frame → List Char → List Char → Prop
  | done (after : List Char) : Closes [] after after
  | frame {frame : Frame} {outer : List Frame} {before between after : List Char}
      (hrest : Rest frame before between) (houter : Closes outer between after) :
      Closes (frame :: outer) before after

variable {α : Type} {c c' : Cursor} {u : Unit} {frame : Frame} {frames outer : List Frame}
  {afterValue : Bool} {fuel : Nat} {x : Char} {rest : List Char} {place : Position}

theorem isCloser_iff : ((x = ']' && frame = .list) || (x = '\x7d' && frame = .object)) = true ↔
    x = frame.closer := by
  cases frame <;> simp [Frame.closer]

theorem closeFrames_cons_eq_ok (h : closeFrames afterValue (frame :: outer) c = .ok (frames, c')) :
    ∃ x rest place, c.skipSpaces = ⟨x :: rest, place⟩ ∧
      ((x = frame.closer ∧ closeFrames true outer ⟨rest, place.after x⟩ = .ok (frames, c')) ∨
        (afterValue = true ∧ x = ',' ∧ frames = frame :: outer ∧ c' = ⟨rest, place.after x⟩) ∨
        (afterValue = false ∧ frames = frame :: outer ∧ c' = c.skipSpaces)) := by
  unfold closeFrames at h
  rw [peekPastSpaces_bind] at h
  generalize c.skipSpaces = start at h ⊢
  obtain ⟨_ | ⟨x, rest⟩, place⟩ := start
  · cases h
  refine ⟨x, rest, place, rfl, ?_⟩
  simp only [List.head?_cons] at h
  split_ifs at h with hcomma hclose hafter
  · rw [eat_bind, Cursor.eat_cons, pure_eq_ok_iff] at h
    rw [Bool.and_eq_true, decide_eq_true_eq] at hcomma
    exact Or.inr (Or.inl ⟨hcomma.2, hcomma.1, h⟩)
  · exact Or.inl ⟨isCloser_iff.mp hclose, h⟩
  · cases h
  · obtain ⟨rfl, rfl⟩ := pure_eq_ok_iff.mp h
    exact Or.inr (Or.inr ⟨by simpa using hafter, rfl, rfl⟩)

def enter (frame : Frame) (outer : List Frame) (fuel : Nat) : Reader Unit :=
  match frame with
  | .list => skipWithin fuel (.list :: outer)
  | .object => do
    skipName
    skipWithin fuel (.object :: outer)

/-- Closes what ends here and goes on with what stays open. -/
def goOn (afterValue : Bool) (frames : List Frame) (fuel : Nat) : Reader Unit := do
  match ← closeFrames afterValue frames with
  | [] => return ()
  | frame :: outer => enter frame outer fuel

theorem skipWithin_of_skipStart {opened : Option Frame} (h : skipStart c = .ok (opened, c')) :
    skipWithin (fuel + 1) frames c = goOn opened.isNone (opened.toList ++ frames) fuel c' := by
  rw [skipWithin, bind_of_eq_ok h]
  cases opened <;>
  · simp only
    rw [pure_bind_apply]
    refine bind_congr_right fun left => ?_
    rcases left with _ | ⟨_ | _, outer⟩ <;> rfl

theorem goOn_close (hstart : c.skipSpaces = ⟨frame.closer :: rest, place⟩) :
    goOn afterValue (frame :: outer) fuel c =
      goOn true outer fuel ⟨rest, place.after frame.closer⟩ := by
  refine bind_congr_apply ?_
  conv_lhs => unfold closeFrames
  rw [peekPastSpaces_bind, hstart]
  cases frame <;> cases afterValue <;> rfl

theorem goOn_comma (hstart : c.skipSpaces = ⟨',' :: rest, place⟩) :
    goOn true (frame :: outer) fuel c = enter frame outer fuel ⟨rest, place.after ','⟩ := by
  have hopen : closeFrames true (frame :: outer) c =
      .ok (frame :: outer, ⟨rest, place.after ','⟩) := by
    unfold closeFrames
    rw [peekPastSpaces_bind, hstart]
    rfl
  exact bind_of_eq_ok hopen

theorem goOn_first (hstart : c.skipSpaces = ⟨x :: rest, place⟩) (hx : x ≠ frame.closer) :
    goOn false (frame :: outer) fuel c = enter frame outer fuel c.skipSpaces := by
  have hopen : closeFrames false (frame :: outer) c = .ok (frame :: outer, c.skipSpaces) := by
    unfold closeFrames
    rw [peekPastSpaces_bind, hstart]
    simp only [List.head?_cons, Bool.and_false, Bool.false_eq_true, if_false]
    rw [if_neg (mt isCloser_iff.mp hx)]
    rfl
  exact bind_of_eq_ok hopen

/-! ## What is passed is a value -/

theorem colon_eq_ok (h : colon c = .ok (u, c')) :
    ∃ place, c.skipSpaces = ⟨':' :: c'.rest, place⟩ ∧ c' = c.skipSpaces.eat := by
  unfold colon at h
  rw [peekPastSpaces_bind] at h
  generalize c.skipSpaces = start at h ⊢
  obtain ⟨_ | ⟨x, rest⟩, place⟩ := start
  · cases h
  simp only [List.head?_cons] at h
  split_ifs at h with hx
  · subst hx
    rw [eat_eq_ok_iff.mp h]
    exact ⟨place, rfl, rfl⟩
  · cases h

theorem name_of_skipName (h : skipName c = .ok (u, c')) : Name c.rest c'.rest := by
  have hgap := c.blanks_skipSpaces
  unfold skipName at h
  rw [peekPastSpaces_bind] at h
  generalize c.skipSpaces = start at h hgap
  obtain ⟨_ | ⟨x, rest⟩, place⟩ := start
  · obtain ⟨_, _, hfail, -⟩ := bind_eq_ok_iff.mp h
    cases hfail
  simp only [List.head?_cons] at h
  split_ifs at h with hx
  · subst hx
    rw [eat_bind, Cursor.eat_cons, remaining_bind] at h
    obtain ⟨_, between, hstring, hcolon⟩ := bind_eq_ok_iff.mp h
    obtain ⟨here, hstart, -⟩ := colon_eq_ok hcolon
    have hblank := Cursor.blanks_of_skipSpaces hstart
    exact .quoted hgap (stringTail_of_skipString hstring) hblank
  · obtain ⟨_, _, hfail, -⟩ := bind_eq_ok_iff.mp h
    cases hfail

theorem items_of_value {before start stop after : List Char} (hgap : Blanks before start)
    (hvalue : Value start stop) (hrest : Rest .list stop after) : Items before after := by
  cases hrest with
  | close hend => exact .last hgap hvalue hend
  | more hcomma hentries => exact .more hgap hvalue hcomma hentries

theorem fields_of_value {before gap start stop after : List Char} (hname : Name before gap)
    (hgap : Blanks gap start) (hvalue : Value start stop) (hrest : Rest .object stop after) :
    Fields before after := by
  cases hrest with
  | close hend => exact .last hname hgap hvalue hend
  | more hcomma hentries => exact .more hname hgap hvalue hcomma hentries

/-- With this much fuel, one value is passed, and then what is owed behind it. -/
def PassesValues (fuel : Nat) : Prop :=
  ∀ frames c u c', skipWithin fuel frames c = .ok (u, c') →
    ∃ start stop, Blanks c.rest start ∧ Value start stop ∧ Closes frames stop c'.rest

theorem entries_of_enter (hpasses : PassesValues fuel)
    (h : enter frame outer fuel c = .ok (u, c')) :
    ∃ between, Entries frame c.rest between ∧ Closes outer between c'.rest := by
  cases frame with
  | list =>
      obtain ⟨start, stop, hgap, hvalue, hcloses⟩ := hpasses _ _ _ _ h
      cases hcloses with
      | frame hrest houter => exact ⟨_, items_of_value hgap hvalue hrest, houter⟩
  | object =>
      obtain ⟨_, here, hname, hvalues⟩ := bind_eq_ok_iff.mp h
      obtain ⟨start, stop, hgap, hvalue, hcloses⟩ := hpasses _ _ _ _ hvalues
      cases hcloses with
      | frame hrest houter =>
          exact ⟨_, fields_of_value (name_of_skipName hname) hgap hvalue hrest, houter⟩

theorem closes_of_goOn (hpasses : PassesValues fuel) (h : goOn true frames fuel c = .ok (u, c')) :
    Closes frames c.rest c'.rest := by
  induction frames generalizing c with
  | nil =>
      obtain ⟨-, rfl⟩ := pure_eq_ok_iff.mp h
      exact .done _
  | cons frame outer ih =>
      obtain ⟨left, between, hleft, -⟩ := bind_eq_ok_iff.mp h
      obtain ⟨x, rest, place, hstart, hcase⟩ := closeFrames_cons_eq_ok hleft
      have hgap := Cursor.blanks_of_skipSpaces hstart
      rcases hcase with ⟨rfl, -⟩ | ⟨-, rfl, -⟩ | ⟨hfirst, -⟩
      · rw [goOn_close hstart] at h
        exact .frame (.close hgap) (ih h)
      · rw [goOn_comma hstart] at h
        obtain ⟨behind, hentries, houter⟩ := entries_of_enter hpasses h
        exact .frame (.more hgap hentries) houter
      · cases hfirst

theorem value_of_open (hpasses : PassesValues fuel) {before : List Char}
    (hgap : Blanks before (frame.opener :: c.rest))
    (h : goOn false (frame :: frames) fuel c = .ok (u, c')) :
    ∃ start stop, Blanks before start ∧ Value start stop ∧ Closes frames stop c'.rest := by
  have hinner := c.blanks_skipSpaces
  obtain ⟨left, between, hleft, -⟩ := bind_eq_ok_iff.mp h
  obtain ⟨x, rest, place, hstart, -⟩ := closeFrames_cons_eq_ok hleft
  by_cases hx : x = frame.closer
  · subst hx
    rw [goOn_close hstart] at h
    have houter := closes_of_goOn hpasses h
    rw [hstart] at hinner
    exact ⟨_, _, hgap, Inside.value (.close hinner), houter⟩
  · rw [goOn_first hstart hx] at h
    obtain ⟨behind, hentries, houter⟩ := entries_of_enter hpasses h
    exact ⟨_, _, hgap, Inside.value (.first (Entries.of_blanks hinner hentries)), houter⟩

theorem passesValues (fuel : Nat) : PassesValues fuel := by
  induction fuel with
  | zero =>
      intro frames c u c' h
      cases h
  | succ fuel ih =>
      intro frames c u c' h
      have hbegins := h
      rw [skipWithin] at hbegins
      obtain ⟨opened, between, hstart, -⟩ := bind_eq_ok_iff.mp hbegins
      rw [skipWithin_of_skipStart hstart] at h
      cases starts_of_skipStart hstart with
      | scalar hgap hscalar => exact ⟨_, _, hgap, .scalar hscalar, closes_of_goOn ih h⟩
      | opened hgap => exact value_of_open ih hgap h

/-- What is passed over is a value. -/
theorem value_of_skipValue (h : skipValue c = .ok (u, c')) :
    ∃ start, Blanks c.rest start ∧ Value start c'.rest := by
  obtain ⟨start, stop, hgap, hvalue, hcloses⟩ := passesValues _ _ _ _ _ h
  cases hcloses
  exact ⟨start, hgap, hvalue⟩

/-! ## What is read is passed -/

/-- The reader takes a value that is passed as well, within any frames and with enough fuel. -/
def Passed (r : Reader Json) : Prop :=
  ∀ c v c', r c = .ok (v, c') → ∀ frames fuel, c.rest.length < fuel →
    ∃ spare, c'.rest.length < spare ∧ skipWithin fuel frames c = goOn true frames spare c'

theorem skipWithin_skipSpaces (h : 0 < fuel) :
    skipWithin fuel frames c.skipSpaces = skipWithin fuel frames c := by
  obtain ⟨fuel, rfl⟩ := Nat.exists_eq_add_one_of_ne_zero (Nat.ne_of_gt h)
  exact bind_congr_apply peekPastSpaces_bind_skipSpaces

theorem length_skipSpaces (c : Cursor) : c.skipSpaces.rest.length ≤ c.rest.length :=
  c.blanks_skipSpaces.length_le

theorem length_eat (c : Cursor) : c.eat.rest.length ≤ c.rest.length := by
  obtain ⟨_ | ⟨x, rest⟩, place⟩ := c
  · exact Nat.le_refl _
  · exact Nat.le_succ _

theorem hasItem_eq_ok {first more : Bool} (h : hasItem first c = .ok (more, c')) :
    ∃ x rest place, c.skipSpaces = ⟨x :: rest, place⟩ ∧
      ((more = false ∧ x = ']' ∧ c' = c.skipSpaces) ∨
        (more = true ∧ first = true ∧ x ≠ ']' ∧ c' = c.skipSpaces) ∨
        (more = true ∧ first = false ∧ x = ',' ∧
          c' = Cursor.skipSpaces ⟨rest, place.after x⟩)) := by
  unfold hasItem at h
  rw [peekPastSpaces_bind] at h
  generalize c.skipSpaces = start at h ⊢
  obtain ⟨_ | ⟨x, rest⟩, place⟩ := start
  · cases h
  refine ⟨x, rest, place, rfl, ?_⟩
  simp only [List.head?_cons] at h
  split_ifs at h with hclose hfirst hcomma
  · obtain ⟨rfl, rfl⟩ := pure_eq_ok_iff.mp h
    exact Or.inl ⟨rfl, hclose, rfl⟩
  · obtain ⟨rfl, rfl⟩ := pure_eq_ok_iff.mp h
    exact Or.inr (Or.inl ⟨rfl, hfirst, hclose, rfl⟩)
  · rw [eat_bind, Cursor.eat_cons, peekPastSpaces_bind] at h
    generalize hnext : Cursor.skipSpaces ⟨rest, place.after x⟩ = next at h ⊢
    obtain ⟨_ | ⟨y, others⟩, behind⟩ := next
    · cases h
    simp only [List.head?_cons] at h
    split_ifs at h
    · cases h
    · obtain ⟨rfl, rfl⟩ := pure_eq_ok_iff.mp h
      exact Or.inr (Or.inr ⟨rfl, by simpa using hfirst, hcomma, rfl⟩)
  · cases h

theorem closeList_eq_ok (h : closeList c = .ok (u, c')) :
    ∃ rest place, c.skipSpaces = ⟨']' :: rest, place⟩ ∧ c' = ⟨rest, place.after ']'⟩ := by
  unfold closeList at h
  rw [peekPastSpaces_bind] at h
  generalize c.skipSpaces = start at h ⊢
  obtain ⟨_ | ⟨x, rest⟩, place⟩ := start
  · cases h
  simp only [List.head?_cons] at h
  split_ifs at h with hclose hcomma
  · subst hclose
    exact ⟨rest, place, rfl, eat_eq_ok_iff.mp h⟩
  · rw [eat_bind, peekPastSpaces_bind] at h
    generalize (Cursor.skipSpaces _).rest.head? = next at h
    by_cases hnext : next = some ']'
    · subst hnext
      cases h
    · simp only at h
      cases h
  · cases h

theorem goOn_last {others : List Char} {behind : Position}
    (hstart : c.skipSpaces = ⟨frame.closer :: rest, place⟩)
    (hend : c.skipSpaces.skipSpaces = ⟨frame.closer :: others, behind⟩) :
    others.length < c.rest.length ∧ goOn afterValue (frame :: frames) fuel c =
      goOn true frames fuel ⟨others, behind.after frame.closer⟩ := by
  rw [Cursor.skipSpaces_skipSpaces, hstart] at hend
  obtain ⟨⟨⟩, rfl⟩ := Cursor.mk.inj hend
  have hlength := length_skipSpaces c
  rw [hstart] at hlength
  exact ⟨hlength, goOn_close hstart⟩

/-- Where no item comes next, the list is closed. -/
theorem goOn_lastItem {first : Bool} {here : Cursor} (h : hasItem first c = .ok (false, here))
    (hclose : closeList here = .ok (u, c')) :
    c'.rest.length < c.rest.length ∧
      goOn (!first) (.list :: frames) fuel c = goOn true frames fuel c' := by
  obtain ⟨x, rest, place, hstart, ⟨-, rfl, rfl⟩ | ⟨⟨⟩, -⟩ | ⟨⟨⟩, -⟩⟩ := hasItem_eq_ok h
  obtain ⟨others, behind, hend, rfl⟩ := closeList_eq_ok hclose
  exact goOn_last hstart hend

/-- Where an item comes next, it is entered behind the opening bracket or behind a comma. -/
theorem goOn_nextItem {first : Bool} {here : Cursor} (h : hasItem first c = .ok (true, here))
    (hfuel : c.rest.length < fuel) :
    here.rest.length < fuel ∧
      goOn (!first) (.list :: frames) fuel c = skipWithin fuel (.list :: frames) here := by
  have hlength := length_skipSpaces c
  obtain ⟨x, rest, place, hstart, ⟨⟨⟩, -⟩ | ⟨-, rfl, hx, rfl⟩ | ⟨-, rfl, rfl, rfl⟩⟩ :=
    hasItem_eq_ok h
  · exact ⟨by omega, goOn_first hstart hx⟩
  · have hcomma : (Cursor.skipSpaces ⟨rest, place.after ','⟩).rest.length ≤ rest.length :=
      length_skipSpaces _
    rw [hstart, List.length_cons] at hlength
    rw [skipWithin_skipSpaces (by omega)]
    exact ⟨by omega, goOn_comma hstart⟩

theorem items_eq_ok {item : Reader Json} {limit : Nat} {first : Bool} {vs : List Json}
    (h : items item (limit + 1) first c = .ok (vs, c')) :
    (vs = [] ∧ hasItem first c = .ok (false, c')) ∨
      ∃ here v after others, vs = v :: others ∧ hasItem first c = .ok (true, here) ∧
        item here = .ok (v, after) ∧ items item limit false after = .ok (others, c') := by
  rw [items] at h
  obtain ⟨more, here, hhas, hmore⟩ := bind_eq_ok_iff.mp h
  cases more with
  | false =>
      obtain ⟨rfl, rfl⟩ := pure_eq_ok_iff.mp hmore
      exact Or.inl ⟨rfl, hhas⟩
  | true =>
      obtain ⟨v, after, hvalue, hmore⟩ := bind_eq_ok_iff.mp hmore
      obtain ⟨others, behind, hothers, hdone⟩ := bind_eq_ok_iff.mp hmore
      obtain ⟨rfl, rfl⟩ := pure_eq_ok_iff.mp hdone
      exact Or.inr ⟨here, v, after, others, rfl, hhas, hvalue, hothers⟩

theorem goOn_items {item : Reader Json} (hitem : Passed item) {limit : Nat} {first : Bool}
    {vs : List Json} {between : Cursor} (h : items item limit first c = .ok (vs, between))
    (hclose : closeList between = .ok (u, c')) (hfuel : c.rest.length < fuel) :
    ∃ spare, c'.rest.length < spare ∧
      goOn (!first) (.list :: frames) fuel c = goOn true frames spare c' := by
  induction limit generalizing c first vs fuel with
  | zero => cases h
  | succ limit ih =>
      rcases items_eq_ok h with ⟨-, hhas⟩ | ⟨here, v, after, others, -, hhas, hvalue, hothers⟩
      · obtain ⟨hlength, hend⟩ := goOn_lastItem hhas hclose
        exact ⟨fuel, Nat.lt_trans hlength hfuel, hend⟩
      · obtain ⟨hhere, henter⟩ := goOn_nextItem hhas hfuel
        obtain ⟨spare, hspare, hpass⟩ := hitem _ v after hvalue (.list :: frames) fuel hhere
        rw [henter, hpass]
        exact ih hothers hspare

theorem hasField_eq_ok {first more : Bool} (h : hasField first c = .ok (more, c')) :
    ∃ x rest place, c.skipSpaces = ⟨x :: rest, place⟩ ∧
      ((more = false ∧ x = '\x7d' ∧ c' = c.skipSpaces) ∨
        (more = true ∧ first = true ∧ x = '"' ∧ c' = c.skipSpaces) ∨
        (more = true ∧ first = false ∧ x = ',' ∧
          c' = Cursor.skipSpaces ⟨rest, place.after x⟩ ∧ c'.rest.head? = some '"')) := by
  unfold hasField at h
  rw [peekPastSpaces_bind] at h
  generalize c.skipSpaces = start at h ⊢
  obtain ⟨_ | ⟨x, rest⟩, place⟩ := start
  · cases h
  refine ⟨x, rest, place, rfl, ?_⟩
  simp only [List.head?_cons] at h
  split_ifs at h with hclose hfirst hquote hcomma
  · obtain ⟨rfl, rfl⟩ := pure_eq_ok_iff.mp h
    exact Or.inl ⟨rfl, hclose, rfl⟩
  · obtain ⟨rfl, rfl⟩ := pure_eq_ok_iff.mp h
    exact Or.inr (Or.inl ⟨rfl, hfirst, hquote, rfl⟩)
  · cases h
  · rw [eat_bind, Cursor.eat_cons, peekPastSpaces_bind] at h
    generalize Cursor.skipSpaces ⟨rest, place.after x⟩ = next at h ⊢
    obtain ⟨_ | ⟨y, others⟩, behind⟩ := next
    · cases h
    simp only [List.head?_cons] at h
    split_ifs at h with hname
    · obtain ⟨rfl, rfl⟩ := pure_eq_ok_iff.mp h
      exact Or.inr (Or.inr ⟨rfl, by simpa using hfirst, hcomma, rfl, by simp [hname]⟩)
    · cases h
    · cases h
  · cases h

theorem closeObject_eq_ok (h : closeObject c = .ok (u, c')) :
    ∃ rest place, c.skipSpaces = ⟨'\x7d' :: rest, place⟩ ∧ c' = ⟨rest, place.after '\x7d'⟩ := by
  unfold closeObject at h
  rw [peekPastSpaces_bind] at h
  generalize c.skipSpaces = start at h ⊢
  obtain ⟨_ | ⟨x, rest⟩, place⟩ := start
  · cases h
  simp only [List.head?_cons] at h
  split_ifs at h with hclose
  · subst hclose
    exact ⟨rest, place, rfl, eat_eq_ok_iff.mp h⟩
  · cases h
  · cases h

theorem goOn_lastField {first : Bool} {here : Cursor} (h : hasField first c = .ok (false, here))
    (hclose : closeObject here = .ok (u, c')) :
    c'.rest.length < c.rest.length ∧
      goOn (!first) (.object :: frames) fuel c = goOn true frames fuel c' := by
  obtain ⟨x, rest, place, hstart, ⟨-, rfl, rfl⟩ | ⟨⟨⟩, -⟩ | ⟨⟨⟩, -⟩⟩ := hasField_eq_ok h
  obtain ⟨others, behind, hend, rfl⟩ := closeObject_eq_ok hclose
  exact goOn_last hstart hend

theorem length_lt_of_stringBody {text : String} (h : stringBody c = .ok (text, c')) :
    c'.rest.length < c.rest.length :=
  (stringTail_of_skipString (skipString_of_stringBody h)).length_lt

theorem length_lt_of_colon (h : colon c = .ok (u, c')) : c'.rest.length < c.rest.length := by
  obtain ⟨place, hstart, -⟩ := colon_eq_ok h
  have hlength := length_skipSpaces c
  rw [hstart] at hlength
  exact hlength

/-- A name that is read is passed, with blanks before it or without. -/
theorem skipName_of_name {name : String} {here stop : Cursor} (hstart : c.skipSpaces = here)
    (hquote : here.rest.head? = some '"') (hname : stringBody here.eat = .ok (name, stop))
    (hcolon : colon stop = .ok (u, c')) : skipName c = .ok ((), c') := by
  unfold skipName
  rw [peekPastSpaces_bind, hstart]
  simp only [hquote, if_true]
  rw [eat_bind, remaining_bind, bind_of_eq_ok (skipString_of_stringBody hname)]
  exact hcolon

/-- Where a field comes next, its value is entered behind the name and the colon. -/
theorem goOn_nextField {first : Bool} {name : String} {here stop : Cursor}
    (h : hasField first c = .ok (true, here)) (hname : stringBody here.eat = .ok (name, stop))
    (hcolon : colon stop = .ok (u, c')) (hfuel : c.rest.length < fuel) :
    c'.rest.length < fuel ∧
      goOn (!first) (.object :: frames) fuel c = skipWithin fuel (.object :: frames) c' := by
  have hafter := length_lt_of_colon hcolon
  have hbehind := length_lt_of_stringBody hname
  have hquoted := length_eat here
  have hlength := length_skipSpaces c
  obtain ⟨x, rest, place, hstart, ⟨⟨⟩, -⟩ | ⟨-, rfl, rfl, rfl⟩ | ⟨-, rfl, rfl, rfl, hquote⟩⟩ :=
    hasField_eq_ok h
  · have henter : goOn false (.object :: frames) fuel c =
        enter .object frames fuel c.skipSpaces := goOn_first hstart (by decide)
    have hskip := skipName_of_name c.skipSpaces_skipSpaces (by rw [hstart]; rfl) hname hcolon
    exact ⟨by omega, henter.trans (bind_of_eq_ok hskip)⟩
  · have henter : goOn true (.object :: frames) fuel c =
        enter .object frames fuel ⟨rest, place.after ','⟩ := goOn_comma hstart
    have hskip := skipName_of_name rfl hquote hname hcolon
    have hcomma : (Cursor.skipSpaces ⟨rest, place.after ','⟩).rest.length ≤ rest.length :=
      length_skipSpaces _
    rw [hstart, List.length_cons] at hlength
    exact ⟨by omega, henter.trans (bind_of_eq_ok hskip)⟩

/-- A field that comes next: its name, the colon and its value, up to the place behind them. -/
inductive NextField (value : Reader Json) (first : Bool) (c c' : Cursor) (name : String)
    (v : Json) : Prop
  | read {here stop start : Cursor} (hhas : hasField first c = .ok (true, here))
      (hname : stringBody here.eat = .ok (name, stop)) (hcolon : colon stop = .ok ((), start))
      (hvalue : value start = .ok (v, c')) : NextField value first c c' name v

theorem fields_eq_ok {value : Reader Json} {limit : Nat} {first : Bool}
    {found : List (String × Json)} (h : fields value (limit + 1) first c = .ok (found, c')) :
    (found = [] ∧ hasField first c = .ok (false, c')) ∨
      ∃ name v after others, found = (name, v) :: others ∧
        NextField value first c after name v ∧
        fields value limit false after = .ok (others, c') := by
  rw [fields] at h
  obtain ⟨more, here, hhas, hmore⟩ := bind_eq_ok_iff.mp h
  cases more with
  | false =>
      obtain ⟨rfl, rfl⟩ := pure_eq_ok_iff.mp hmore
      exact Or.inl ⟨rfl, hhas⟩
  | true =>
      simp only [if_true] at hmore
      rw [eat_bind] at hmore
      obtain ⟨name, stop, hname, hmore⟩ := bind_eq_ok_iff.mp hmore
      obtain ⟨_, start, hcolon, hmore⟩ := bind_eq_ok_iff.mp hmore
      obtain ⟨v, after, hvalue, hmore⟩ := bind_eq_ok_iff.mp hmore
      obtain ⟨others, behind, hothers, hdone⟩ := bind_eq_ok_iff.mp hmore
      obtain ⟨rfl, rfl⟩ := pure_eq_ok_iff.mp hdone
      exact Or.inr ⟨name, v, after, others, rfl, .read hhas hname hcolon hvalue, hothers⟩

theorem goOn_fields {value : Reader Json} (hvalue : Passed value) {limit : Nat} {first : Bool}
    {found : List (String × Json)} {between : Cursor}
    (h : fields value limit first c = .ok (found, between))
    (hclose : closeObject between = .ok (u, c')) (hfuel : c.rest.length < fuel) :
    ∃ spare, c'.rest.length < spare ∧
      goOn (!first) (.object :: frames) fuel c = goOn true frames spare c' := by
  induction limit generalizing c first found fuel with
  | zero => cases h
  | succ limit ih =>
      rcases fields_eq_ok h with
        ⟨-, hhas⟩ | ⟨name, v, after, others, -, ⟨hhas, hname, hcolon, hread⟩, hothers⟩
      · obtain ⟨hlength, hend⟩ := goOn_lastField hhas hclose
        exact ⟨fuel, Nat.lt_trans hlength hfuel, hend⟩
      · obtain ⟨hhere, henter⟩ := goOn_nextField hhas hname hcolon hfuel
        obtain ⟨spare, hspare, hpass⟩ := hvalue _ v after hread (.object :: frames) fuel hhere
        rw [henter, hpass]
        exact ih hothers hspare

theorem skipWithin_opener (hstart : c.skipSpaces = ⟨frame.opener :: rest, place⟩) :
    skipWithin (fuel + 1) frames c =
      goOn false (frame :: frames) fuel ⟨rest, place.after frame.opener⟩ := by
  have hopen : skipStart c = .ok (some frame, ⟨rest, place.after frame.opener⟩) := by
    unfold skipStart
    rw [peekPastSpaces_bind, hstart]
    cases frame <;> rfl
  exact skipWithin_of_skipStart hopen

def PassedInside (frame : Frame) (r : Reader Json) : Prop :=
  ∀ rest place v c', r ⟨frame.opener :: rest, place⟩ = .ok (v, c') → ∀ frames fuel,
    rest.length < fuel → ∃ spare, c'.rest.length < spare ∧
      goOn false (frame :: frames) fuel ⟨rest, place.after frame.opener⟩ = goOn true frames spare c'

theorem passed_valueWith {list object : Reader Json} (hlist : PassedInside .list list)
    (hobject : PassedInside .object object) : Passed (valueWith list object) := by
  intro c v c' h frames fuel hfuel
  obtain ⟨fuel, rfl⟩ := Nat.exists_eq_add_one_of_ne_zero (Nat.ne_zero_of_lt hfuel)
  have hlength := length_skipSpaces c
  have hscalar (hskip : skipStart c = .ok (none, c')) : ∃ spare, c'.rest.length < spare ∧
      skipWithin (fuel + 1) frames c = goOn true frames spare c' := by
    refine ⟨fuel, ?_, skipWithin_of_skipStart hskip⟩
    cases starts_of_skipStart hskip with
    | scalar hgap hscalar =>
        have := hgap.length_le
        have := hscalar.length_lt
        omega
  cases begins_of_valueWith h with
  | bare _ _ _ hskip => exact hscalar hskip
  | string hstart _ hbody => exact hscalar (skipStart_of_stringBody hstart hbody)
  | @list rest place hstart hread =>
      rw [@skipWithin_opener _ .list _ _ _ _ hstart]
      rw [hstart, List.length_cons] at hlength
      exact hlist rest place v c' hread frames fuel (by omega)
  | @object rest place hstart hread =>
      rw [@skipWithin_opener _ .object _ _ _ _ hstart]
      rw [hstart, List.length_cons] at hlength
      exact hobject rest place v c' hread frames fuel (by omega)

theorem passedInside_failAhead {frame : Frame} {fault : Fault} :
    PassedInside frame (failAhead fault) := fun _ _ _ _ h => by cases h

/-- A reader that closes what it has read behind it. -/
theorem closed_eq_ok_iff {β γ : Type} {read : Reader β} {close : Reader Unit} {make : β → γ}
    {z : γ} : (read >>= fun found => close >>= fun _ => pure (make found)) c = .ok (z, c') ↔
      ∃ found between, read c = .ok (found, between) ∧ close between = .ok ((), c') ∧
        z = make found := by
  rw [bind_eq_ok_iff]
  exact exists_congr fun _ => exists_congr fun _ => and_congr_right fun _ => bind_pure_eq_ok_iff

theorem listOf_eq_ok_iff {item : Reader Json} {v : Json} :
    listOf item ⟨x :: rest, place⟩ = .ok (v, c') ↔ ∃ values between,
      items item (rest.length + 1) true ⟨rest, place.after x⟩ = .ok (values, between) ∧
        closeList between = .ok ((), c') ∧ v = .array values := by
  unfold listOf
  rw [eat_bind, remaining_bind]
  exact closed_eq_ok_iff

theorem objectOf_eq_ok_iff {value : Reader Json} {v : Json} :
    objectOf value ⟨x :: rest, place⟩ = .ok (v, c') ↔ ∃ found between,
      fields value (rest.length + 1) true ⟨rest, place.after x⟩ = .ok (found, between) ∧
        closeObject between = .ok ((), c') ∧ v = .object found := by
  unfold objectOf
  rw [eat_bind, remaining_bind]
  exact closed_eq_ok_iff

theorem passedInside_listOf {item : Reader Json} (h : Passed item) :
    PassedInside .list (listOf item) := by
  intro rest place v c' hread frames fuel hfuel
  obtain ⟨values, between, hitems, hclose, -⟩ := listOf_eq_ok_iff.mp hread
  exact goOn_items h hitems hclose hfuel

theorem passedInside_objectOf {value : Reader Json} (h : Passed value) :
    PassedInside .object (objectOf value) := by
  intro rest place v c' hread frames fuel hfuel
  obtain ⟨found, between, hfields, hclose, -⟩ := objectOf_eq_ok_iff.mp hread
  exact goOn_fields h hfields hclose hfuel

theorem passed_value (depth : Nat) : Passed (value depth) := by
  induction depth with
  | zero => exact passed_valueWith passedInside_failAhead passedInside_failAhead
  | succ depth ih => exact passed_valueWith (passedInside_listOf ih) (passedInside_objectOf ih)

/-- What is read as a value is passed over, up to the same place. -/
theorem skipValue_of_value {depth : Nat} {v : Json} (h : value depth c = .ok (v, c')) :
    skipValue c = .ok ((), c') := by
  obtain ⟨spare, -, hpass⟩ := passed_value depth c v c' h [] _ (Nat.lt_succ_self _)
  exact hpass

theorem value_of_value {depth : Nat} {v : Json} (h : value depth c = .ok (v, c')) :
    ∃ start, Blanks c.rest start ∧ Value start c'.rest :=
  value_of_skipValue (skipValue_of_value h)

end Reader

end StakingGateway.Json
