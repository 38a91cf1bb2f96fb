import StakingGateway.Proofs.PassedText

/-!
# Records in a text

A record is read from a text without its value being read first: fields of other names are passed
over, and a name that comes twice ends the reading. A text that gives a record is a JSON text all
the same, and where the text can be read as a value, it gives the record that the value gives, as
long as no name of the record is repeated.
-/

namespace StakingGateway.Json

namespace Reader

open Grammar

variable {α : Type} {c c' : Cursor} {u : Unit} {frame : Frame} {first : Bool} {depth : Nat}
  {wanted : Wanted} {v : Json} {r : Record}

theorem wrongKind_ne_ok {kind : String} {x : α} : wrongKind kind c ≠ .ok (x, c') := by
  intro h
  unfold wrongKind at h
  rw [peek_bind] at h
  generalize c.rest.head? = next at h
  by_cases hlist : next = some '['
  · subst hlist
    cases h
  by_cases hobject : next = some '\x7b'
  · subst hobject
    cases h
  · simp only at h
    obtain ⟨_, _, -, hfail⟩ := bind_eq_ok_iff.mp h
    cases hfail

/-! ## The value of a field -/

theorem slotValue_text_eq_ok_iff : slotValue depth .text c = .ok (v, c') ↔
    ∃ rest place text, c.skipSpaces = ⟨'"' :: rest, place⟩ ∧
      stringBody ⟨rest, place.after '"'⟩ = .ok (text, c') ∧ v = .string text := by
  unfold slotValue
  simp only
  rw [peekPastSpaces_bind]
  generalize c.skipSpaces = start
  obtain ⟨_ | ⟨x, rest⟩, place⟩ := start
  · exact iff_of_false (by simp) (by simp)
  by_cases hquote : x = '"'
  · subst hquote
    simp only [List.head?_cons]
    rw [eat_bind, Cursor.eat_cons, bind_eq_ok_iff]
    constructor
    · rintro ⟨text, between, hbody, hdone⟩
      obtain ⟨rfl, rfl⟩ := pure_eq_ok_iff.mp hdone
      exact ⟨rest, place, text, rfl, hbody, rfl⟩
    · rintro ⟨_, _, text, ⟨⟩, hbody, rfl⟩
      exact ⟨text, c', hbody, rfl⟩
  · simp only [List.head?_cons]
    refine iff_of_false wrongKind_ne_ok ?_
    rintro ⟨_, _, _, ⟨⟩, -⟩
    exact hquote rfl

theorem slotValue_eq_ok_iff (htext : wanted ≠ .text) : slotValue depth wanted c = .ok (v, c') ↔
    value depth c = .ok (v, c') ∧ wanted.check v = .ok () := by
  cases wanted with
  | text => exact absurd rfl htext
  | truth | any | checked check =>
      simp only [slotValue]
      rw [bind_eq_ok_iff]
      constructor
      · rintro ⟨found, between, hvalue, hchecked⟩
        generalize hcheck : Wanted.check _ found = result at hchecked
        cases result with
        | error fault => cases hchecked
        | ok _ =>
            obtain ⟨rfl, rfl⟩ := pure_eq_ok_iff.mp hchecked
            exact ⟨hvalue, hcheck⟩
      · rintro ⟨hvalue, hcheck⟩
        refine ⟨v, c', hvalue, ?_⟩
        rw [hcheck]
        rfl

theorem start_of_value (h : value depth c = .ok (v, c')) :
    (∃ rest place text, c.skipSpaces = ⟨'"' :: rest, place⟩ ∧
        stringBody ⟨rest, place.after '"'⟩ = .ok (text, c') ∧ v = .string text) ∨
      c.skipSpaces.rest.head? ≠ some '"' ∧ ∀ text, v ≠ .string text := by
  have hbegins : ∃ list object, Begins list object c c' v ∧
      (∀ rest place, list ⟨'[' :: rest, place⟩ = .ok (v, c') → ∀ text, v ≠ .string text) ∧
      ∀ rest place, object ⟨'\x7b' :: rest, place⟩ = .ok (v, c') → ∀ text, v ≠ .string text := by
    cases depth with
    | zero =>
        exact ⟨_, _, begins_of_valueWith h, fun _ _ hfail => absurd hfail failAhead_ne_ok,
          fun _ _ hfail => absurd hfail failAhead_ne_ok⟩
    | succ depth =>
        refine ⟨_, _, begins_of_valueWith h, ?_, ?_⟩
        · intro rest place hread
          obtain ⟨_, _, -, -, rfl⟩ := listOf_eq_ok_iff.mp hread
          exact fun _ => Json.noConfusion
        · intro rest place hread
          obtain ⟨_, _, -, -, rfl⟩ := objectOf_eq_ok_iff.mp hread
          exact fun _ => Json.noConfusion
  obtain ⟨list, object, hbegins, hlist, hobject⟩ := hbegins
  cases hbegins with
  | bare hhead hx hv _ =>
      refine Or.inr ⟨?_, ?_⟩
      · rintro hquote
        rw [hhead, Option.some.injEq] at hquote
        simp [hquote] at hx
      · rintro text rfl
        exact hv
  | string hstart hv hbody => exact Or.inl ⟨_, _, _, hstart, hbody, hv⟩
  | list hstart hread => exact Or.inr ⟨by simp [hstart], hlist _ _ hread⟩
  | object hstart hread => exact Or.inr ⟨by simp [hstart], hobject _ _ hread⟩

/-- Where a value can be read, the field has this value if it passes the check. -/
theorem slotValue_of_value {found : Json} {here : Cursor} (h : value depth c = .ok (found, here)) :
    slotValue depth wanted c = .ok (v, c') ↔
      v = found ∧ c' = here ∧ wanted.check found = .ok () := by
  by_cases htext : wanted = .text
  · subst htext
    rw [slotValue_text_eq_ok_iff, check_text]
    rcases start_of_value h with ⟨rest, place, text, hstart, hbody, rfl⟩ | ⟨hother, hfound⟩
    · rw [hstart]
      constructor
      · rintro ⟨_, _, written, ⟨⟩, hwritten, rfl⟩
        obtain ⟨rfl, rfl⟩ := Prod.mk.inj (Except.ok.inj (hwritten.symm.trans hbody))
        exact ⟨rfl, rfl, _, rfl⟩
      · rintro ⟨rfl, rfl, -⟩
        exact ⟨rest, place, text, rfl, hbody, rfl⟩
    · refine iff_of_false ?_ ?_
      · rintro ⟨rest, place, text, hstart, -⟩
        exact hother (by rw [hstart]; rfl)
      · rintro ⟨-, -, text, hstring⟩
        exact hfound text hstring
  · rw [slotValue_eq_ok_iff htext, h]
    constructor
    · rintro ⟨⟨⟩, hcheck⟩
      exact ⟨rfl, rfl, hcheck⟩
    · rintro ⟨rfl, rfl, hcheck⟩
      exact ⟨rfl, hcheck⟩

theorem value_of_slotValue (h : slotValue depth wanted c = .ok (v, c')) :
    ∃ start, Blanks c.rest start ∧ Value start c'.rest := by
  by_cases htext : wanted = .text
  · subst htext
    obtain ⟨rest, place, text, hstart, hbody, -⟩ := slotValue_text_eq_ok_iff.mp h
    have hgap := Cursor.blanks_of_skipSpaces hstart
    exact ⟨_, hgap, .scalar (.string (stringTail_of_skipString (skipString_of_stringBody hbody)))⟩
  · exact value_of_value ((slotValue_eq_ok_iff htext).mp h).1

/-! ## A record is a value -/

/-- What is read of a record, in one of its two forms. -/
inductive Recorded (depth : Nat) (r : Record) (build : Given → Except Fault α) (c c' : Cursor)
    (x : α) : Prop
  | list {rest : List Char} {place : Position} {found : List Json} {between : Cursor}
      (hstart : c.skipSpaces = ⟨'[' :: rest, place⟩)
      (hitems : recordItems depth r.slots true ⟨rest, place.after '['⟩ = .ok (found, between))
      (hclose : closeList between = .ok ((), c')) (hbuild : build (r.ofList found) = .ok x)
  | object {rest : List Char} {place : Position} {found : List (String × Json)} {between : Cursor}
      (hstart : c.skipSpaces = ⟨'\x7b' :: rest, place⟩)
      (hfields : recordFields depth r (rest.length + 1) true [] ⟨rest, place.after '\x7b'⟩ =
        .ok (.ok found, between))
      (hclose : closeObject between = .ok ((), c')) (hbuild : build (r.ofObject found) = .ok x)

theorem closing_eq_ok_iff {close leave : Reader Unit} {result : Except Fault α} {x : α} :
    closing close leave result c = .ok (x, c') ↔ result = .ok x ∧ close c = .ok ((), c') := by
  cases result with
  | error fault =>
      refine iff_of_false (fun h => ?_) (fun h => by cases h.1)
      obtain ⟨_, _, -, hfail⟩ := bind_eq_ok_iff.mp h
      cases hfail
  | ok result =>
      have hclosing : closing close leave (.ok result) c = .ok (x, c') ↔
          close c = .ok ((), c') ∧ x = result := bind_pure_eq_ok_iff
      rw [hclosing, and_comm, Except.ok.injEq, eq_comm]

theorem record_eq_ok_iff {build : Given → Except Fault α} {x : α} :
    record depth r build c = .ok (x, c') ↔ Recorded depth r build c c' x := by
  unfold record
  rw [peekPastSpaces_bind]
  generalize hstart : c.skipSpaces = start
  obtain ⟨_ | ⟨y, rest⟩, place⟩ := start
  · refine iff_of_false failAhead_ne_ok ?_
    rintro (⟨hopen, -⟩ | ⟨hopen, -⟩) <;> cases hstart.symm.trans hopen
  simp only [List.head?_cons]
  by_cases hlist : y = '['
  · subst hlist
    simp only
    rw [eat_bind, Cursor.eat_cons, bind_eq_ok_iff]
    constructor
    · rintro ⟨found, between, hitems, hclosing⟩
      obtain ⟨hbuild, hclose⟩ := closing_eq_ok_iff.mp hclosing
      exact .list hstart hitems hclose hbuild
    · rintro (⟨hopen, hitems, hclose, hbuild⟩ | ⟨hopen, -⟩)
      · cases hstart.symm.trans hopen
        exact ⟨_, _, hitems, closing_eq_ok_iff.mpr ⟨hbuild, hclose⟩⟩
      · cases hstart.symm.trans hopen
  by_cases hobject : y = '\x7b'
  · subst hobject
    simp only
    rw [eat_bind, Cursor.eat_cons, remaining_bind, bind_eq_ok_iff]
    constructor
    · rintro ⟨fault | found, between, hfields, hclosing⟩
      · cases (closing_eq_ok_iff.mp hclosing).1
      · obtain ⟨hbuild, hclose⟩ := closing_eq_ok_iff.mp hclosing
        exact .object hstart hfields hclose hbuild
    · rintro (⟨hopen, -⟩ | ⟨hopen, hfields, hclose, hbuild⟩)
      · cases hstart.symm.trans hopen
      · cases hstart.symm.trans hopen
        exact ⟨_, _, hfields, closing_eq_ok_iff.mpr ⟨hbuild, hclose⟩⟩
  · refine iff_of_false ?_ ?_
    · simp only
      exact wrongKind_ne_ok
    · rintro (⟨hopen, -⟩ | ⟨hopen, -⟩)
      · cases hstart.symm.trans hopen
        exact hlist rfl
      · cases hstart.symm.trans hopen
        exact hobject rfl

theorem inside_of_hasItem {after : List Char} {here : Cursor}
    (h : hasItem first c = .ok (true, here)) (hentries : Items here.rest after) :
    Inside .list first c.rest after := by
  obtain ⟨x, rest, place, hstart, ⟨⟨⟩, -⟩ | ⟨-, rfl, -, rfl⟩ | ⟨-, rfl, rfl, rfl⟩⟩ :=
    hasItem_eq_ok h
  · exact .first (Items.of_blanks c.blanks_skipSpaces hentries)
  · have hinner := Cursor.blanks_skipSpaces ⟨rest, place.after ','⟩
    exact .more (Cursor.blanks_of_skipSpaces hstart) (Items.of_blanks hinner hentries)

theorem closeList_skipSpaces : closeList c.skipSpaces = closeList c :=
  peekPastSpaces_bind_skipSpaces

theorem closeObject_skipSpaces : closeObject c.skipSpaces = closeObject c :=
  peekPastSpaces_bind_skipSpaces

theorem eq_of_hasItem {here : Cursor} (h : hasItem first c = .ok (false, here)) :
    here = c.skipSpaces := by
  obtain ⟨_, _, _, -, ⟨-, -, hhere⟩ | ⟨⟨⟩, -⟩ | ⟨⟨⟩, -⟩⟩ := hasItem_eq_ok h
  exact hhere

theorem eq_of_hasField {here : Cursor} (h : hasField first c = .ok (false, here)) :
    here = c.skipSpaces := by
  obtain ⟨_, _, _, -, ⟨-, -, hhere⟩ | ⟨⟨⟩, -⟩ | ⟨⟨⟩, -⟩⟩ := hasField_eq_ok h
  exact hhere

theorem inside_of_closer {rest : List Char} {place : Position}
    (hstart : c.skipSpaces = ⟨frame.closer :: rest, place⟩) : Inside frame first c.rest rest :=
  .close (Cursor.blanks_of_skipSpaces hstart)

theorem inside_of_closeList (h : closeList c = .ok (u, c')) :
    Inside .list first c.rest c'.rest := by
  obtain ⟨rest, place, hstart, rfl⟩ := closeList_eq_ok h
  exact inside_of_closer hstart

theorem inside_of_closeObject (h : closeObject c = .ok (u, c')) :
    Inside .object first c.rest c'.rest := by
  obtain ⟨rest, place, hstart, rfl⟩ := closeObject_eq_ok h
  exact inside_of_closer hstart

theorem inside_of_recordItems {slots : List Slot} {found : List Json} {between : Cursor}
    (h : recordItems depth slots first c = .ok (found, between))
    (hclose : closeList between = .ok (u, c')) : Inside .list first c.rest c'.rest := by
  induction slots generalizing c first found with
  | nil =>
      obtain ⟨-, rfl⟩ := pure_eq_ok_iff.mp h
      exact inside_of_closeList hclose
  | cons slot slots ih =>
      rw [recordItems] at h
      obtain ⟨more, here, hhas, hmore⟩ := bind_eq_ok_iff.mp h
      cases more with
      | false =>
          obtain ⟨-, rfl⟩ := pure_eq_ok_iff.mp hmore
          rw [eq_of_hasItem hhas, closeList_skipSpaces] at hclose
          exact inside_of_closeList hclose
      | true =>
          obtain ⟨v, after, hvalue, hothers⟩ := bind_eq_ok_iff.mp hmore
          obtain ⟨others, behind, hothers, hdone⟩ := bind_eq_ok_iff.mp hothers
          obtain ⟨-, rfl⟩ := pure_eq_ok_iff.mp hdone
          obtain ⟨start, hgap, hstart⟩ := value_of_slotValue hvalue
          exact inside_of_hasItem hhas (items_of_value hgap hstart (ih hothers).rest)

/-- A name that is read where a field comes next, and what stands behind it. -/
theorem inside_of_hasField {after : List Char} {here stop start : Cursor} {name : String}
    (h : hasField first c = .ok (true, here)) (hname : stringBody here.eat = .ok (name, stop))
    (hcolon : colon stop = .ok (u, start)) {between : List Char}
    (hvalue : ∃ begin, Blanks start.rest begin ∧ Value begin between)
    (hrest : Rest .object between after) : Inside .object first c.rest after := by
  obtain ⟨begin, hinner, hvalue⟩ := hvalue
  obtain ⟨x, rest, place, hstart, ⟨⟨⟩, -⟩ | ⟨-, rfl, rfl, rfl⟩ | ⟨-, rfl, rfl, rfl, hquote⟩⟩ :=
    hasField_eq_ok h
  · have hskip := skipName_of_name rfl (by rw [hstart]; rfl) hname hcolon
    exact .first (fields_of_value (name_of_skipName hskip) hinner hvalue hrest)
  · have hskip := skipName_of_name rfl hquote hname hcolon
    have hgap := Cursor.blanks_of_skipSpaces hstart
    exact .more hgap (fields_of_value (name_of_skipName hskip) hinner hvalue hrest)

theorem inside_of_recordFields {fuel : Nat} {seen found : List (String × Json)} {between : Cursor}
    (h : recordFields depth r fuel first seen c = .ok (.ok found, between))
    (hclose : closeObject between = .ok (u, c')) : Inside .object first c.rest c'.rest := by
  induction fuel generalizing c first seen with
  | zero => cases h
  | succ fuel ih =>
      rw [recordFields] at h
      obtain ⟨more, here, hhas, hmore⟩ := bind_eq_ok_iff.mp h
      cases more with
      | false =>
          obtain ⟨-, rfl⟩ := pure_eq_ok_iff.mp hmore
          rw [eq_of_hasField hhas, closeObject_skipSpaces] at hclose
          exact inside_of_closeObject hclose
      | true =>
          simp only [if_true] at hmore
          rw [eat_bind] at hmore
          obtain ⟨name, stop, hname, hmore⟩ := bind_eq_ok_iff.mp hmore
          cases hslot : r.slot? name with
          | none =>
              simp only [hslot] at hmore
              obtain ⟨_, start, hcolon, hmore⟩ := bind_eq_ok_iff.mp hmore
              obtain ⟨_, after, hskip, hothers⟩ := bind_eq_ok_iff.mp hmore
              exact inside_of_hasField hhas hname hcolon (value_of_skipValue hskip)
                (ih hothers).rest
          | some slot =>
              simp only [hslot] at hmore
              split_ifs at hmore with hseen
              · cases (pure_eq_ok_iff.mp hmore).1
              obtain ⟨_, start, hcolon, hmore⟩ := bind_eq_ok_iff.mp hmore
              obtain ⟨v, after, hread, hothers⟩ := bind_eq_ok_iff.mp hmore
              exact inside_of_hasField hhas hname hcolon (value_of_slotValue hread)
                (ih hothers).rest

/-- A record that is read is a value, whatever is passed over in it. -/
theorem value_of_record {build : Given → Except Fault α} {x : α}
    (h : record depth r build c = .ok (x, c')) :
    ∃ start, Blanks c.rest start ∧ Value start c'.rest := by
  cases record_eq_ok_iff.mp h with
  | list hstart hitems hclose _ =>
      exact ⟨_, Cursor.blanks_of_skipSpaces hstart, (inside_of_recordItems hitems hclose).value⟩
  | object hstart hfields hclose _ =>
      exact ⟨_, Cursor.blanks_of_skipSpaces hstart, (inside_of_recordFields hfields hclose).value⟩

theorem finish_eq_ok_iff {here : Cursor} :
    finish c = .ok (u, here) ↔ c.skipSpaces.rest = [] ∧ here = c.skipSpaces := by
  unfold finish
  rw [peekPastSpaces_bind]
  generalize c.skipSpaces = start
  obtain ⟨_ | ⟨x, rest⟩, place⟩ := start
  · simp
  · exact iff_of_false failAhead_ne_ok (fun h => List.cons_ne_nil x rest h.1)

/-- What stands in a text on its own, among blanks. -/
theorem whole_eq_ok_iff {read : Reader α} {text : List Char} {x : α} :
    (do
      let (found, rest) ← read (Cursor.start text)
      let _ ← finish rest
      return found : Except Complaint α) = .ok x ↔
      ∃ here, read (Cursor.start text) = .ok (x, here) ∧ here.skipSpaces.rest = [] := by
  rw [Json.bind_eq_ok, Prod.exists]
  constructor
  · rintro ⟨found, rest, hread, hfinish⟩
    obtain ⟨⟨_, behind⟩, hend, hdone⟩ := Json.bind_eq_ok.mp hfinish
    obtain rfl : found = x := Except.ok.inj hdone
    exact ⟨rest, hread, (finish_eq_ok_iff.mp hend).1⟩
  · rintro ⟨here, hread, hend⟩
    refine ⟨x, here, hread, Json.bind_eq_ok.mpr ⟨((), here.skipSpaces), ?_, rfl⟩⟩
    exact finish_eq_ok_iff.mpr ⟨hend, rfl⟩

/-! ## Records and values -/

section

variable {fuel : Nat} {vs found : List Json} {slots : List Slot} {between : Cursor}

theorem closeList_ne_ok_of_hasItem {here : Cursor} (h : hasItem first c = .ok (true, here)) :
    closeList c ≠ .ok (u, c') := by
  intro hclose
  obtain ⟨_, _, hend, -⟩ := closeList_eq_ok hclose
  obtain ⟨x, _, _, hstart, ⟨⟨⟩, -⟩ | ⟨-, -, hx, -⟩ | ⟨-, -, rfl, -⟩⟩ := hasItem_eq_ok h
  · rw [hend] at hstart
    cases hstart
    exact hx rfl
  · rw [hend] at hstart
    cases hstart

theorem recordItems_of_end {here : Cursor} (h : hasItem first c = .ok (false, here)) :
    ∃ stop, recordItems depth slots first c = .ok ([], stop) ∧ closeList stop = closeList here := by
  cases slots with
  | nil => exact ⟨c, rfl, by rw [eq_of_hasItem h, closeList_skipSpaces]⟩
  | cons slot slots => exact ⟨here, bind_of_eq_ok h, rfl⟩

theorem recordItems_of_next {slot : Slot} {here after : Cursor}
    (h : hasItem first c = .ok (true, here)) (hread : value depth here = .ok (v, after)) :
    recordItems depth (slot :: slots) first c = .ok (found, c') ↔ slot.wanted.check v = .ok () ∧
      ∃ others, recordItems depth slots false after = .ok (others, c') ∧ found = v :: others := by
  have hstep : recordItems depth (slot :: slots) first c = _ := bind_of_eq_ok h
  rw [hstep]
  simp only [if_true]
  rw [bind_eq_ok_iff]
  constructor
  · rintro ⟨w, stop, hslot, hitems⟩
    obtain ⟨rfl, rfl, hcheck⟩ := (slotValue_of_value hread).mp hslot
    obtain ⟨others, behind, hothers, hdone⟩ := bind_eq_ok_iff.mp hitems
    obtain ⟨rfl, rfl⟩ := pure_eq_ok_iff.mp hdone
    exact ⟨hcheck, others, hothers, rfl⟩
  · rintro ⟨hcheck, others, hothers, rfl⟩
    exact ⟨v, after, (slotValue_of_value hread).mpr ⟨rfl, rfl, hcheck⟩, bind_of_eq_ok hothers⟩

/-- Where a list can be read, its items are those of the record, if they are not too many. -/
theorem recordItems_of_items (h : items (value depth) fuel first c = .ok (vs, between)) :
    (∃ here, recordItems depth slots first c = .ok (found, here) ∧ closeList here = .ok (u, c')) ↔
      (found = vs ∧ vs.length ≤ slots.length ∧
        ∀ given ∈ slots.zip vs, given.1.wanted.check given.2 = .ok ()) ∧
      closeList between = .ok (u, c') := by
  induction fuel generalizing c first vs slots found with
  | zero => cases h
  | succ fuel ih =>
      rcases items_eq_ok h with ⟨rfl, hhas⟩ | ⟨next, v, after, others, rfl, hhas, hread, hothers⟩
      · obtain ⟨stop, hnone, hclose⟩ := @recordItems_of_end _ _ depth slots _ hhas
        rw [hnone, ← hclose]
        constructor
        · rintro ⟨_, ⟨⟩, hend⟩
          exact ⟨⟨rfl, Nat.zero_le _, by simp⟩, hend⟩
        · rintro ⟨⟨rfl, -, -⟩, hend⟩
          exact ⟨stop, rfl, hend⟩
      cases slots with
      | nil =>
          -- An item is left over, so the list cannot be closed where the fields end.
          refine iff_of_false ?_ (fun h => Nat.not_succ_le_zero _ h.1.2.1)
          rintro ⟨here, hnone, hclose⟩
          obtain ⟨-, rfl⟩ := pure_eq_ok_iff.mp hnone
          exact closeList_ne_ok_of_hasItem hhas hclose
      | cons slot slots =>
          simp only [recordItems_of_next hhas hread]
          constructor
          · rintro ⟨here, ⟨hcheck, rest, hrest, rfl⟩, hclose⟩
            obtain ⟨⟨rfl, hlength, hchecks⟩, hend⟩ := (ih hothers).mp ⟨here, hrest, hclose⟩
            exact ⟨⟨rfl, Nat.succ_le_succ hlength,
              List.forall_mem_cons.mpr ⟨hcheck, hchecks⟩⟩, hend⟩
          · rintro ⟨⟨rfl, hlength, hchecks⟩, hend⟩
            obtain ⟨hcheck, hchecks⟩ := List.forall_mem_cons.mp hchecks
            obtain ⟨here, hitems, hclose⟩ :=
              (ih hothers).mpr ⟨⟨rfl, Nat.le_of_succ_le_succ hlength, hchecks⟩, hend⟩
            exact ⟨here, ⟨hcheck, others, hitems, rfl⟩, hclose⟩

end

section

variable {fuel : Nat} {fs seen found : List (String × Json)} {between here : Cursor}

variable {name : String} {after : Cursor} {slot : Slot}

theorem recordFields_of_none (h : NextField (value depth) first c after name v)
    (hslot : r.slot? name = none) :
    recordFields depth r (fuel + 1) first seen c = recordFields depth r fuel false seen after := by
  obtain ⟨hhas, hname, hcolon, hread⟩ := h
  rw [recordFields, bind_of_eq_ok hhas]
  simp only [if_true]
  rw [eat_bind, bind_of_eq_ok hname]
  simp only [hslot]
  rw [bind_of_eq_ok hcolon, bind_of_eq_ok (skipValue_of_value hread)]

theorem recordFields_of_seen (h : NextField (value depth) first c after name v)
    (hslot : r.slot? name = some slot) (hseen : name ∈ seen.map Prod.fst) :
    recordFields depth r (fuel + 1) first seen c ≠ .ok (.ok found, c') := by
  obtain ⟨hhas, hname, -⟩ := h
  rw [recordFields, bind_of_eq_ok hhas]
  simp only [if_true]
  rw [eat_bind, bind_of_eq_ok hname]
  simp only [hslot]
  rw [if_pos (by simpa using hseen)]
  exact fun hdone => by cases (pure_eq_ok_iff.mp hdone).1

theorem recordFields_of_some (h : NextField (value depth) first c after name v)
    (hslot : r.slot? name = some slot) (hseen : name ∉ seen.map Prod.fst) :
    recordFields depth r (fuel + 1) first seen c = .ok (.ok found, c') ↔
      slot.wanted.check v = .ok () ∧
        recordFields depth r fuel false (seen ++ [(name, v)]) after = .ok (.ok found, c') := by
  obtain ⟨hhas, hname, hcolon, hread⟩ := h
  rw [recordFields, bind_of_eq_ok hhas]
  simp only [if_true]
  rw [eat_bind, bind_of_eq_ok hname]
  simp only [hslot]
  rw [if_neg (by simpa using hseen), bind_of_eq_ok hcolon, bind_eq_ok_iff]
  constructor
  · rintro ⟨w, mid, hvalue, hfields⟩
    obtain ⟨rfl, rfl, hcheck⟩ := (slotValue_of_value hread).mp hvalue
    exact ⟨hcheck, hfields⟩
  · rintro ⟨hcheck, hfields⟩
    exact ⟨v, after, (slotValue_of_value hread).mpr ⟨rfl, rfl, hcheck⟩, hfields⟩

/-- Where an object can be read, its fields are those of the record, if none of them is repeated.
Both readers run on the same fuel and pass the fields of other names to the same place. -/
theorem recordFields_of_fields (h : fields (value depth) fuel first c = .ok (fs, between))
    (hseen : (seen.map Prod.fst).Nodup) :
    recordFields depth r fuel first seen c = .ok (.ok found, here) ↔
      (found = seen ++ (r.ofObject fs).fields ∧ (found.map Prod.fst).Nodup ∧
        r.checkAll (r.ofObject fs) = .ok ()) ∧ here = between := by
  rw [Record.checkAll_eq_ok_iff]
  induction fuel generalizing c first fs seen with
  | zero => cases h
  | succ fuel ih =>
      rcases fields_eq_ok h with ⟨rfl, hhas⟩ | ⟨name, v, after, others, rfl, hnext, hothers⟩
      · rw [recordFields, bind_of_eq_ok hhas]
        simp only [Bool.false_eq_true, if_false, pure_eq_ok_iff, Except.ok.injEq]
        constructor
        · rintro ⟨rfl, rfl⟩
          exact ⟨⟨(List.append_nil found).symm, hseen, by simp [Record.ofObject]⟩, rfl⟩
        · rintro ⟨⟨hfound, -⟩, rfl⟩
          exact ⟨hfound.trans (List.append_nil seen), rfl⟩
      cases hslot : r.slot? name with
      | none =>
          rw [recordFields_of_none hnext hslot, ih hothers hseen, Record.ofObject_cons_of_none hslot]
      | some slot =>
          rw [Record.ofObject_cons_of_some hslot]
          by_cases hrepeated : name ∈ seen.map Prod.fst
          · refine iff_of_false (recordFields_of_seen hnext hslot hrepeated) ?_
            rintro ⟨⟨rfl, hnodup, -⟩, -⟩
            rw [List.map_append, List.nodup_append] at hnodup
            exact hnodup.2.2 name hrepeated name (by simp) rfl
          · have hcheck : (∀ other, r.slot? name = some other → other.wanted.check v = .ok ()) ↔
                slot.wanted.check v = .ok () := by simp [hslot]
            rw [recordFields_of_some hnext hslot hrepeated,
              ih hothers (nodup_append_field hseen hrepeated), List.append_assoc,
              List.singleton_append, List.forall_mem_cons, hcheck]
            constructor
            · rintro ⟨hfirst, ⟨hfound, hnodup, hchecks⟩, hend⟩
              exact ⟨⟨hfound, hnodup, hfirst, hchecks⟩, hend⟩
            · rintro ⟨⟨hfound, hnodup, hfirst, hchecks⟩, hend⟩
              exact ⟨hfirst, ⟨hfound, hnodup, hchecks⟩, hend⟩

end

section

variable {build : Given → Except Fault α} {x : α} {rest : List Char} {place : Position}
  {here : Cursor}

theorem recorded_list_iff (hslots : (r.slots.map Slot.name).Nodup)
    (hstart : c.skipSpaces = ⟨'[' :: rest, place⟩)
    (h : listOf (value depth) ⟨'[' :: rest, place⟩ = .ok (v, here)) :
    Recorded depth r build c c' x ↔ (r.Once v ∧ r.decode build v = .ok x) ∧ c' = here := by
  rw [Record.decode_eq_ok_iff]
  obtain ⟨items, between, hitems, hclose, rfl⟩ := listOf_eq_ok_iff.mp h
  constructor
  · rintro (⟨hopen, hfound, hend, hbuild⟩ | ⟨hopen, -⟩)
    · cases hstart.symm.trans hopen
      obtain ⟨⟨rfl, hlength, hchecks⟩, hend⟩ := (recordItems_of_items hitems).mp ⟨_, hfound, hend⟩
      cases hend.symm.trans hclose
      exact ⟨⟨Record.once_array hslots, _, .list _ hlength,
        (Record.checkAll_ofList_eq_ok_iff hslots).mpr hchecks, hbuild⟩, rfl⟩
    · cases hstart.symm.trans hopen
  · rintro ⟨⟨-, _, ⟨⟩, hchecks, hbuild⟩, rfl⟩
    obtain ⟨stop, hfound, hend⟩ := (recordItems_of_items hitems).mpr
      ⟨⟨rfl, ‹_›, (Record.checkAll_ofList_eq_ok_iff hslots).mp hchecks⟩, hclose⟩
    exact .list hstart hfound hend hbuild

theorem recorded_object_iff (hstart : c.skipSpaces = ⟨'\x7b' :: rest, place⟩)
    (h : objectOf (value depth) ⟨'\x7b' :: rest, place⟩ = .ok (v, here)) :
    Recorded depth r build c c' x ↔ (r.Once v ∧ r.decode build v = .ok x) ∧ c' = here := by
  rw [Record.decode_eq_ok_iff]
  obtain ⟨fs, between, hfields, hclose, rfl⟩ := objectOf_eq_ok_iff.mp h
  have hnone : (([] : List (String × Json)).map Prod.fst).Nodup := List.nodup_nil
  constructor
  · rintro (⟨hopen, -⟩ | ⟨hopen, hfound, hend, hbuild⟩)
    · cases hstart.symm.trans hopen
    · cases hstart.symm.trans hopen
      obtain ⟨⟨rfl, hnodup, hchecks⟩, rfl⟩ := (recordFields_of_fields hfields hnone).mp hfound
      cases hend.symm.trans hclose
      rw [List.nil_append, Record.ofObject_ofObject] at hbuild
      refine ⟨⟨?_, _, .object fs, hchecks, hbuild⟩, rfl⟩
      rintro _ ⟨⟩
      exact hnodup
  · rintro ⟨⟨honce, _, ⟨⟩, hchecks, hbuild⟩, rfl⟩
    have hfound := (recordFields_of_fields hfields hnone).mpr
      ⟨⟨rfl, honce _ (.object fs), hchecks⟩, rfl⟩
    exact .object hstart hfound hclose (by rwa [List.nil_append, Record.ofObject_ofObject])

/-- Where a value can be read, it decides what a record is read as. -/
theorem record_of_value (hslots : (r.slots.map Slot.name).Nodup)
    (h : value (depth + 1) c = .ok (v, here)) :
    record depth r build c = .ok (x, c') ↔
      (r.Once v ∧ r.decode build v = .ok x) ∧ c' = here := by
  rw [record_eq_ok_iff]
  cases begins_of_valueWith h with
  | bare hhead hx hv _ =>
      refine iff_of_false ?_ ?_
      · rintro (⟨hopen, -⟩ | ⟨hopen, -⟩) <;>
        · rw [hopen, List.head?_cons, Option.some.injEq] at hhead
          simp [← hhead] at hx
      · rintro ⟨⟨-, hdecode⟩, -⟩
        obtain ⟨_, ⟨⟩, -⟩ := Record.decode_eq_ok_iff.mp hdecode <;> exact hv
  | string hstart hv _ =>
      refine iff_of_false ?_ ?_
      · rintro (⟨hopen, -⟩ | ⟨hopen, -⟩) <;> cases hstart.symm.trans hopen
      · rintro ⟨⟨-, hdecode⟩, -⟩
        obtain ⟨_, ⟨⟩, -⟩ := Record.decode_eq_ok_iff.mp hdecode <;> cases hv
  | list hstart hread => exact recorded_list_iff hslots hstart hread
  | object hstart hread => exact recorded_object_iff hstart hread

end

/-! ## Whole texts -/

theorem isText_of_read {read : Reader α} {text : List Char} {x : α}
    (hvalue : ∀ here, read (Cursor.start text) = .ok (x, here) →
      ∃ start, Blanks text start ∧ Value start here.rest)
    (h : ∃ here, read (Cursor.start text) = .ok (x, here) ∧ here.skipSpaces.rest = []) :
    IsText text := by
  obtain ⟨here, hread, hend⟩ := h
  obtain ⟨start, hgap, hstart⟩ := hvalue here hread
  exact .value hgap hstart (hend ▸ here.blanks_skipSpaces)

end Reader

variable {α : Type} {v : Json} {r : Record}

theorem isText_of_parseRaw {text : List Char} (h : parseRaw text = .ok v) : Grammar.IsText text :=
  Reader.isText_of_read (fun _ => Reader.value_of_value) (Reader.whole_eq_ok_iff.mp h)

theorem Record.isText_of_parse {build : Given → Except Fault α} {text : String} {x : α}
    (h : r.parse build text = .ok x) : Grammar.IsText text.toList :=
  Reader.isText_of_read (fun _ => Reader.value_of_record) (Reader.whole_eq_ok_iff.mp h)

/-- Where a text can be read as a value, the value decides what record is read from the text. -/
theorem Record.parse_eq_ok_iff {build : Given → Except Fault α} {text : String} {x : α}
    (hslots : (r.slots.map Slot.name).Nodup) (h : parseRaw text.toList = .ok v) :
    r.parse build text = .ok x ↔ r.Once v ∧ r.decode build v = .ok x := by
  obtain ⟨here, hvalue, hend⟩ := Reader.whole_eq_ok_iff.mp h
  -- A record counts as one level of depth, as its value does.
  have hrecord {c' : Cursor} : Reader.record (depthLimit - 1) r build (Cursor.start text.toList) =
      .ok (x, c') ↔ (r.Once v ∧ r.decode build v = .ok x) ∧ c' = here :=
    Reader.record_of_value hslots hvalue
  refine Reader.whole_eq_ok_iff.trans ?_
  constructor
  · rintro ⟨_, hread, -⟩
    exact (hrecord.mp hread).1
  · exact fun hdecode => ⟨here, hrecord.mpr ⟨hdecode, rfl⟩, hend⟩

end StakingGateway.Json
