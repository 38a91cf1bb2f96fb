import Mathlib.Data.List.Nodup
import StakingGateway.Json.Record
import StakingGateway.Proofs.Fields

/-!
# Records as values

A value is read as a record in two forms, as an object and as a list. What such a value gives for
the fields is checked field by field and then put together. Where no name of the record is repeated,
all that counts of an object is what a look-up finds.
-/

namespace StakingGateway.Json

section Except

variable {ε α β : Type} {x : Except ε α} {f : α → Except ε β} {y : β} {l : List α}
  {check : α → Except ε Unit}

theorem bind_eq_ok : (x >>= f) = .ok y ↔ ∃ a, x = .ok a ∧ f a = .ok y := by
  cases x <;> simp [bind, Except.bind]

theorem listForM_eq_ok : l.forM check = .ok () ↔ ∀ a ∈ l, check a = .ok () := by
  induction l with
  | nil => simp [List.forM, pure, Except.pure]
  | cons a rest ih =>
      change (check a >>= fun _ => rest.forM check) = _ ↔ _
      rw [bind_eq_ok, List.forall_mem_cons, ih]
      exact ⟨fun ⟨_, hfirst, hrest⟩ => ⟨hfirst, hrest⟩, fun ⟨hfirst, hrest⟩ => ⟨_, hfirst, hrest⟩⟩

end Except

variable {α : Type} {r : Record} {fields : List (String × Json)} {items : List Json} {v : Json}

/-! ## Checks of single fields -/

@[simp]
theorem check_text : Wanted.text.check v = .ok () ↔ ∃ text, v = .string text := by
  cases v <;> simp [Wanted.check]

@[simp]
theorem check_truth : Wanted.truth.check v = .ok () ↔ ∃ truth, v = .bool truth := by
  cases v <;> simp [Wanted.check]

@[simp]
theorem check_any : Wanted.any.check v = .ok () := rfl

section Given

variable {given : Given} {name : String}

theorem Given.text_eq_ok_iff {text : String} :
    given.text name = .ok text ↔ given.get? name = some (.string text) := by
  unfold Given.text
  rcases given.get? name with _ | _ | _ | _ | _ | _ | _ <;> simp

theorem Given.truth_eq_ok_iff {truth : Bool} :
    given.truth name = .ok truth ↔ given.get? name = some (.bool truth) := by
  unfold Given.truth
  rcases given.get? name with _ | _ | _ | _ | _ | _ | _ <;> simp

end Given

namespace Record

theorem checkAll_eq_ok_iff {given : Given} : r.checkAll given = .ok () ↔
    ∀ field ∈ given.fields, ∀ slot, r.slot? field.1 = some slot →
      slot.wanted.check field.2 = .ok () := by
  rw [checkAll, listForM_eq_ok]
  refine forall₂_congr fun field _ => ?_
  cases hslot : r.slot? field.1 <;> simp [hslot]

/-! ## The two forms -/

/-- What a value gives for the fields of a record. A list may not be longer than the record. -/
inductive Gives (r : Record) : Json → Given → Prop
  | object (fields : List (String × Json)) : r.Gives (.object fields) (r.ofObject fields)
  | list (items : List Json) (hlength : items.length ≤ r.slots.length) :
      r.Gives (.array items) (r.ofList items)

theorem decode_eq_ok_iff {build : Given → Except Fault α} {x : α} :
    r.decode build v = .ok x ↔
      ∃ given, r.Gives v given ∧ r.checkAll given = .ok () ∧ build given = .ok x := by
  cases v with
  | object fields =>
      simp only [decode, bind_eq_ok]
      constructor
      · exact fun ⟨_, hcheck, hbuild⟩ => ⟨_, .object fields, hcheck, hbuild⟩
      · rintro ⟨_, ⟨⟩, hcheck, hbuild⟩
        exact ⟨_, hcheck, hbuild⟩
  | array items =>
      simp only [decode, bind_eq_ok]
      constructor
      · rintro ⟨_, hcheck, result, hbuild, h⟩
        split_ifs at h with hlong
        · cases h
        · obtain rfl : result = x := Except.ok.inj h
          exact ⟨_, .list items (Nat.not_lt.mp hlong), hcheck, hbuild⟩
      · rintro ⟨_, hgives, hcheck, hbuild⟩
        cases hgives with
        | list _ hlength =>
            refine ⟨_, hcheck, x, hbuild, ?_⟩
            rw [if_neg (Nat.not_lt.mpr hlength)]
            rfl
  | _ =>
      refine iff_of_false (fun h => by cases h) ?_
      rintro ⟨_, ⟨⟩, _⟩

theorem slot?_isSome_iff {name : String} :
    (r.slot? name).isSome ↔ name ∈ r.slots.map Slot.name := by
  simp [slot?, List.find?_isSome]

theorem slot?_of_mem (hslots : (r.slots.map Slot.name).Nodup) {slot : Slot} (h : slot ∈ r.slots) :
    r.slot? slot.name = some slot := by
  have hsome := slot?_isSome_iff.mpr (List.mem_map_of_mem (f := Slot.name) h)
  obtain ⟨found, hfound⟩ := Option.isSome_iff_exists.mp hsome
  have hname : found.name = slot.name := by simpa using List.find?_some hfound
  rw [hfound, List.inj_on_of_nodup_map hslots (List.mem_of_find?_eq_some hfound) h hname]

theorem ofObject_cons_of_none {field : String × Json} (h : r.slot? field.1 = none) :
    (r.ofObject (field :: fields)).fields = (r.ofObject fields).fields := by
  simp [ofObject, h]

theorem ofObject_cons_of_some {field : String × Json} {slot : Slot}
    (h : r.slot? field.1 = some slot) :
    (r.ofObject (field :: fields)).fields = field :: (r.ofObject fields).fields := by
  simp [ofObject, h]

theorem ofObject_ofObject : r.ofObject (r.ofObject fields).fields = r.ofObject fields := by
  simp [ofObject]

theorem get?_ofObject {name : String} (h : name ∈ r.slots.map Slot.name) :
    (r.ofObject fields).get? name = lookup name fields := by
  have hknown : (r.slot? name).isSome := slot?_isSome_iff.mpr h
  unfold Given.get? ofObject
  induction fields with
  | nil => rfl
  | cons field rest ih =>
      rw [List.filter_cons]
      split_ifs with hfield
      · rw [lookup, lookup, ih]
      · have hother : field.1 ≠ name := by
          rintro rfl
          exact hfield hknown
        rw [ih, lookup, if_neg hother, Option.or_none]

theorem map_fst_zip_sublist (names : List String) (items : List Json) :
    ((names.zip items).map Prod.fst).Sublist names := by
  induction names generalizing items with
  | nil => exact List.Sublist.refl []
  | cons name rest ih =>
      cases items with
      | nil => exact List.nil_sublist _
      | cons item others => exact (ih others).cons_cons name

theorem lookup_zip {names : List String} {name : String} {i : Nat} (hnames : names.Nodup)
    (h : names[i]? = some name) : lookup name (names.zip items) = items[i]? := by
  induction names generalizing items i with
  | nil => cases h
  | cons first rest ih =>
      obtain ⟨hfirst, hrest⟩ := List.nodup_cons.mp hnames
      cases items with
      | nil => rfl
      | cons item others =>
          cases i with
          | zero =>
              obtain rfl : first = name := Option.some.inj h
              have hnone : lookup first (rest.zip others) = none :=
                lookup_eq_none fun hmem => hfirst ((map_fst_zip_sublist rest others).subset hmem)
              rw [List.zip_cons_cons, lookup, hnone, if_pos rfl]
              rfl
          | succ i =>
              have hne : first ≠ name := fun heq => hfirst (heq ▸ List.mem_of_getElem? h)
              rw [List.zip_cons_cons, lookup, ih hrest h, if_neg hne, Option.or_none]
              rfl

theorem eq_of_getElem?_three {a b c : Json} (hlength : items.length ≤ 3)
    (hfirst : items[0]? = some a) (hsecond : items[1]? = some b) (hthird : items[2]? = some c) :
    items = [a, b, c] := by
  apply List.ext_getElem?
  intro i
  match i with
  | 0 => exact hfirst
  | 1 => exact hsecond
  | 2 => exact hthird
  | i + 3 => exact List.getElem?_eq_none (Nat.le_trans hlength (Nat.le_add_left 3 i))

/-- A list gives the fields in the order of the record. -/
theorem get?_ofList (hslots : (r.slots.map Slot.name).Nodup) {name : String} {i : Nat}
    (h : (r.slots.map Slot.name)[i]? = some name) : (r.ofList items).get? name = items[i]? :=
  lookup_zip hslots h

theorem checkAll_ofList_eq_ok_iff (hslots : (r.slots.map Slot.name).Nodup) :
    r.checkAll (r.ofList items) = .ok () ↔
      ∀ given ∈ r.slots.zip items, given.1.wanted.check given.2 = .ok () := by
  rw [checkAll_eq_ok_iff, ofList, List.zip_map_left]
  simp only [List.forall_mem_map]
  refine forall₂_congr fun given hgiven => ?_
  have hslot := slot?_of_mem hslots (List.of_mem_zip hgiven).1
  simp [hslot]

def Once (r : Record) (v : Json) : Prop :=
  ∀ given, r.Gives v given → (given.fields.map Prod.fst).Nodup

/-- Where no name comes twice, it is enough to look at what each name finds. -/
theorem Once.checkAll_eq_ok {given : Given} (h : r.Once v) (hgives : r.Gives v given)
    (hchecks : ∀ slot ∈ r.slots, ∀ value, given.get? slot.name = some value →
      slot.wanted.check value = .ok ()) : r.checkAll given = .ok () := by
  rw [checkAll_eq_ok_iff]
  intro field hfield slot hslot
  have hname : slot.name = field.1 := by simpa using List.find?_some hslot
  refine hchecks slot (List.mem_of_find?_eq_some hslot) field.2 ?_
  rw [hname]
  exact lookup_eq_some_of_mem (h given hgives) hfield

theorem once_object_iff : r.Once (.object fields) ↔
    ((fields.map Prod.fst).filter (· ∈ r.slots.map Slot.name)).Nodup := by
  have hnames : (r.ofObject fields).fields.map Prod.fst =
      (fields.map Prod.fst).filter (· ∈ r.slots.map Slot.name) := by
    rw [List.filter_map, ofObject]
    refine congrArg _ (List.filter_congr fun field _ => ?_)
    rw [Bool.eq_iff_iff, slot?_isSome_iff, Function.comp_apply, decide_eq_true_iff]
  rw [← hnames]
  constructor
  · exact fun h => h _ (.object fields)
  · rintro h _ ⟨⟩
    exact h

theorem once_of_nodup (h : (fields.map Prod.fst).Nodup) : r.Once (.object fields) := by
  rintro _ ⟨⟩
  exact h.sublist (List.filter_sublist.map _)

theorem once_of_sorted (h : Sorted fields) : r.Once (.object fields) := once_of_nodup h.nodup

theorem once_array (h : (r.slots.map Slot.name).Nodup) : r.Once (.array items) := by
  rintro _ ⟨⟩
  refine h.sublist ?_
  exact map_fst_zip_sublist _ _

end Record

end StakingGateway.Json
