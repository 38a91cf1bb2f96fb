import Mathlib.Tactic.SplitIfs
import StakingGateway.Json.Basic

/-!
# Sorted fields

Sorting the fields of an object keeps the last field of every name and loses no name, so a look-up
in the object finds what a look-up in the written fields finds.
-/

namespace StakingGateway.Json

def Sorted (fields : List (String × Json)) : Prop :=
  fields.Pairwise fun left right => left.1 < right.1

theorem mem_insertField {name : String} {value : Json} {fields : List (String × Json)}
    {field : String × Json} (h : field ∈ insertField name value fields) :
    field = (name, value) ∨ field ∈ fields := by
  induction fields with
  | nil => exact Or.inl (List.mem_singleton.mp h)
  | cons head rest ih =>
      obtain ⟨key, old⟩ := head
      unfold insertField at h
      split_ifs at h
      · exact List.mem_cons.mp h
      · rcases List.mem_cons.mp h with heq | hrest
        · exact Or.inl heq
        · exact Or.inr (List.mem_cons_of_mem _ hrest)
      · rcases List.mem_cons.mp h with heq | hrest
        · exact Or.inr (List.mem_cons.mpr (Or.inl heq))
        · exact (ih hrest).imp_right (List.mem_cons_of_mem _)

theorem sorted_insertField (name : String) (value : Json) {fields : List (String × Json)}
    (h : Sorted fields) : Sorted (insertField name value fields) := by
  induction fields with
  | nil => exact List.pairwise_singleton _ _
  | cons head rest ih =>
      obtain ⟨key, old⟩ := head
      obtain ⟨hhead, hrest⟩ := List.pairwise_cons.mp h
      unfold insertField
      split_ifs with hlt heq
      · refine List.pairwise_cons.mpr ⟨fun field hfield => ?_, h⟩
        rcases List.mem_cons.mp hfield with rfl | hmem
        · exact hlt
        · exact String.lt_trans hlt (hhead field hmem)
      · subst heq
        exact List.pairwise_cons.mpr ⟨hhead, hrest⟩
      · refine List.pairwise_cons.mpr ⟨fun field hfield => ?_, ih hrest⟩
        rcases mem_insertField hfield with rfl | hmem
        · exact Std.lt_of_le_of_ne hlt (Ne.symm heq)
        · exact hhead field hmem

theorem lookup_insertField_of_ne {key name : String} (value : Json)
    (fields : List (String × Json)) (h : key ≠ name) :
    lookup key (insertField name value fields) = lookup key fields := by
  induction fields with
  | nil => simp [insertField, lookup, h.symm]
  | cons head rest ih =>
      obtain ⟨other, old⟩ := head
      unfold insertField
      split_ifs with hlt heq
      · simp [lookup, h.symm]
      · subst heq
        simp [lookup, h.symm]
      · simp only [lookup, ih]

theorem lookup_insertField (key name : String) (value : Json) {fields : List (String × Json)}
    (h : Sorted fields) :
    lookup key (insertField name value fields) =
      if name = key then some value else lookup key fields := by
  split_ifs with heq
  · subst heq
    exact lookup_insertField_self name value fields h
  · exact lookup_insertField_of_ne value fields (Ne.symm heq)

/-- Fields that are put in one after the other: the last one of a name counts, and before them all
what was there already. -/
theorem lookup_foldl_insertField (key : String) (fields sorted : List (String × Json))
    (h : Sorted sorted) :
    lookup key (fields.foldl (fun sorted field => insertField field.1 field.2 sorted) sorted) =
      (lookup key fields).or (lookup key sorted) := by
  induction fields generalizing sorted with
  | nil => rfl
  | cons field rest ih =>
      rw [List.foldl_cons, ih _ (sorted_insertField _ _ h), lookup_insertField _ _ _ h, lookup]
      cases lookup key rest with
      | some value => rfl
      | none => split_ifs <;> rfl

theorem lookup_sortFields (key : String) (fields : List (String × Json)) :
    lookup key (sortFields fields) = lookup key fields := by
  rw [sortFields, lookup_foldl_insertField key fields [] List.Pairwise.nil]
  exact Option.or_none

@[simp]
theorem get?_obj (key : String) (fields : List (String × Json)) :
    (obj fields).get? key = lookup key fields :=
  lookup_sortFields key fields

theorem lookup_eq_none {fields : List (String × Json)} {key : String}
    (h : key ∉ fields.map Prod.fst) : lookup key fields = none := by
  induction fields with
  | nil => rfl
  | cons field rest ih =>
      obtain ⟨hhead, hrest⟩ := List.ne_and_not_mem_of_not_mem_cons h
      simp [lookup, ih hrest, Ne.symm hhead]

theorem lookup_append (key : String) (before after : List (String × Json)) :
    lookup key (before ++ after) = (lookup key after).or (lookup key before) := by
  induction before with
  | nil => exact Option.or_none.symm
  | cons field rest ih => rw [List.cons_append, lookup, ih, lookup, Option.or_assoc]

theorem lookup_eq_some_of_mem {fields : List (String × Json)} {field : String × Json}
    (h : (fields.map Prod.fst).Nodup) (hmem : field ∈ fields) :
    lookup field.1 fields = some field.2 := by
  induction fields with
  | nil => cases hmem
  | cons head rest ih =>
      obtain ⟨hhead, hrest⟩ := List.nodup_cons.mp h
      rcases List.mem_cons.mp hmem with rfl | hmem
      · simp [lookup, lookup_eq_none hhead]
      · rw [lookup, ih hrest hmem, Option.some_or]

theorem nodup_append_field {fields : List (String × Json)} {name : String} {value : Json}
    (h : (fields.map Prod.fst).Nodup) (hname : name ∉ fields.map Prod.fst) :
    ((fields ++ [(name, value)]).map Prod.fst).Nodup := by
  rw [List.map_append, List.nodup_append]
  refine ⟨h, by simp, ?_⟩
  rintro _ hmem _ hlast rfl
  obtain rfl := List.mem_singleton.mp hlast
  exact hname hmem

theorem Sorted.nodup {fields : List (String × Json)} (h : Sorted fields) :
    (fields.map Prod.fst).Nodup := by
  refine List.pairwise_map.mpr (h.imp fun hlt heq => ?_)
  rw [heq] at hlt
  exact String.lt_irrefl _ hlt

theorem mem_of_lookup_eq_some {fields : List (String × Json)} {name : String} {value : Json}
    (h : lookup name fields = some value) : (name, value) ∈ fields := by
  induction fields with
  | nil => cases h
  | cons head rest ih =>
      rw [lookup] at h
      cases hrest : lookup name rest with
      | some other =>
          rw [hrest, Option.some_or] at h
          exact List.mem_cons_of_mem _ (ih (hrest.trans h))
      | none =>
          rw [hrest, Option.none_or] at h
          split at h
          next hname =>
              obtain rfl := Option.some.inj h
              exact List.mem_cons.mpr (Or.inl (by rw [← hname]))
          next => cases h

theorem sorted_sortFields (fields : List (String × Json)) : Sorted (sortFields fields) := by
  have hfold : ∀ sorted : List (String × Json), Sorted sorted →
      Sorted (fields.foldl (fun sorted field => insertField field.1 field.2 sorted) sorted) := by
    induction fields with
    | nil => exact fun _ h => h
    | cons field rest ih => exact fun _ h => ih _ (sorted_insertField _ _ h)
  exact hfold [] List.Pairwise.nil

end StakingGateway.Json
