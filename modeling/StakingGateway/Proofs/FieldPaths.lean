import StakingGateway.Proofs.Fields

/-!
# Values at paths

A path leads from an object through its fields to a value. Two values agree beside some paths when
every path apart from these leads to the same in both.
-/

namespace StakingGateway.Json

abbrev Path := List String

def at? (value : Json) : Path → Option Json
  | [] => some value
  | name :: rest => (value.get? name).bind fun field => field.at? rest

def Apart (left right : Path) : Prop := ¬ left <+: right ∧ ¬ right <+: left

theorem Apart.append_singleton {left right : Path} (h : Apart left right) (name : String) :
    Apart left (right ++ [name]) := by
  constructor
  · intro hprefix
    rcases List.prefix_concat_iff.mp hprefix with rfl | hshort
    · exact h.2 (List.prefix_append right [name])
    · exact h.1 hshort
  · exact fun hprefix => h.2 ((List.prefix_append right [name]).trans hprefix)

def AgreeBeside (paths : List Path) (place : Path) (left right : Json) : Prop :=
  ∀ path, (∀ changed ∈ paths, Apart changed (place ++ path)) → left.at? path = right.at? path

variable {paths : List Path} {place : Path} {left right : Json}

theorem agreeBeside_refl (value : Json) : AgreeBeside paths place value value := fun _ _ => rfl

theorem agreeBeside_of_mem (h : place ∈ paths) : AgreeBeside paths place left right :=
  fun path hapart => absurd (List.prefix_append place path) (hapart place h).1

theorem AgreeBeside.eq (h : AgreeBeside paths place left right)
    (hapart : ∀ changed ∈ paths, Apart changed place) : left = right := by
  have hsame : some left = some right := h [] (by rwa [List.append_nil])
  exact Option.some.inj hsame

inductive FieldsAgree (paths : List Path) (place : Path) :
    List (String × Json) → List (String × Json) → Prop
  | nil : FieldsAgree paths place [] []
  | cons {name : String} {left right : Json} {lefts rights : List (String × Json)}
      (hvalue : AgreeBeside paths (place ++ [name]) left right)
      (hrest : FieldsAgree paths place lefts rights) :
      FieldsAgree paths place ((name, left) :: lefts) ((name, right) :: rights)

variable {lefts rights : List (String × Json)}

theorem FieldsAgree.eq (h : FieldsAgree paths place lefts rights)
    (hapart : ∀ changed ∈ paths, Apart changed place) : lefts = rights := by
  induction h with
  | nil => rfl
  | cons hvalue _ ih =>
      rw [ih, hvalue.eq fun changed hchanged => (hapart changed hchanged).append_singleton _]

/-- A name stands in both lists of fields for values that agree, or in neither. -/
theorem FieldsAgree.lookup (h : FieldsAgree paths place lefts rights) (name : String) :
    Option.Rel (AgreeBeside paths (place ++ [name])) (Json.lookup name lefts)
      (Json.lookup name rights) := by
  induction h with
  | nil => exact .none
  | @cons key left right lefts rights hvalue _ ih =>
      unfold Json.lookup
      generalize Json.lookup name lefts = later, Json.lookup name rights = laterRight at ih ⊢
      cases ih with
      | some hrest => exact .some hrest
      | none =>
          by_cases hkey : key = name
          · rw [if_pos hkey, if_pos hkey]
            subst hkey
            exact .some hvalue
          · rw [if_neg hkey, if_neg hkey]
            exact .none

theorem agreeBeside_obj (h : FieldsAgree paths place lefts rights) :
    AgreeBeside paths place (.obj lefts) (.obj rights) := by
  intro path hapart
  cases path with
  | nil =>
      rw [List.append_nil] at hapart
      rw [h.eq hapart]
  | cons name rest =>
      have hlookup := h.lookup name
      rw [at?, at?, get?_obj, get?_obj]
      generalize Json.lookup name lefts = left, Json.lookup name rights = right at hlookup ⊢
      cases hlookup with
      | none => rfl
      | some hvalue =>
          refine hvalue rest ?_
          rwa [List.append_assoc, List.singleton_append]

end StakingGateway.Json
