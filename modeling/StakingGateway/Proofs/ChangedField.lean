import Mathlib.Data.List.Nodup
import StakingGateway.Proofs.ExactValidation

/-!
# One field changes

Two sets of arguments that differ in the value of one field, where both values are of its kind, are
both accepted or both refused. What is accepted differs in that field alone, and what is reported
does not differ at all: an issue tells of a parameter that it is missing or misfit, and nothing of
what was given.
-/

namespace StakingGateway

namespace Json

def setField (fields : List (String × Json)) (name : String) (value : Json) : Json :=
  .obj (fields ++ [(name, value)])

theorem get?_setField (fields : List (String × Json)) (name key : String) (value : Json) :
    (setField fields name value).get? key = if name = key then some value else lookup key fields := by
  rw [setField, get?_obj, lookup_append, lookup, lookup, Option.none_or]
  split_ifs <;> rfl

def hideField (name : String) (field : String × Json) : String × Json :=
  (field.1, if field.1 = name then .null else field.2)

variable {name key : String}

theorem map_hideField_insertField (name : String) (field : String × Json)
    (fields : List (String × Json)) :
    (insertField field.1 field.2 fields).map (hideField name) =
      insertField (hideField name field).1 (hideField name field).2
        (fields.map (hideField name)) := by
  induction fields with
  | nil => rfl
  | cons head rest ih =>
      obtain ⟨key, old⟩ := head
      -- Names are what fields are put in order by, and they are not hidden.
      have hinsert : insertField (hideField name field).1 (hideField name field).2
            (((key, old) :: rest).map (hideField name)) =
          if field.1 < key then
            hideField name field :: hideField name (key, old) :: rest.map (hideField name)
          else if field.1 = key then hideField name field :: rest.map (hideField name)
          else hideField name (key, old) ::
            insertField (hideField name field).1 (hideField name field).2
              (rest.map (hideField name)) := rfl
      rw [hinsert, ← ih, insertField]
      split_ifs <;> rfl

theorem map_hideField_sortFields (name : String) (fields : List (String × Json)) :
    (sortFields fields).map (hideField name) = sortFields (fields.map (hideField name)) := by
  have hfold : ∀ sorted : List (String × Json),
      (fields.foldl (fun sorted field => insertField field.1 field.2 sorted) sorted).map
          (hideField name) =
        (fields.map (hideField name)).foldl
          (fun sorted field => insertField field.1 field.2 sorted)
          (sorted.map (hideField name)) := by
    induction fields with
    | nil => exact fun _ => rfl
    | cons field rest ih =>
        intro sorted
        rw [List.foldl_cons, ih, map_hideField_insertField, List.map_cons, List.foldl_cons]
  exact hfold []

theorem lookup_map_hideField (h : key ≠ name) (fields : List (String × Json)) :
    lookup key (fields.map (hideField name)) = lookup key fields := by
  induction fields with
  | nil => rfl
  | cons field rest ih =>
      rw [List.map_cons, hideField, lookup, lookup, ih]
      by_cases hkey : field.1 = key
      · rw [if_neg fun hname => h (hkey.symm.trans hname)]
      · rw [if_neg hkey, if_neg hkey]

end Json

namespace Tool

open Json

variable {params : List Param} {left right : Json}

/-- Issues tell of each parameter whether it is faulty, and in which of the two ways. -/
theorem issuesOf_congr
    (h : ∀ p ∈ params, ∀ problem, p.Faulty left problem ↔ p.Faulty right problem) :
    issuesOf params left = issuesOf params right := by
  refine List.filterMap_congr fun p hp => ?_
  have hreject : ∀ problem, p.judge (p.givenIn left) = .reject problem ↔
      p.judge (p.givenIn right) = .reject problem := by
    simpa only [Param.judge_eq_reject_iff] using h p hp
  cases hjudge : p.judge (p.givenIn left) with
  | reject problem => rw [(hreject problem).mp hjudge]
  | keep | absent =>
      cases hother : p.judge (p.givenIn right) with
      | reject problem =>
          rw [(hreject problem).mpr hother] at hjudge
          cases hjudge
      | keep | absent => rfl

inductive DifferIn (name : String) : Except (List Issue) Args → Except (List Issue) Args → Prop
  | refused (issues : List Issue) : DifferIn name (.error issues) (.error issues)
  | accepted {left right : Args}
      (h : left.fields.map (hideField name) = right.fields.map (hideField name)) :
      DifferIn name (.ok left) (.ok right)

theorem ParamKind.ne_null_of_accepts {kind : ParamKind} {value : Json}
    (h : kind.accepts value = true) : value ≠ .null := by
  rintro rfl
  cases kind <;> cases h

theorem Param.judge_of_accepts {p : Param} {args value : Json}
    (hget : args.get? p.name = some value) (h : p.kind.accepts value = true) :
    p.judge (p.givenIn args) = .keep value := by
  rw [givenIn, hget, ofOption, p.judge_of_ne_null (ParamKind.ne_null_of_accepts h), if_pos h]

theorem holdsFields_of_get? {args value : Json} {name : String} (h : args.get? name = some value) :
    args.HoldsFields := by
  cases args with
  | object fields => exact Or.inr ⟨fields, rfl⟩
  | null | bool _ | number _ | string _ | array _ => cases h

/-- What is given and is of its kind is what is accepted. -/
theorem get?_of_accepts {args value : Json} {accepted : Args}
    (h : validate params args = .ok accepted) (hnames : (params.map (·.name)).Nodup) {p : Param}
    (hp : p ∈ params) (hget : args.get? p.name = some value)
    (haccepts : p.kind.accepts value = true) : accepted.get? p.name = some value := by
  rw [get?_of_validate h hnames hp, Param.judge_of_accepts hget haccepts]
  rfl

/-- Of arguments that differ in one field, with values of its kind, the same is reported. -/
theorem differIn_validate (hnames : (params.map (·.name)).Nodup) {p : Param} (hp : p ∈ params)
    {first second : Json} (hleft : left.get? p.name = some first)
    (hright : right.get? p.name = some second) (hfirst : p.kind.accepts first = true)
    (hsecond : p.kind.accepts second = true)
    (hothers : ∀ name ≠ p.name, left.get? name = right.get? name) :
    DifferIn p.name (validate params left) (validate params right) := by
  have hjudge : ∀ q ∈ params, q.name ≠ p.name →
      q.judge (q.givenIn left) = q.judge (q.givenIn right) := by
    intro q _ hname
    rw [Param.givenIn, Param.givenIn, hothers q.name hname]
  have hkeepLeft := Param.judge_of_accepts hleft hfirst
  have hkeepRight := Param.judge_of_accepts hright hsecond
  have hissues : issuesOf params left = issuesOf params right := by
    refine List.filterMap_congr fun q hq => ?_
    by_cases hname : q.name = p.name
    · obtain rfl := List.inj_on_of_nodup_map hnames hq hp hname
      rw [hkeepLeft, hkeepRight]
      rfl
    · rw [hjudge q hq hname]
  have hkept : (params.filterMap fun q => (q.judge (q.givenIn left)).kept? q.name).map
        (hideField p.name) =
      (params.filterMap fun q => (q.judge (q.givenIn right)).kept? q.name).map
        (hideField p.name) := by
    rw [List.map_filterMap, List.map_filterMap]
    refine List.filterMap_congr fun q hq => ?_
    by_cases hname : q.name = p.name
    · obtain rfl := List.inj_on_of_nodup_map hnames hq hp hname
      rw [hkeepLeft, hkeepRight]
      simp [Verdict.kept?, hideField]
    · rw [hjudge q hq hname]
  rw [validate_of_holdsFields (holdsFields_of_get? hleft),
    validate_of_holdsFields (holdsFields_of_get? hright), hissues]
  split_ifs
  · refine .accepted ?_
    rw [map_hideField_sortFields, map_hideField_sortFields, hkept]
  · exact .refused _

end Tool

end StakingGateway
