import Mathlib.Data.List.Basic
import StakingGateway.Operation.Stake
import StakingGateway.Proofs.Validation

/-!
# Exact validation

Validation answers for every declared parameter and for nothing else. The faults of the parameters
and the values that they hold are said here from what is given under their names; the answer of
validation is then fixed for all arguments, by the faults where there is one and else by the values.
-/

namespace StakingGateway

namespace Json

def HoldsFields (args : Json) : Prop :=
  args = .null ∨ ∃ fields, args = .object fields

end Json

namespace Tool

variable {params : List Param} {args : Json}

inductive Param.Faulty (p : Param) (args : Json) : String → Prop
  | missing (hgiven : givenValue args p.name = none) (hrequired : p.required = true)
      (hdefault : p.default = none) : p.Faulty args "is required"
  | misfit {value : Json} (hgiven : givenValue args p.name = some value)
      (hkind : p.kind.accepts value = false) : p.Faulty args ("must be " ++ p.kind.expected)

/-- The value that a parameter holds: the given one, else its default. -/
inductive Param.Holds (p : Param) (args : Json) : Json → Prop
  | given {value : Json} (hgiven : givenValue args p.name = some value) : p.Holds args value
  | default {value : Json} (hgiven : givenValue args p.name = none)
      (hdefault : p.default = some value) : p.Holds args value

/-- One issue for each faulty parameter, in the order of the declarations. -/
inductive Issues (args : Json) : List Param → List Issue → Prop
  | nil : Issues args [] []
  | sound {p : Param} {params : List Param} {issues : List Issue}
      (hsound : ∀ problem, ¬ p.Faulty args problem) (hrest : Issues args params issues) :
      Issues args (p :: params) issues
  | faulty {p : Param} {params : List Param} {issues : List Issue} {problem : String}
      (hfaulty : p.Faulty args problem) (hrest : Issues args params issues) :
      Issues args (p :: params) (⟨p.name, problem⟩ :: issues)

theorem Param.givenIn_of_some {p : Param} {value : Json}
    (h : givenValue args p.name = some value) : p.givenIn args = value ∧ value ≠ .null := by
  obtain ⟨hget, hne⟩ := givenValue_eq_some h
  exact ⟨by rw [givenIn, hget, Json.ofOption], hne⟩

theorem Param.judge_eq_reject_iff {p : Param} {problem : String} :
    p.judge (p.givenIn args) = .reject problem ↔ p.Faulty args problem := by
  cases hgiven : givenValue args p.name with
  | none =>
      rw [givenIn_of_none hgiven, judge]
      constructor
      · intro h
        cases hdefault : p.default with
        | some value => simp [hdefault] at h
        | none =>
            by_cases hrequired : p.required = true
            · obtain rfl : "is required" = problem := by simpa [hdefault, hrequired] using h
              exact .missing hgiven hrequired hdefault
            · simp [hdefault, hrequired] at h
      · rintro (⟨-, hrequired, hdefault⟩ | ⟨hsome, -⟩)
        · simp [hrequired, hdefault]
        · rw [hgiven] at hsome
          cases hsome
  | some value =>
      obtain ⟨hvalue, hne⟩ := givenIn_of_some hgiven
      rw [hvalue, p.judge_of_ne_null hne]
      constructor
      · intro h
        by_cases hkind : p.kind.accepts value = true
        · simp [hkind] at h
        · rw [if_neg hkind] at h
          rw [← Verdict.reject.inj h]
          exact .misfit hgiven (Bool.eq_false_iff.mpr hkind)
      · rintro (⟨hnone, -, -⟩ | ⟨hsome, hkind⟩)
        · rw [hgiven] at hnone
          cases hnone
        · obtain rfl := Option.some.inj (hgiven.symm.trans hsome)
          rw [hkind]
          rfl

theorem Param.value?_judge_iff {p : Param} {value : Json}
    (hsound : ∀ problem, ¬ p.Faulty args problem) :
    (p.judge (p.givenIn args)).value? = some value ↔ p.Holds args value := by
  cases hgiven : givenValue args p.name with
  | none =>
      have hvalue : (p.judge .null).value? = p.default := by
        rw [judge]
        cases p.default with
        | some value => rfl
        | none => cases p.required <;> rfl
      rw [givenIn_of_none hgiven, hvalue]
      constructor
      · exact fun h => .default hgiven h
      · rintro (hsome | ⟨-, hdefault⟩)
        · rw [hgiven] at hsome
          cases hsome
        · exact hdefault
  | some given =>
      obtain ⟨hvalue, hne⟩ := givenIn_of_some hgiven
      have hkind : p.kind.accepts given = true := by
        cases hkind : p.kind.accepts given with
        | true => rfl
        | false => exact absurd (.misfit hgiven hkind) (hsound _)
      rw [hvalue, p.judge_of_ne_null hne, if_pos hkind]
      constructor
      · intro h
        rw [← Option.some.inj h]
        exact .given hgiven
      · rintro (hsome | ⟨hnone, -⟩)
        · exact hgiven.symm.trans hsome
        · rw [hgiven] at hnone
          cases hnone

def issuesOf (params : List Param) (args : Json) : List Issue :=
  params.filterMap fun p => (p.judge (p.givenIn args)).issue? p.name

theorem issues_issuesOf (params : List Param) (args : Json) :
    Issues args params (issuesOf params args) := by
  induction params with
  | nil => exact .nil
  | cons p params ih =>
      rw [issuesOf, List.filterMap_cons]
      cases hjudge : p.judge (p.givenIn args) with
      | reject problem => exact .faulty (Param.judge_eq_reject_iff.mp hjudge) ih
      | keep value =>
          refine .sound (fun problem hfaulty => ?_) ih
          rw [Param.judge_eq_reject_iff.mpr hfaulty] at hjudge
          cases hjudge
      | absent =>
          refine .sound (fun problem hfaulty => ?_) ih
          rw [Param.judge_eq_reject_iff.mpr hfaulty] at hjudge
          cases hjudge

theorem issuesOf_eq_nil_iff :
    issuesOf params args = [] ↔ ∀ p ∈ params, ∀ problem, ¬ p.Faulty args problem := by
  rw [issuesOf, List.filterMap_eq_nil_iff]
  refine forall₂_congr fun p _ => ?_
  simp only [← Param.judge_eq_reject_iff]
  cases p.judge (p.givenIn args) <;> simp [Verdict.issue?]

/-- Fields are judged by what is given under the declared names. -/
theorem validate_of_holdsFields (h : args.HoldsFields) :
    validate params args =
      if issuesOf params args = [] then
        .ok ⟨Json.sortFields
          (params.filterMap fun p => (p.judge (p.givenIn args)).kept? p.name)⟩
      else .error (issuesOf params args) := by
  have hfields : ∀ fields : List (String × Json),
      (∀ p : Param, p.given fields = p.givenIn args) →
      validateFields params fields =
        if issuesOf params args = [] then
          .ok ⟨Json.sortFields
            (params.filterMap fun p => (p.judge (p.givenIn args)).kept? p.name)⟩
        else .error (issuesOf params args) := by
    intro fields hgiven
    simp only [validateFields, hgiven, List.isEmpty_iff]
    rfl
  rcases h with rfl | ⟨fields, rfl⟩
  · exact hfields [] fun _ => rfl
  · exact hfields fields fun _ => rfl

theorem exists_validate_iff (h : args.HoldsFields) :
    (∃ accepted, validate params args = .ok accepted) ↔
      ∀ p ∈ params, ∀ problem, ¬ p.Faulty args problem := by
  rw [validate_of_holdsFields h, ← issuesOf_eq_nil_iff]
  split_ifs with hnil <;> simp [hnil]

theorem validate_error_iff (h : args.HoldsFields) {issues : List Issue} :
    validate params args = .error issues ↔
      issues = issuesOf params args ∧ issuesOf params args ≠ [] := by
  rw [validate_of_holdsFields h]
  split_ifs with hnil
  · simp [hnil]
  · simp [hnil, eq_comm]

/-- What is kept under a name is what the parameter of that name holds. -/
theorem mem_fields_of_validate {accepted : Args} (h : validate params args = .ok accepted)
    (hnames : (params.map (·.name)).Nodup) (name : String) (value : Json) :
    (name, value) ∈ accepted.fields ↔ ∃ p ∈ params, p.name = name ∧ p.Holds args value := by
  obtain ⟨hjudge, hfields⟩ := validate_eq_ok h
  have hsound : ∀ p ∈ params, ∀ problem, ¬ p.Faulty args problem := fun p hp problem hfaulty =>
    hjudge p hp problem (Param.judge_eq_reject_iff.mpr hfaulty)
  constructor
  · intro hmem
    -- The fields are sorted, so the pair that is there is the one that is found.
    have hlookup : Json.lookup name
        (params.filterMap fun p => (p.judge (p.givenIn args)).kept? p.name) = some value := by
      rw [← Json.lookup_sortFields, ← hfields]
      exact Json.lookup_eq_some_of_mem (hfields ▸ Json.sorted_sortFields _).nodup hmem
    obtain ⟨p, hp, hkept⟩ := List.mem_filterMap.mp (Json.mem_of_lookup_eq_some hlookup)
    rw [Verdict.kept?_eq] at hkept
    obtain ⟨kept, hvalue, heq⟩ := Option.map_eq_some_iff.mp hkept
    obtain ⟨hname, rfl⟩ := Prod.mk.inj heq
    exact ⟨p, hp, hname, (Param.value?_judge_iff (hsound p hp)).mp hvalue⟩
  · rintro ⟨p, hp, rfl, hholds⟩
    have hget : accepted.get? p.name = some value := by
      rw [get?_of_validate h hnames hp]
      exact (Param.value?_judge_iff (hsound p hp)).mpr hholds
    exact Json.mem_of_lookup_eq_some hget

/-- Arguments on which every verdict is the same are answered alike. -/
theorem validate_congr_of_judge {left right : Json} (hleft : left.HoldsFields)
    (hright : right.HoldsFields)
    (hjudge : ∀ p ∈ params, p.judge (p.givenIn left) = p.judge (p.givenIn right)) :
    validate params left = validate params right := by
  have hissues : issuesOf params left = issuesOf params right :=
    List.filterMap_congr fun p hp => by rw [hjudge p hp]
  have hkept : (params.filterMap fun p => (p.judge (p.givenIn left)).kept? p.name) =
      params.filterMap fun p => (p.judge (p.givenIn right)).kept? p.name :=
    List.filterMap_congr fun p hp => by rw [hjudge p hp]
  rw [validate_of_holdsFields hleft, validate_of_holdsFields hright, hissues, hkept]

/-- Arguments with the same values under the declared names are answered alike. -/
theorem validate_congr {left right : Json} (hleft : left.HoldsFields) (hright : right.HoldsFields)
    (hgiven : ∀ p ∈ params, givenValue left p.name = givenValue right p.name) :
    validate params left = validate params right := by
  refine validate_congr_of_judge hleft hright fun p hp => ?_
  cases hvalue : givenValue right p.name with
  | none => rw [Param.givenIn_of_none hvalue, Param.givenIn_of_none ((hgiven p hp).trans hvalue)]
  | some value =>
      rw [(Param.givenIn_of_some hvalue).1, (Param.givenIn_of_some ((hgiven p hp).trans hvalue)).1]

theorem givenValue_insert {before after : List (String × Json)} {name key : String} {value : Json}
    (h : key ≠ name ∨ value = .null ∧ Json.lookup name (before ++ after) = none) :
    givenValue (.object (before ++ (name, value) :: after)) key =
      givenValue (.object (before ++ after)) key := by
  simp only [givenValue, Json.get?]
  by_cases hkey : name = key
  · subst hkey
    obtain ⟨rfl, hnone⟩ : value = .null ∧ Json.lookup name (before ++ after) = none := by
      simpa using h
    rw [hnone]
    rw [Json.lookup_append, Option.or_eq_none_iff] at hnone
    rw [Json.lookup_append, Json.lookup, hnone.1, hnone.2]
    simp
  · rw [Json.lookup_append, Json.lookup, if_neg hkey, Option.or_none, ← Json.lookup_append]

structure ValidatedExactly (params : List Param) (args : Json) : Prop where
  unreadable : ¬ args.HoldsFields →
    validate params args = .error [⟨"arguments", "must be a JSON object"⟩]
  fails_iff : args.HoldsFields →
    ((∃ issues, validate params args = .error issues) ↔
      ∃ p ∈ params, ∃ problem, p.Faulty args problem)
  issues : args.HoldsFields → ∀ issues, validate params args = .error issues →
    Issues args params issues
  /-- A name is kept once, with the value that its parameter holds. -/
  fields : ∀ accepted, validate params args = .ok accepted →
    Json.Sorted accepted.fields ∧
      ∀ name value, (name, value) ∈ accepted.fields ↔
        ∃ p ∈ params, p.name = name ∧ p.Holds args value

/-- The answer to any arguments is exact. It does not change when a field that is not declared is
put in or taken out, or when null stands in the place of a field that is not given. -/
theorem validate_exact (params : List Param) (hnames : (params.map (·.name)).Nodup) :
    (∀ args, ValidatedExactly params args) ∧
      ∀ before after name value,
        (name ∉ params.map (·.name) ∨
          value = .null ∧ Json.lookup name (before ++ after) = none) →
        validate params (.object (before ++ (name, value) :: after)) =
          validate params (.object (before ++ after)) := by
  constructor
  · intro args
    refine ⟨fun hargs => ?_, fun hargs => ?_, fun hargs issues h => ?_, fun accepted h => ?_⟩
    · cases args with
      | null => exact absurd (Or.inl rfl) hargs
      | object fields => exact absurd (Or.inr ⟨fields, rfl⟩) hargs
      | bool _ | number _ | string _ | array _ => rfl
    · simp only [validate_error_iff hargs, exists_eq_left, ne_eq, issuesOf_eq_nil_iff]
      simp
    · obtain ⟨rfl, -⟩ := (validate_error_iff hargs).mp h
      exact issues_issuesOf params args
    · refine ⟨?_, mem_fields_of_validate h hnames⟩
      rw [(validate_eq_ok h).2]
      exact Json.sorted_sortFields _
  · intro before after name value h
    refine validate_congr (Or.inr ⟨_, rfl⟩) (Or.inr ⟨_, rfl⟩) fun p hp => givenValue_insert ?_
    refine h.imp_left fun hname hkey => hname ?_
    exact List.mem_map.mpr ⟨p, hp, hkey⟩

/-- Arguments with a text that is no amount, no contract and a field of another tool. -/
theorem validate_exact_stakeTokens :
    (Operation.stakeTokens.params.map (·.name)).Nodup ∧
      ValidatedExactly Operation.stakeTokens.params
        (.object [("amount", "1.5"), ("poolId", .nat 3), ("privateKey", .null)]) ∧
      validate Operation.stakeTokens.params
          (.object [("amount", "1.5"), ("poolId", .nat 3), ("privateKey", .null)]) =
        validate Operation.stakeTokens.params
          (.object [("amount", "1.5"), ("privateKey", .null)]) ∧
      validate Operation.stakeTokens.params
          (.object [("amount", "1.5"), ("privateKey", .null)]) =
        validate Operation.stakeTokens.params (.object [("amount", "1.5")]) :=
  ⟨by decide, (validate_exact _ (by decide)).1 _,
    (validate_exact _ (by decide)).2 [_] [_] _ _ (Or.inl (by decide)),
    (validate_exact _ (by decide)).2 [_] [] _ _ (Or.inr ⟨rfl, by decide⟩)⟩

end Tool

end StakingGateway
