import StakingGateway.Operation.Params
import StakingGateway.Proofs.Fields

/-!
# Accepted arguments

What validation accepts is read off the given arguments field by field: every parameter keeps what
its own verdict keeps. For a parameter that takes texts only, this is the given text or the default.
-/

namespace StakingGateway.Tool

def Param.givenIn (p : Param) (args : Json) : Json :=
  Json.ofOption (args.get? p.name)

def Verdict.value? : Verdict → Option Json
  | keep value => some value
  | _ => none

theorem Verdict.kept?_eq (field : String) (v : Verdict) :
    v.kept? field = v.value?.map fun value => (field, value) := by
  cases v <;> rfl

/-- Validation accepts arguments if it rejects no parameter, and keeps what the verdicts keep. -/
theorem validate_eq_ok {params : List Param} {args : Json} {accepted : Args}
    (h : validate params args = .ok accepted) :
    (∀ p ∈ params, ∀ problem, p.judge (p.givenIn args) ≠ .reject problem) ∧
      accepted.fields = Json.sortFields
        (params.filterMap fun p => (p.judge (p.givenIn args)).kept? p.name) := by
  have hfields : ∀ fields : List (String × Json),
      (∀ p : Param, p.given fields = p.givenIn args) →
      validateFields params fields = .ok accepted →
      (∀ p ∈ params, ∀ problem, p.judge (p.givenIn args) ≠ .reject problem) ∧
        accepted.fields = Json.sortFields
          (params.filterMap fun p => (p.judge (p.givenIn args)).kept? p.name) := by
    intro fields hgiven hvalid
    unfold validateFields at hvalid
    simp only [hgiven] at hvalid
    split at hvalid
    next hissues =>
        rw [List.isEmpty_iff, List.filterMap_eq_nil_iff] at hissues
        refine ⟨fun p hp problem hreject => ?_, ?_⟩
        · have hnone := hissues p hp
          rw [hreject] at hnone
          cases hnone
        · rw [← Except.ok.inj hvalid]
    next => cases hvalid
  cases args with
  | object fields => exact hfields fields (fun _ => rfl) h
  | null => exact hfields [] (fun _ => rfl) h
  | bool _ | number _ | string _ | array _ => cases h

theorem get?_of_validate {params : List Param} {args : Json} {accepted : Args}
    (h : validate params args = .ok accepted) (hnames : (params.map (·.name)).Nodup) {p : Param}
    (hp : p ∈ params) : accepted.get? p.name = (p.judge (p.givenIn args)).value? := by
  rw [Args.get?, (validate_eq_ok h).2, Json.lookup_sortFields]
  clear h
  induction params with
  | nil => simp at hp
  | cons head rest ih =>
      obtain ⟨hhead, hrest⟩ := List.nodup_cons.mp hnames
      have hsub : ∀ q : Param, q.name ∉ rest.map (·.name) → Json.lookup q.name
          (rest.filterMap fun p => (p.judge (p.givenIn args)).kept? p.name) = none := by
        intro q hq
        refine Json.lookup_eq_none fun hmem => hq ?_
        obtain ⟨field, hfield, hname⟩ := List.mem_map.mp hmem
        obtain ⟨other, hother, hkept⟩ := List.mem_filterMap.mp hfield
        rw [Verdict.kept?_eq] at hkept
        obtain ⟨value, -, rfl⟩ := Option.map_eq_some_iff.mp hkept
        exact List.mem_map.mpr ⟨other, hother, hname⟩
      rw [List.filterMap_cons, Verdict.kept?_eq]
      rcases List.mem_cons.mp hp with rfl | hmem
      · cases (p.judge (p.givenIn args)).value? with
        | none => exact hsub p hhead
        | some value => simp [Json.lookup, hsub p hhead]
      · have hne : head.name ≠ p.name := fun heq =>
          hhead (List.mem_map.mpr ⟨p, hmem, heq.symm⟩)
        cases (head.judge (head.givenIn args)).value? with
        | none => exact ih hrest hmem
        | some value => simp [Json.lookup, hne, ih hrest hmem]

def Args.given : Json → Args
  | .object fields => ⟨fields⟩
  | _ => ⟨[]⟩

theorem Args.get?_given (args : Json) (name : String) :
    (Args.given args).get? name = args.get? name := by
  cases args <;> rfl

/-- The value that is given under a name; null counts as not given. -/
def givenValue (args : Json) (name : String) : Option Json :=
  match args.get? name with
  | some .null => none
  | given => given

theorem givenValue_eq_none {args : Json} {name : String} (h : givenValue args name = none) :
    args.get? name = none ∨ args.get? name = some .null := by
  unfold givenValue at h
  cases hget : args.get? name with
  | none => exact Or.inl rfl
  | some value =>
      rw [hget] at h
      cases value <;> first | exact Or.inr rfl | cases h

theorem givenValue_eq_some {args value : Json} {name : String}
    (h : givenValue args name = some value) : args.get? name = some value ∧ value ≠ .null := by
  unfold givenValue at h
  cases hget : args.get? name with
  | none =>
      rw [hget] at h
      cases h
  | some other =>
      rw [hget] at h
      cases other <;> cases h <;> simp

theorem Param.judge_of_ne_null (p : Param) {value : Json} (h : value ≠ .null) :
    p.judge value =
      if p.kind.accepts value then .keep value else .reject s!"must be {p.kind.expected}" := by
  cases value <;> first | rfl | exact absurd rfl h

theorem Param.givenIn_of_none {p : Param} {args : Json} (h : givenValue args p.name = none) :
    p.givenIn args = .null := by
  rcases givenValue_eq_none h with hget | hget <;> rw [givenIn, hget] <;> rfl

/-- A parameter holds the value that is given, which is of its kind, or else its default. -/
theorem kept_of_validate {params : List Param} {args : Json} {accepted : Args}
    (h : validate params args = .ok accepted) (hnames : (params.map (·.name)).Nodup) {p : Param}
    (hp : p ∈ params) :
    accepted.get? p.name = (givenValue args p.name).or p.default ∧
      ∀ value, givenValue args p.name = some value → p.kind.accepts value = true := by
  have hjudge := (validate_eq_ok h).1 p hp
  rw [get?_of_validate h hnames hp]
  cases hgiven : givenValue args p.name with
  | none =>
      rw [Param.givenIn_of_none hgiven, Option.none_or, Param.judge]
      refine ⟨?_, by simp⟩
      cases p.default with
      | some value => rfl
      | none => cases p.required <;> rfl
  | some value =>
      obtain ⟨hget, hne⟩ := givenValue_eq_some hgiven
      have hvalue : p.givenIn args = value := by rw [Param.givenIn, hget, Json.ofOption]
      rw [hvalue, p.judge_of_ne_null hne] at hjudge
      rw [hvalue, p.judge_of_ne_null hne, Option.some_or]
      by_cases haccepts : p.kind.accepts value = true
      · rw [if_pos haccepts]
        refine ⟨rfl, fun other hother => ?_⟩
        rwa [← Option.some.inj hother]
      · rw [if_neg haccepts] at hjudge
        exact absurd rfl (hjudge _)

theorem get?_of_mandatory {params : List Param} {args : Json} {accepted : Args}
    (h : validate params args = .ok accepted) (hnames : (params.map (·.name)).Nodup)
    {name description : String} {kind : ParamKind}
    (hp : Param.mandatory name kind description ∈ params) :
    accepted.get? name = (Args.given args).get? name := by
  have hkept : accepted.get? name = (givenValue args name).or none :=
    (kept_of_validate h hnames hp).1
  rw [hkept, Option.or_none, Args.get?_given]
  cases hgiven : givenValue args name with
  | none =>
      have hnull : (Param.mandatory name kind description).givenIn args = .null :=
        Param.givenIn_of_none hgiven
      have hjudge := (validate_eq_ok h).1 _ hp
      rw [hnull] at hjudge
      exact absurd rfl (hjudge "is required")
  | some value => exact (givenValue_eq_some hgiven).1.symm

theorem natural?_eq_some {value : Json} {n : Nat} (h : value.natural? = some n) :
    value = .number (.integer n) ∧ n < UInt64.size := by
  unfold Json.natural? at h
  split at h
  next number =>
      split at h
      next hrange =>
          cases h
          rw [Int.toNat_of_nonneg hrange.1]
          exact ⟨rfl, (Int.toNat_lt hrange.1).mpr hrange.2⟩
      next => cases h
  next => cases h

def ParamKind.IsText (kind : ParamKind) : Prop :=
  ∀ value, kind.accepts value = true → ∃ text, value = .string text

theorem ParamKind.isText_string : ParamKind.string.IsText := by
  intro value h
  cases value <;> simp_all [ParamKind.accepts]

theorem text?_of_validate {params : List Param} {args : Json} {accepted : Args}
    (h : validate params args = .ok accepted) (hnames : (params.map (·.name)).Nodup) {p : Param}
    (hp : p ∈ params) (hkind : p.kind.IsText) :
    accepted.text? p.name =
      ((Args.given args).text? p.name).or (p.default.bind Json.string?) := by
  obtain ⟨hkept, haccepts⟩ := kept_of_validate h hnames hp
  rw [Args.text?, hkept, Args.text?, Args.get?_given]
  cases hgiven : givenValue args p.name with
  | none =>
      have habsent : (args.get? p.name).bind Json.string? = none := by
        rcases givenValue_eq_none hgiven with hget | hget <;> rw [hget] <;> rfl
      rw [habsent, Option.none_or, Option.none_or]
  | some value =>
      obtain ⟨text, rfl⟩ := hkind value (haccepts value hgiven)
      rw [(givenValue_eq_some hgiven).1]
      rfl

/-- The key that a call signs with: the one that it brings, else the default. -/
def Context.keyInUse (context : Context) (args : Json) : Option String :=
  ((Args.given args).text? Args.keyField).or context.defaultKey

theorem signingKey_eq_ok {context : Context} {accepted : Args} {key : String}
    (h : context.signingKey accepted = .ok key) :
    (accepted.text? Args.keyField).or context.defaultKey = some key := by
  unfold Context.signingKey at h
  cases htext : accepted.text? Args.keyField with
  | some text =>
      rw [htext] at h
      exact congrArg some (Except.ok.inj h)
  | none =>
      rw [htext] at h
      cases hdefault : context.defaultKey with
      | some key' =>
          rw [hdefault] at h
          exact congrArg some (Except.ok.inj h)
      | none =>
          rw [hdefault] at h
          cases h

end StakingGateway.Tool
