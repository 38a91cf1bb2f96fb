import StakingGateway.Proofs.Omissions

/-!
# Normal arguments

A parameter keeps what it is given or its default, and takes the same again when it is given what it
kept. Accepted arguments are therefore their own normal form, and a caller may fill in the defaults
that the schema states before the arguments are validated.
-/

namespace StakingGateway

namespace Json

def propertyNames (schema : Json) : List String :=
  match schema.get? "properties" with
  | some (.object properties) => properties.map Prod.fst
  | _ => []

/-- Fields whose values are told by their names. -/
theorem lookup_filterMap (f : String → Option Json) (name : String) (names : List String) :
    lookup name (names.filterMap fun key => (f key).map fun value => (key, value)) =
      if name ∈ names then f name else none := by
  induction names with
  | nil => rfl
  | cons key rest ih =>
      rw [List.filterMap_cons]
      by_cases hkey : key = name
      · subst hkey
        rw [if_pos List.mem_cons_self]
        cases hvalue : f key with
        | none => simpa [hvalue] using ih
        | some value => by_cases hrest : key ∈ rest <;> simp [lookup, ih, hrest, hvalue]
      · have hmem : name ∈ key :: rest ↔ name ∈ rest := by simp [Ne.symm hkey]
        rw [if_congr hmem rfl rfl]
        cases hvalue : f key with
        | none => exact ih
        | some value => simp [lookup, ih, hkey]

end Json

namespace Tool

open Json

variable {params : List Param} {args : Json}

/-- The arguments with the default that the schema states for every property that is not given. -/
def fillDefaults (schema args : Json) : Json :=
  .obj ((Args.given args).fields ++ (propertyNames schema).filterMap fun name =>
    (if (givenValue args name).isNone then publishedDefault schema name else none).map
      fun value => (name, value))

/-- The parameter takes its own default, unless that is null. -/
def Param.TakesDefault (p : Param) : Prop :=
  ∀ value, p.default = some value → value ≠ .null → p.kind.accepts value = true

theorem Param.judge_null_of_default {p : Param} {value : Json} (h : p.default = some value) :
    p.judge .null = .keep value := by
  rw [judge, h]

/-- What a parameter keeps, it keeps when it is given. -/
theorem Param.judge_kept {p : Param} {given value : Json} (htakes : p.TakesDefault)
    (h : p.judge given = .keep value) : p.judge value = .keep value := by
  by_cases hgiven : given = .null
  · subst hgiven
    cases hdefault : p.default with
    | some other =>
        obtain rfl : other = value := by simpa [judge_null_of_default hdefault] using h
        by_cases hnull : other = .null
        · rw [hnull] at hdefault ⊢
          exact judge_null_of_default hdefault
        · rw [p.judge_of_ne_null hnull, if_pos (htakes other hdefault hnull)]
    | none => cases hrequired : p.required <;> simp [judge, hdefault, hrequired] at h
  · have hjudge := h
    rw [p.judge_of_ne_null hgiven] at hjudge
    split_ifs at hjudge
    rwa [Verdict.keep.inj hjudge] at h

theorem Param.eq_null_of_judge_absent {p : Param} {given : Json} (h : p.judge given = .absent) :
    given = .null := by
  by_contra hgiven
  rw [p.judge_of_ne_null hgiven] at h
  split_ifs at h

theorem holdsFields_of_validate {accepted : Args} (h : validate params args = .ok accepted) :
    args.HoldsFields := by
  cases args with
  | null => exact Or.inl rfl
  | object fields => exact Or.inr ⟨fields, rfl⟩
  | bool _ | number _ | string _ | array _ => cases h

theorem judge_accepted {accepted : Args} (h : validate params args = .ok accepted)
    (hnames : (params.map (·.name)).Nodup) {p : Param} (hp : p ∈ params)
    (htakes : p.TakesDefault) :
    p.judge (p.givenIn (.object accepted.fields)) = p.judge (p.givenIn args) := by
  have hget : Json.get? p.name (.object accepted.fields) = (p.judge (p.givenIn args)).value? :=
    get?_of_validate h hnames hp
  rw [Param.givenIn, hget]
  cases hjudge : p.judge (p.givenIn args) with
  | keep value => exact Param.judge_kept htakes hjudge
  | absent => rwa [Param.eq_null_of_judge_absent hjudge] at hjudge
  | reject problem => exact absurd hjudge ((validate_eq_ok h).1 p hp problem)

/-! ## Defaults from the schema -/

theorem mem_propertyNames {p : Param} (hnames : (params.map (·.name)).Nodup) (hp : p ∈ params) :
    p.name ∈ propertyNames (schemaOf params) := by
  have hproperties : (schemaOf params).get? "properties" = some (.object (propertiesOf params)) :=
    (lookup_keywordsOf params).2.1
  rw [propertyNames, hproperties]
  have hlookup := (lookup_propertiesOf_iff hnames).mpr ⟨p, hp, rfl, rfl⟩
  exact List.mem_map_of_mem (f := Prod.fst) (mem_of_lookup_eq_some hlookup)

theorem get?_fillDefaults {p : Param} (hnames : (params.map (·.name)).Nodup) (hp : p ∈ params) :
    (fillDefaults (schemaOf params) args).get? p.name =
      (if (givenValue args p.name).isNone then p.default else none).or (args.get? p.name) := by
  have hdefault : publishedDefault (schemaOf params) p.name = p.default := by
    refine Option.ext fun value => ?_
    rw [publishedDefault_schemaOf_iff hnames]
    constructor
    · rintro ⟨other, hother, hname, hvalue⟩
      rwa [List.inj_on_of_nodup_map hnames hother hp hname] at hvalue
    · exact fun hvalue => ⟨p, hp, rfl, hvalue⟩
  have hgiven : lookup p.name (Args.given args).fields = args.get? p.name := Args.get?_given args _
  rw [fillDefaults, get?_obj, lookup_append, hgiven,
    lookup_filterMap (fun name => if (givenValue args name).isNone then
      publishedDefault (schemaOf params) name else none), if_pos (mem_propertyNames hnames hp),
    hdefault]

theorem judge_fillDefaults {p : Param} (hnames : (params.map (·.name)).Nodup) (hp : p ∈ params)
    (htakes : p.TakesDefault) :
    p.judge (p.givenIn (fillDefaults (schemaOf params) args)) = p.judge (p.givenIn args) := by
  rw [Param.givenIn, get?_fillDefaults hnames hp]
  cases hgiven : givenValue args p.name with
  | some value => rfl
  | none =>
      cases hdefault : p.default with
      | none => rfl
      | some value =>
          have hnull : p.judge (p.givenIn args) = .keep value := by
            rw [Param.givenIn_of_none hgiven]
            exact Param.judge_null_of_default hdefault
          rw [hnull]
          exact Param.judge_kept htakes hnull

/-- Accepted arguments are validated to themselves, and filling in the published defaults first does
not change what validation answers. -/
theorem validation_normal (hnames : (params.map (·.name)).Nodup)
    (htakes : ∀ p ∈ params, p.TakesDefault) :
    (∀ args accepted, validate params args = .ok accepted →
        validate params (.object accepted.fields) = .ok accepted) ∧
      ∀ args : Json, args.HoldsFields →
        validate params (fillDefaults (schemaOf params) args) = validate params args := by
  constructor
  · intro args accepted h
    refine Eq.trans ?_ h
    exact validate_congr_of_judge (Or.inr ⟨_, rfl⟩) (holdsFields_of_validate h) fun p hp =>
      judge_accepted h hnames hp (htakes p hp)
  · intro args hargs
    exact validate_congr_of_judge (Or.inr ⟨_, rfl⟩) hargs fun p hp =>
      judge_fillDefaults hnames hp (htakes p hp)

/-- Null stands for the network here, and an amount is given once as a text and once as a number. -/
theorem validation_normal_amount :
    let params := [Operation.networkParam, .mandatory "amount" .wei "Amount",
      (Param.optional "referral" .address "Referral").withDefault .null,
      .optional "poolId" .integer "Pool ID"]
    let args := Json.object [("amount", "5"), ("network", .null)]
    let refused := Json.object [("amount", .nat 5)]
    let accepted : Args :=
      ⟨sortFields [("network", "ethereum"), ("amount", "5"), ("referral", .null)]⟩
    (params.map (·.name)).Nodup ∧ (∀ p ∈ params, p.TakesDefault) ∧
      validate params args = .ok accepted ∧
      validate params (.object accepted.fields) = .ok accepted ∧
      refused.HoldsFields ∧
      (fillDefaults (schemaOf params) refused).get? "network" = some "ethereum" ∧
      validate params (fillDefaults (schemaOf params) refused) = validate params refused := by
  intro params args refused accepted
  have hnames : (params.map (·.name)).Nodup := by decide
  have htakes : ∀ p ∈ params, p.TakesDefault := by
    simp only [params, List.forall_mem_cons]
    refine ⟨?_, nofun, ?_, nofun, nofun⟩
    · rintro _ ⟨⟩ -
      rfl
    · rintro _ ⟨⟩ hnull
      exact absurd rfl hnull
  have hvalid : validate params args = .ok accepted := rfl
  have hrefused : refused.HoldsFields := Or.inr ⟨_, rfl⟩
  obtain ⟨hagain, hfilled⟩ := validation_normal hnames htakes
  have hnetwork : (fillDefaults (schemaOf params) refused).get? "network" = some "ethereum" :=
    get?_fillDefaults hnames List.mem_cons_self
  exact ⟨hnames, htakes, hvalid, hagain args accepted hvalid, hrefused, hnetwork,
    hfilled refused hrefused⟩

end Tool

end StakingGateway
