import StakingGateway.Proofs.SchemaAgreement

/-!
# What may be omitted

A published schema lists the fields that have to be given, and states the defaults of others.
Validation decides the same from a default and a mark on each parameter, where the default comes
first. The two agree because no parameter that was built has both.
-/

namespace StakingGateway

namespace Json

def requiredNames (schema : Json) : List String :=
  match schema.get? "required" with
  | some (.array names) => names.filterMap string?
  | _ => []

def publishedDefault (schema : Json) (name : String) : Option Json :=
  ((schema.get? "properties").bind (·.get? name)).bind (·.get? "default")

end Json

namespace Tool

open Json

variable {params : List Param} {args : Json}

inductive Param.Built : Param → Prop
  | mandatory (name : String) (kind : ParamKind) (description : String) :
      Built (.mandatory name kind description)
  | optional (name : String) (kind : ParamKind) (description : String) :
      Built (.optional name kind description)
  | withDefault {p : Param} (hbuilt : p.Built) (value : Json) : Built (p.withDefault value)

theorem Param.Built.default_eq_none {p : Param} (h : p.Built) (hrequired : p.required = true) :
    p.default = none := by
  cases h with
  | mandatory | optional => rfl
  | withDefault => cases hrequired

def missingFields : Except (List Issue) Args → List String
  | .error issues => (issues.filter (·.problem = "is required")).map (·.field)
  | .ok _ => []

/-! ## The published schema -/

theorem requiredNames_schemaOf (params : List Param) :
    requiredNames (schemaOf params) = (params.filter (·.required)).map (·.name) := by
  have hlookup : (schemaOf params).get? "required" =
      some (.array ((params.filter (·.required)).map fun p => Json.string p.name)) :=
    (lookup_keywordsOf params).2.2.1
  rw [requiredNames, hlookup]
  simp [List.filterMap_map, Function.comp_def, Json.string?]

theorem Param.get?_default_schema (p : Param) : p.schema.get? "default" = p.default := by
  have hkind : lookup "default" p.kind.schema = none := by cases p.kind <;> rfl
  rw [schema, get?_obj, lookup_append, lookup_append, hkind]
  cases p.default <;> rfl

theorem publishedDefault_schemaOf_iff (hnames : (params.map (·.name)).Nodup) {name : String}
    {value : Json} :
    publishedDefault (schemaOf params) name = some value ↔
      ∃ p ∈ params, p.name = name ∧ p.default = some value := by
  have hproperties : (schemaOf params).get? "properties" = some (.object (propertiesOf params)) :=
    (lookup_keywordsOf params).2.1
  rw [publishedDefault, hproperties, Option.bind_some, Option.bind_eq_some_iff]
  constructor
  · rintro ⟨schema, hschema, hvalue⟩
    obtain ⟨p, hp, hname, rfl⟩ := (lookup_propertiesOf_iff hnames).mp hschema
    exact ⟨p, hp, hname, p.get?_default_schema ▸ hvalue⟩
  · rintro ⟨p, hp, hname, hdefault⟩
    refine ⟨p.schema, (lookup_propertiesOf_iff hnames).mpr ⟨p, hp, hname, rfl⟩, ?_⟩
    rw [p.get?_default_schema, hdefault]

/-! ## Validation -/

/-- A built parameter is reported as missing if it is required and not given. -/
theorem Param.Built.judge_eq_missing_iff {p : Param} (h : p.Built) :
    p.judge (p.givenIn args) = .reject "is required" ↔
      p.required = true ∧ (givenValue args p.name).isNone = true := by
  rw [Param.judge_eq_reject_iff, Option.isNone_iff_eq_none]
  constructor
  · intro hfaulty
    generalize hproblem : "is required" = problem at hfaulty
    cases hfaulty with
    | missing hgiven hrequired => exact ⟨hrequired, hgiven⟩
    | misfit =>
        -- A misfit is reported in other words.
        have hhead := congrArg (fun text : String => text.toList.head?) hproblem
        simp at hhead
  · rintro ⟨hrequired, hgiven⟩
    exact .missing hgiven hrequired (h.default_eq_none hrequired)

/-- What is reported as missing of one parameter. -/
theorem Param.Built.missing?_eq {p : Param} (h : p.Built) :
    (((p.judge (p.givenIn args)).issue? p.name).filter (·.problem = "is required")).map (·.field) =
      if p.required = true ∧ (givenValue args p.name).isNone = true then some p.name else none := by
  have hmissing := @judge_eq_missing_iff args p h
  cases hjudge : p.judge (p.givenIn args) with
  | keep | absent =>
      rw [if_neg (hmissing.not.mp (hjudge ▸ nofun))]
      rfl
  | reject problem =>
      by_cases hproblem : problem = "is required"
      · rw [if_pos (hmissing.mp (hproblem ▸ hjudge))]
        simp [Verdict.issue?, hproblem]
      · have hother : p.judge (p.givenIn args) ≠ .reject "is required" := by
          rw [hjudge]
          exact fun heq => hproblem (Verdict.reject.inj heq)
        rw [if_neg (hmissing.not.mp hother)]
        simp [Verdict.issue?, hproblem]

theorem missingFields_issuesOf (hbuilt : ∀ p ∈ params, p.Built) :
    missingFields (.error (issuesOf params args)) =
      ((params.filter (·.required)).map (·.name)).filter
        fun name => (givenValue args name).isNone := by
  rw [missingFields, issuesOf, List.filter_filterMap, List.map_filterMap, List.filter_map,
    List.filter_filter, ← List.filterMap_eq_map, List.filterMap_filter]
  refine List.filterMap_congr fun p hp => ?_
  rw [(hbuilt p hp).missing?_eq]
  refine if_congr ?_ rfl rfl
  rw [Bool.and_eq_true, and_comm]
  rfl

theorem missingFields_validate (h : args.HoldsFields) :
    missingFields (validate params args) = missingFields (.error (issuesOf params args)) := by
  rw [validate_of_holdsFields h]
  split_ifs with hnil
  · rw [hnil]
    rfl
  · rfl

/-- What is not given is reported as missing where the published schema requires it, in the order of
the schema, and accepted with a value where the schema states this value as a default. -/
theorem omissions_as_published (hbuilt : ∀ p ∈ params, p.Built)
    (hnames : (params.map (·.name)).Nodup) (fields : List (String × Json)) :
    missingFields (validate params (.object fields)) =
        (requiredNames (schemaOf params)).filter
          (fun name => (givenValue (.object fields) name).isNone) ∧
      ∀ accepted, validate params (.object fields) = .ok accepted →
        ∀ name, givenValue (.object fields) name = none →
          ∀ value, (name, value) ∈ accepted.fields ↔
            publishedDefault (schemaOf params) name = some value := by
  constructor
  · rw [missingFields_validate (Or.inr ⟨fields, rfl⟩), requiredNames_schemaOf]
    exact missingFields_issuesOf hbuilt
  · intro accepted hvalid name hgiven value
    rw [mem_fields_of_validate hvalid hnames, publishedDefault_schemaOf_iff hnames]
    refine exists_congr fun p => and_congr_right fun _ => and_congr_right fun hname => ?_
    subst hname
    constructor
    · rintro (hsome | ⟨-, hdefault⟩)
      · rw [hgiven] at hsome
        cases hsome
      · exact hdefault
    · exact fun hdefault => .default hgiven hdefault

/-- A pool is named and nothing else, so two fields are reported. With these the call is accepted: the
network is the default one, and the referral, whose default is null, is null. -/
theorem omissions_as_published_pool :
    let params := [Operation.networkParam, .mandatory "stakingContract" .address "Contract",
      .mandatory "amount" .wei "Amount", .mandatory "poolId" .integer "Pool ID",
      (Param.mandatory "referral" .address "Referral").withDefault .null]
    let contract : Json := "0x1234567890123456789012345678901234567890"
    let few : List (String × Json) := [("poolId", .nat 3), ("stakingContract", .null)]
    let enough : List (String × Json) :=
      [("amount", "5"), ("poolId", .nat 3), ("stakingContract", contract)]
    let accepted : Args := ⟨sortFields [("network", "ethereum"), ("stakingContract", contract),
      ("amount", "5"), ("poolId", .nat 3), ("referral", .null)]⟩
    (∀ p ∈ params, p.Built) ∧ (params.map (·.name)).Nodup ∧
      missingFields (validate params (.object few)) = ["stakingContract", "amount"] ∧
      missingFields (validate params (.object few)) =
        (requiredNames (schemaOf params)).filter
          (fun name => (givenValue (.object few) name).isNone) ∧
      validate params (.object enough) = .ok accepted ∧
      givenValue (.object enough) "referral" = none ∧
      ("referral", .null) ∈ accepted.fields ∧
      ∀ value, ("referral", value) ∈ accepted.fields ↔
        publishedDefault (schemaOf params) "referral" = some value := by
  intro params contract few enough accepted
  have hbuilt : ∀ p ∈ params, p.Built := by
    simp only [params, List.forall_mem_cons]
    exact ⟨.withDefault (.optional ..) _, .mandatory .., .mandatory .., .mandatory ..,
      .withDefault (.mandatory ..) _, nofun⟩
  have hnames : (params.map (·.name)).Nodup := by decide
  have hvalid : validate params (.object enough) = .ok accepted := rfl
  refine ⟨hbuilt, hnames, by decide +kernel, (omissions_as_published hbuilt hnames few).1, hvalid,
    rfl, ?_, (omissions_as_published hbuilt hnames enough).2 accepted hvalid "referral" rfl⟩
  apply mem_of_lookup_eq_some
  rw [lookup_sortFields]
  rfl

end Tool

end StakingGateway
