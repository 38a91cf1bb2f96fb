import StakingGateway.Proofs.ChangedField

/-!
# What validation tells

Arguments that are accepted may be noted down, and issues are told to the caller. Neither depends on
the key that signs: the text of accepted arguments hides it, and an issue tells of any field only
that it is missing or misfit.
-/

namespace StakingGateway.Tool

open Json

variable {params : List Param} {left right : Json}

/-- All that is told of an outcome of validation: the issues and their message, or the text of the
accepted arguments. -/
def told (outcome : Except (List Issue) Args) : Except (List Issue × String) String :=
  (outcome.map Args.inspect).mapError fun issues => (issues, (Error.validation issues).message)

def Param.Missing (p : Param) (args : Json) : Prop :=
  p.required = true ∧ p.default = none ∧ givenValue args p.name = none

def Param.Misfit (p : Param) (args : Json) : Prop :=
  ∃ value, givenValue args p.name = some value ∧ p.kind.accepts value = false

theorem Param.faulty_iff {p : Param} {args : Json} {problem : String} :
    p.Faulty args problem ↔
      p.Missing args ∧ problem = "is required" ∨
        p.Misfit args ∧ problem = "must be " ++ p.kind.expected := by
  constructor
  · rintro (⟨hgiven, hrequired, hdefault⟩ | ⟨hgiven, hkind⟩)
    · exact Or.inl ⟨⟨hrequired, hdefault, hgiven⟩, rfl⟩
    · exact Or.inr ⟨⟨_, hgiven, hkind⟩, rfl⟩
  · rintro (⟨⟨hrequired, hdefault, hgiven⟩, rfl⟩ | ⟨⟨value, hgiven, hkind⟩, rfl⟩)
    · exact .missing hgiven hrequired hdefault
    · exact .misfit hgiven hkind

/-- Where the same parameters are missing and the same ones misfit, the same issues are reported. -/
theorem issuesOf_eq_of_sameFaults
    (h : ∀ p ∈ params, (p.Missing left ↔ p.Missing right) ∧ (p.Misfit left ↔ p.Misfit right)) :
    issuesOf params left = issuesOf params right := by
  refine issuesOf_congr fun p hp problem => ?_
  rw [Param.faulty_iff, Param.faulty_iff, (h p hp).1, (h p hp).2]

theorem told_error_iff {args : Json} (h : args.HoldsFields) {failure : List Issue × String} :
    told (validate params args) = .error failure ↔
      issuesOf params args ≠ [] ∧
        failure = (issuesOf params args, (Error.validation (issuesOf params args)).message) := by
  rw [validate_of_holdsFields h]
  split_ifs with hnil
  · simp [told, hnil, Except.map, Except.mapError]
  · simp [told, hnil, Except.map, Except.mapError, eq_comm]

/-! ## The text of accepted arguments -/

theorem fieldChars_hideField (field : String × Json) :
    Args.fieldChars (hideField Args.keyField field) = Args.fieldChars field := by
  have hhidden : ∀ name, Args.hidden.contains name = decide (name = Args.keyField) := by
    intro name
    simp [Args.hidden]
  rw [Args.fieldChars, Args.fieldChars, hideField, hhidden]
  by_cases hname : field.1 = Args.keyField <;> simp [hname]

theorem Args.inspect_congr {first second : Args}
    (h : first.fields.map (hideField keyField) = second.fields.map (hideField keyField)) :
    first.inspect = second.inspect := by
  have hchars : first.fields.map fieldChars = second.fields.map fieldChars :=
    calc first.fields.map fieldChars
        = (first.fields.map (hideField keyField)).map fieldChars := by
          simp [Function.comp_def, fieldChars_hideField]
      _ = (second.fields.map (hideField keyField)).map fieldChars := by rw [h]
      _ = second.fields.map fieldChars := by
          simp [Function.comp_def, fieldChars_hideField]
  rw [inspect, inspect, hchars]

/-- Nothing that is told of a call depends on the key that it brings, and what is told of a call that
is refused depends on no value that it brings. -/
theorem key_untold (hnames : (params.map (·.name)).Nodup) {p : Param} (hp : p ∈ params)
    (hname : p.name = Args.keyField) (hkind : p.kind = .string) :
    (∀ (fields : List (String × Json)) (first second : String),
      told (validate params (setField fields Args.keyField (.string first))) =
        told (validate params (setField fields Args.keyField (.string second)))) ∧
      ∀ left right : Json, left.HoldsFields → right.HoldsFields →
        (∀ p ∈ params, (p.Missing left ↔ p.Missing right) ∧ (p.Misfit left ↔ p.Misfit right)) →
        ∀ failure, told (validate params left) = .error failure ↔
          told (validate params right) = .error failure := by
  constructor
  · intro fields first second
    have hget : ∀ key : String,
        (setField fields Args.keyField (.string key)).get? p.name = some (.string key) := by
      intro key
      rw [get?_setField, if_pos hname.symm]
    have haccepts : ∀ key : String, p.kind.accepts (.string key) = true := by
      intro key
      rw [hkind]
      rfl
    have hdiffer := differIn_validate hnames hp (hget first) (hget second) (haccepts first)
      (haccepts second) fun name hother => by
        rw [get?_setField, get?_setField, if_neg (hname ▸ hother.symm),
          if_neg (hname ▸ hother.symm)]
    rw [hname] at hdiffer
    generalize validate params (setField fields Args.keyField (.string first)) = one,
      validate params (setField fields Args.keyField (.string second)) = other at hdiffer ⊢
    cases hdiffer with
    | refused issues => rfl
    | accepted hfields => exact congrArg Except.ok (Args.inspect_congr hfields)
  · intro left right hleft hright hfaults failure
    rw [told_error_iff hleft, told_error_iff hright, issuesOf_eq_of_sameFaults hfaults]

/-- A key with a quotation mark and a line break, and another one; and amounts that are refused for
two reasons. -/
theorem key_untold_marks :
    let params := [Operation.keyParam, .mandatory "amount" .wei "Amount"]
    let given (key : String) := setField [("amount", .string "5")] Args.keyField (.string key)
    let first := Json.object [("amount", .nat 5)]
    let second := Json.object [("amount", .string "5 wei")]
    (params.map (·.name)).Nodup ∧ Operation.keyParam ∈ params ∧
      Operation.keyParam.name = Args.keyField ∧ Operation.keyParam.kind = .string ∧
      (told (validate params (given "\"\n"))).toOption =
        some "\x7b\"amount\": String(\"5\"), \"privateKey\": \"[REDACTED]\"\x7d" ∧
      told (validate params (given "\"\n")) = told (validate params (given "0x01")) ∧
      first.HoldsFields ∧ second.HoldsFields ∧
      (∀ p ∈ params, (p.Missing first ↔ p.Missing second) ∧ (p.Misfit first ↔ p.Misfit second)) ∧
      ∀ failure, told (validate params first) = .error failure ↔
        told (validate params second) = .error failure := by
  intro params given first second
  have hnames : (params.map (·.name)).Nodup := by decide
  have hp : Operation.keyParam ∈ params := List.mem_cons_self
  have hfirst : first.HoldsFields := Or.inr ⟨_, rfl⟩
  have hsecond : second.HoldsFields := Or.inr ⟨_, rfl⟩
  have hfaults : ∀ p ∈ params,
      (p.Missing first ↔ p.Missing second) ∧ (p.Misfit first ↔ p.Misfit second) := by
    simp only [params, List.forall_mem_cons]
    refine ⟨⟨Iff.rfl, Iff.rfl⟩, ⟨?_, ?_⟩, nofun⟩
    · exact iff_of_false (fun h => nomatch h.2.2) fun h => nomatch h.2.2
    · exact iff_of_true ⟨_, rfl, rfl⟩ ⟨_, rfl, by decide +kernel⟩
  obtain ⟨hkey, hvalues⟩ := key_untold hnames hp rfl rfl
  exact ⟨hnames, hp, rfl, rfl, by decide +kernel, hkey _ _ _, hfirst, hsecond, hfaults,
    hvalues first second hfirst hsecond hfaults⟩

end StakingGateway.Tool
