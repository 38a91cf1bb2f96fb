import StakingGateway.Proofs.AmountReading
import StakingGateway.Proofs.ExactValidation
import StakingGateway.Proofs.SchemaMeaning

/-!
# Published schemas and validation

A published schema and the validation behind it take the same objects, apart from values of a few
kinds. A schema has no word for the sizes of the machine: a whole number of more than 64 bits, or one
that is written with a fraction, and an amount of more than 256 bits conform and are refused. And it
knows nothing of the blanks around an amount, which validation passes over.
-/

namespace StakingGateway.Tool

open Json

/-! ## The values that tell them apart -/

/-- Whole numbers and amounts that are no words as they are written. -/
inductive ParamKind.Unfit : ParamKind → Json → Prop
  | integer {n : Json.Number} {k : ℕ} (hvalue : n.toRat = k)
      (hwritten : ∀ m < 2 ^ 64, n ≠ .integer (m : ℕ)) : Unfit .integer (.number n)
  | wei {text : String} (hne : text.toList ≠ []) (hdigits : Text.areDigits text.toList = true)
      (hlarge : 2 ^ 256 ≤ Text.valueOfDigits text.toList) : Unfit .wei (.string text)

inductive ParamKind.Padded : ParamKind → Json → Prop
  | wei {text : String} {body : List Char} (htrims : Text.Trims text.toList body)
      (hpadded : text.toList ≠ body) (hne : body ≠ []) (hdigits : Text.areDigits body = true)
      (hsmall : Text.valueOfDigits body < 2 ^ 256) : Padded .wei (.string text)

inductive ParamKind.CapitalMarker : ParamKind → Json → Prop
  | address {text : String} {digits : List Char} (htext : text.toList = '0' :: 'X' :: digits)
      (hlength : digits.length = 40) (hdigits : digits.all Bytes.isHexDigit = true) :
      CapitalMarker .address (.string text)

theorem accepts_integer_iff {value : Json} : ParamKind.integer.accepts value = true ↔
    ∃ m : ℕ, m < 2 ^ 64 ∧ value = .number (.integer m) := by
  constructor
  · intro h
    obtain ⟨m, hm⟩ := Option.isSome_iff_exists.mp h
    unfold Json.natural? at hm
    split at hm
    next i =>
        split_ifs at hm with hrange
        obtain ⟨n, rfl⟩ := Int.eq_ofNat_of_zero_le hrange.1
        exact ⟨n, Int.ofNat_lt.mp hrange.2, rfl⟩
    next => cases hm
  · rintro ⟨m, hm, rfl⟩
    have hrange : (0 : ℤ) ≤ m ∧ (m : ℤ) < UInt64.size :=
      ⟨Int.natCast_nonneg m, Int.ofNat_lt.mpr hm⟩
    rw [ParamKind.accepts, Json.natural?, if_pos hrange]
    rfl

theorem accepts_wei_iff {text : String} : ParamKind.wei.accepts (.string text) = true ↔
    Text.trimChars text.toList ≠ [] ∧ Text.areDigits (Text.trimChars text.toList) = true ∧
      Text.valueOfDigits (Text.trimChars text.toList) < 2 ^ 256 := by
  simp only [ParamKind.accepts, Amount.parseWei]
  split_ifs with hbad
  · simp only [Bool.or_eq_true, List.isEmpty_iff, Bool.not_eq_true'] at hbad
    constructor
    · intro h
      cases h
    · rintro ⟨hne, hdigits, -⟩
      rcases hbad with hnil | hother
      · exact absurd hnil hne
      · rw [hdigits] at hother
        cases hother
  · simp only [Bool.or_eq_true, List.isEmpty_iff, Bool.not_eq_true', not_or,
      Bool.not_eq_false] at hbad
    cases hread : Amount.ofDigits? (Text.trimChars text.toList) with
    | some amount =>
        have hvalue := Amount.ofDigits?_eq_some.mp hread
        refine ⟨fun _ => ⟨hbad.1, hbad.2, hvalue ▸ amount.isLt⟩, fun _ => rfl⟩
    | none =>
        have hlarge : 2 ^ 256 ≤ Text.valueOfDigits (Text.trimChars text.toList) :=
          Word.ofNat?_eq_none.mp hread
        constructor
        · intro h
          cases h
        · exact fun h => absurd h.2.2 (Nat.not_lt.mpr hlarge)

theorem isDecimal_iff {text : String} :
    ParamKind.isDecimal text = true ↔ Pattern.Finds "^[0-9]+(\\.[0-9]+)?$" text := by
  rw [Pattern.finds_decimal]
  have hpoint : ∀ {digits : List Char}, Text.areDigits digits = true →
      ∀ c ∈ digits, (c == '.') = false := fun h c hc =>
    Text.ne_point_of_isDigit (List.all_eq_true.mp h c hc)
  constructor
  · intro h
    unfold ParamKind.isDecimal at h
    rcases Text.splitFirst_cases (· == '.') text.toList with
      hsplit | ⟨whole, c, fraction, htext, hc, hsplit⟩
    · simp only [hsplit, Bool.and_eq_true, Bool.not_eq_true', List.isEmpty_eq_false_iff] at h
      exact ⟨text.toList, [], h.1, h.2, Or.inl rfl⟩
    · simp only [hsplit, Bool.and_eq_true, Bool.not_eq_true', List.isEmpty_eq_false_iff] at h
      obtain rfl := eq_of_beq hc
      exact ⟨whole, fraction, h.1.1, h.1.2, Or.inr ⟨htext, h.2⟩⟩
  · rintro ⟨whole, fraction, hne, hdigits, htext | ⟨htext, hfraction⟩⟩
    · rw [ParamKind.isDecimal, htext, Text.splitFirst_of_forall (hpoint hdigits)]
      simp [hne, hdigits]
    · rw [ParamKind.isDecimal, htext, Text.splitFirst_append_cons (hpoint hdigits) rfl]
      simp [hne, hdigits, hfraction]

theorem isText_iff {text : String} : Address.isText text = true ↔
    Pattern.Finds "^0x[0-9a-fA-F]\x7b40\x7d$" text ∨
      ∃ digits, text.toList = '0' :: 'X' :: digits ∧ digits.length = 40 ∧
        digits.all Bytes.isHexDigit = true := by
  rw [Pattern.finds_address, Address.isText]
  constructor
  · intro h
    split at h
    next x digits htext =>
        simp only [Bool.and_eq_true, Bool.or_eq_true, decide_eq_true_eq] at h
        obtain ⟨⟨rfl | rfl, hlength⟩, hall⟩ := h
        · exact Or.inl ⟨digits, htext, hlength, hall⟩
        · exact Or.inr ⟨digits, htext, hlength, hall⟩
    next => cases h
  · rintro (⟨digits, htext, hlength, hall⟩ | ⟨digits, htext, hlength, hall⟩) <;>
      simp [htext, hlength, hall]

theorem describes_integer_of_accepts {value : Json}
    (h : ParamKind.integer.accepts value = true) : ParamKind.integer.Describes value := by
  obtain ⟨m, -, rfl⟩ := accepts_integer_iff.mp h
  exact ⟨_, rfl, m, Int.cast_natCast m⟩

theorem describes_wei_iff {text : String} : ParamKind.wei.Describes (.string text) ↔
    text.toList ≠ [] ∧ Text.areDigits text.toList = true := by
  rw [← Pattern.finds_wei]
  constructor
  · rintro ⟨same, hsame, hfinds⟩
    rwa [Json.string.inj hsame]
  · exact fun hfinds => ⟨text, rfl, hfinds⟩

theorem trimChars_of_digits {text : String} (h : Text.areDigits text.toList = true) :
    Text.trimChars text.toList = text.toList :=
  Text.trimChars_eq_iff.mpr (Text.trims_self fun c hc =>
    Text.isBlank_of_isDigit (List.all_eq_true.mp h c hc))

/-- What the schema describes is accepted, if it fits. -/
theorem accepts_of_describes {kind : ParamKind} {value : Json} (h : kind.Describes value)
    (hfits : ¬ kind.Unfit value) : kind.accepts value = true := by
  cases kind with
  | string | number | boolean =>
      obtain ⟨content, rfl⟩ := h
      rfl
  | choice values =>
      obtain ⟨text, htext, rfl⟩ := h
      exact List.contains_iff_mem.mpr htext
  | decimal =>
      obtain ⟨text, rfl, hfinds⟩ := h
      exact isDecimal_iff.mpr hfinds
  | address =>
      obtain ⟨text, rfl, hfinds⟩ := h
      exact isText_iff.mpr (Or.inl hfinds)
  | integer =>
      obtain ⟨n, rfl, k, hk⟩ := h
      by_contra hrefused
      -- Refused though it is a whole number, so it is not written as one of 64 bits.
      refine hfits (.integer hk fun m hm hn => hrefused ?_)
      exact accepts_integer_iff.mpr ⟨m, hm, congrArg Json.number hn⟩
  | wei =>
      obtain ⟨text, rfl, hfinds⟩ := h
      obtain ⟨hne, hdigits⟩ := (Pattern.finds_wei text).mp hfinds
      rw [accepts_wei_iff, trimChars_of_digits hdigits]
      refine ⟨hne, hdigits, ?_⟩
      by_contra hlarge
      exact hfits (.wei hne hdigits (Nat.not_lt.mp hlarge))

/-- What is accepted is described by the schema, if it is written without extras. -/
theorem describes_of_accepts {kind : ParamKind} {value : Json} (h : kind.accepts value = true)
    (htight : ¬ kind.Padded value) (hmarker : ¬ kind.CapitalMarker value) :
    kind.Describes value := by
  cases kind with
  | string | number | boolean => cases value <;> first | exact ⟨_, rfl⟩ | cases h
  | integer => exact describes_integer_of_accepts h
  | choice values =>
      cases value with
      | string text => exact ⟨text, List.contains_iff_mem.mp h, rfl⟩
      | _ => cases h
  | decimal =>
      cases value with
      | string text => exact ⟨text, rfl, isDecimal_iff.mp h⟩
      | _ => cases h
  | address =>
      cases value with
      | string text =>
          rcases isText_iff.mp h with hfinds | ⟨digits, htext, hlength, hdigits⟩
          · exact ⟨text, rfl, hfinds⟩
          · exact absurd (.address htext hlength hdigits) hmarker
      | _ => cases h
  | wei =>
      cases value with
      | string text =>
          obtain ⟨hne, hdigits, hsmall⟩ := accepts_wei_iff.mp h
          have htrims : Text.Trims text.toList (Text.trimChars text.toList) :=
            Text.trims_trimChars _
          have hsame : text.toList = Text.trimChars text.toList := by
            by_contra hpadded
            exact htight (.wei htrims hpadded hne hdigits hsmall)
          rw [← hsame] at hne hdigits
          exact describes_wei_iff.mpr ⟨hne, hdigits⟩
      | _ => cases h

theorem unfit_refused {kind : ParamKind} {value : Json} (h : kind.Unfit value) :
    kind.Describes value ∧ kind.accepts value = false := by
  cases h with
  | @integer n k hvalue hwritten =>
      refine ⟨⟨n, rfl, k, hvalue⟩, Bool.eq_false_iff.mpr fun haccepts => ?_⟩
      obtain ⟨m, hm, heq⟩ := accepts_integer_iff.mp haccepts
      exact hwritten m hm (Json.number.inj heq)
  | @wei text hne hdigits hlarge =>
      refine ⟨describes_wei_iff.mpr ⟨hne, hdigits⟩, Bool.eq_false_iff.mpr fun haccepts => ?_⟩
      obtain ⟨-, -, hsmall⟩ := accepts_wei_iff.mp haccepts
      rw [trimChars_of_digits hdigits] at hsmall
      exact absurd hsmall (Nat.not_lt.mpr hlarge)

theorem padded_accepted {kind : ParamKind} {value : Json} (h : kind.Padded value) :
    ¬ kind.Describes value ∧ kind.accepts value = true := by
  cases h with
  | @wei text body htrims hpadded hne hdigits hsmall =>
      obtain rfl := Text.trimChars_eq_iff.mpr htrims
      refine ⟨fun hdescribes => hpadded ?_, accepts_wei_iff.mpr ⟨hne, hdigits, hsmall⟩⟩
      exact (trimChars_of_digits (describes_wei_iff.mp hdescribes).2).symm

/-! ## Whole objects -/

variable {params : List Param} {fields : List (String × Json)}

def propertiesOf (params : List Param) : List (String × Json) :=
  sortFields (params.map fun p => (p.name, p.schema))

def keywordsOf (params : List Param) : List (String × Json) :=
  sortFields [
    ("type", "object"),
    ("properties", .object (propertiesOf params)),
    ("required", .array ((params.filter (·.required)).map fun p => Json.string p.name)),
    ("additionalProperties", .bool false)]

theorem schemaOf_eq (params : List Param) : schemaOf params = .object (keywordsOf params) := rfl

theorem lookup_keywordsOf (params : List Param) :
    lookup "type" (keywordsOf params) = some "object" ∧
      lookup "properties" (keywordsOf params) = some (.object (propertiesOf params)) ∧
      lookup "required" (keywordsOf params) =
        some (.array ((params.filter (·.required)).map fun p => Json.string p.name)) ∧
      lookup "additionalProperties" (keywordsOf params) = some (.bool false) ∧
      ∀ key ∈ ["minimum", "enum", "pattern"], lookup key (keywordsOf params) = none := by
  simp [keywordsOf, lookup_sortFields, lookup]

theorem lookup_propertiesOf_iff (hnames : (params.map (·.name)).Nodup) {name : String}
    {schema : Json} :
    lookup name (propertiesOf params) = some schema ↔
      ∃ p ∈ params, p.name = name ∧ p.schema = schema := by
  rw [propertiesOf, lookup_sortFields]
  constructor
  · intro h
    obtain ⟨p, hp, heq⟩ := List.mem_map.mp (mem_of_lookup_eq_some h)
    obtain ⟨hname, hschema⟩ := Prod.mk.inj heq
    exact ⟨p, hp, hname, hschema⟩
  · rintro ⟨p, hp, rfl, rfl⟩
    have hmem : (p.name, p.schema) ∈ params.map fun p => (p.name, p.schema) :=
      List.mem_map.mpr ⟨p, hp, rfl⟩
    refine lookup_eq_some_of_mem ?_ hmem
    rw [List.map_map]
    exact hnames

/-- An object conforms if its values are described and what is required is there. -/
theorem conforms_schemaOf_iff (hnames : (params.map (·.name)).Nodup)
    (hdeclared : ∀ field ∈ fields, field.1 ∈ params.map (·.name)) :
    Conforms (schemaOf params) (.object fields) ↔
      (∀ p ∈ params, ∀ value, lookup p.name fields = some value → p.kind.Describes value) ∧
        ∀ p ∈ params, p.required = true → lookup p.name fields ≠ none := by
  obtain ⟨htype, hproperties, hrequired, hadditional, hother⟩ := lookup_keywordsOf params
  rw [schemaOf_eq]
  constructor
  · rintro (- | ⟨-, -, -, -, hvalues, hgiven, -⟩)
    refine ⟨fun p hp value hvalue => ?_, fun p hp hmust => ?_⟩
    · rw [← conforms_schema_iff]
      refine hvalues _ fields p.name p.schema value hproperties rfl ?_ hvalue
      exact (lookup_propertiesOf_iff hnames).mpr ⟨p, hp, rfl, rfl⟩
    · refine hgiven _ fields p.name hrequired rfl (List.mem_map.mpr ⟨p, ?_, rfl⟩)
      exact List.mem_filter.mpr ⟨hp, hmust⟩
  · rintro ⟨hvalues, hgiven⟩
    refine .keywords ?_ ?_ ?_ ?_ ?_ ?_ ?_
    · intro name hname
      obtain rfl : "object" = name := by simpa [htype] using hname
      rfl
    · simp [hother]
    · simp [hother]
    · simp [hother]
    · intro properties given name schema value hlookup hfields hschema hvalue
      obtain rfl : propertiesOf params = properties := by simpa [hproperties] using hlookup
      obtain rfl := Json.object.inj hfields
      obtain ⟨p, hp, rfl, rfl⟩ := (lookup_propertiesOf_iff hnames).mp hschema
      exact (conforms_schema_iff p value).mpr (hvalues p hp value hvalue)
    · intro names given name hlookup hfields hname
      rw [hrequired] at hlookup
      obtain rfl := Json.array.inj (Option.some.inj hlookup)
      obtain rfl := Json.object.inj hfields
      obtain ⟨p, hp, heq⟩ := List.mem_map.mp hname
      obtain ⟨hp, hmust⟩ := List.mem_filter.mp hp
      exact Json.string.inj heq ▸ hgiven p hp hmust
    · intro schema given name value hlookup hfields hvalue hnone
      obtain rfl := Json.object.inj hfields
      -- No value is additional: what is given is declared, so it has a schema of its own.
      obtain ⟨p, hp, hname⟩ := List.mem_map.mp (hdeclared _ (mem_of_lookup_eq_some hvalue))
      have hsome := (lookup_propertiesOf_iff hnames).mpr ⟨p, hp, hname, rfl⟩
      rw [hnone _ hproperties] at hsome
      cases hsome

theorem exists_validate_object_iff (hnonnull : ∀ field ∈ fields, field.2 ≠ .null) :
    (∃ accepted, validate params (.object fields) = .ok accepted) ↔
      (∀ p ∈ params, ∀ value, lookup p.name fields = some value → p.kind.accepts value = true) ∧
        ∀ p ∈ params, p.required = true → p.default = none → lookup p.name fields ≠ none := by
  have hgiven : ∀ name, givenValue (.object fields) name = lookup name fields := by
    intro name
    have hget : (Json.object fields).get? name = lookup name fields := rfl
    rw [givenValue, hget]
    split
    next hnull => exact absurd rfl (hnonnull _ (mem_of_lookup_eq_some hnull))
    next => rfl
  rw [exists_validate_iff (Or.inr ⟨fields, rfl⟩)]
  constructor
  · intro h
    refine ⟨fun p hp value hvalue => ?_, fun p hp hmust hdefault hnone => ?_⟩
    · by_contra hrefused
      exact h p hp _ (.misfit ((hgiven p.name).trans hvalue) (Bool.eq_false_iff.mpr hrefused))
    · exact h p hp _ (.missing ((hgiven p.name).trans hnone) hmust hdefault)
  · rintro ⟨hvalues, hmust⟩ p hp _ (⟨hnone, hrequired, hdefault⟩ | ⟨hvalue, hrefused⟩)
    · exact hmust p hp hrequired hdefault ((hgiven p.name).symm.trans hnone)
    · rw [hvalues p hp _ ((hgiven p.name).symm.trans hvalue)] at hrefused
      cases hrefused

theorem conforms_single_iff (p : Param) (value : Json) :
    Conforms (schemaOf [p]) (.object [(p.name, value)]) ↔ p.kind.Describes value := by
  rw [conforms_schemaOf_iff (by simp) (by simp)]
  simp [lookup]

theorem validate_single_iff (p : Param) {value : Json} (hvalue : value ≠ .null) :
    (∃ accepted, validate [p] (.object [(p.name, value)]) = .ok accepted) ↔
      p.kind.accepts value = true := by
  rw [exists_validate_object_iff (by simpa using hvalue)]
  simp [lookup]

theorem unfit_ne_null {kind : ParamKind} {value : Json} (h : kind.Unfit value) : value ≠ .null := by
  cases h <;> simp

theorem padded_ne_null {kind : ParamKind} {value : Json} (h : kind.Padded value) :
    value ≠ .null := by
  cases h
  simp

/-- What does not fit conforms and is refused. -/
theorem unfit_disagrees (p : Param) {value : Json} (h : p.kind.Unfit value) :
    Conforms (schemaOf [p]) (.object [(p.name, value)]) ∧
      ¬ ∃ accepted, validate [p] (.object [(p.name, value)]) = .ok accepted := by
  obtain ⟨hdescribes, hrefused⟩ := unfit_refused h
  rw [conforms_single_iff, validate_single_iff p (unfit_ne_null h), hrefused]
  exact ⟨hdescribes, Bool.false_ne_true⟩

/-- What has blanks around it is accepted and does not conform. -/
theorem padded_disagrees (p : Param) {value : Json} (h : p.kind.Padded value) :
    ¬ Conforms (schemaOf [p]) (.object [(p.name, value)]) ∧
      ∃ accepted, validate [p] (.object [(p.name, value)]) = .ok accepted := by
  obtain ⟨hother, haccepts⟩ := padded_accepted h
  rw [conforms_single_iff, validate_single_iff p (padded_ne_null h)]
  exact ⟨hother, haccepts⟩

theorem unfit_largeAmount : ParamKind.wei.Unfit
    "115792089237316195423570985008687907853269984665640564039457584007913129639936" :=
  .wei (by decide +kernel) (by decide +kernel) (by decide +kernel)

theorem padded_five : ParamKind.wei.Padded " 5 " :=
  .wei (Text.trimChars_eq_iff.mp rfl) (by decide +kernel) (by decide +kernel) (by decide +kernel)
    (by decide +kernel)

/-- The number that is written `1.0`. -/
def writtenOne : Json := .number (.real ⟨false, 4503599627370496, -52⟩)

theorem unfit_writtenOne : ParamKind.integer.Unfit writtenOne := by
  refine .integer (k := 1) ?_ ?_
  · simp [Number.toRat, Binary64.toRat]
    norm_num
  · simp

/-- An object that conforms is accepted if its values fit. One that is accepted conforms if they are
written without extras and no default stands in for a field that the schema requires. A number or
amount that does not fit conforms and is refused; an amount with blanks around it is accepted and
does not conform. -/
theorem schema_agrees_with_validation :
    (∀ (params : List Param) (fields : List (String × Json)), (params.map (·.name)).Nodup →
      (∀ field ∈ fields, field.1 ∈ params.map (·.name) ∧ field.2 ≠ .null) →
      ((∀ p ∈ params, ∀ value, lookup p.name fields = some value → ¬ p.kind.Unfit value) →
        Conforms (schemaOf params) (.object fields) →
          ∃ accepted, validate params (.object fields) = .ok accepted) ∧
      ((∀ p ∈ params, ∀ value, lookup p.name fields = some value →
          ¬ p.kind.Padded value ∧ ¬ p.kind.CapitalMarker value) →
        (∀ p ∈ params, p.required = true → p.default ≠ none → lookup p.name fields ≠ none) →
        (∃ accepted, validate params (.object fields) = .ok accepted) →
          Conforms (schemaOf params) (.object fields))) ∧
      (∀ (p : Param) (value : Json), p.kind.Unfit value →
        Conforms (schemaOf [p]) (.object [(p.name, value)]) ∧
          ¬ ∃ accepted, validate [p] (.object [(p.name, value)]) = .ok accepted) ∧
      ∀ (p : Param) (value : Json), p.kind.Padded value →
        ¬ Conforms (schemaOf [p]) (.object [(p.name, value)]) ∧
          ∃ accepted, validate [p] (.object [(p.name, value)]) = .ok accepted := by
  refine ⟨fun params fields hnames hfields => ?_, fun p value h => unfit_disagrees p h,
    fun p value h => padded_disagrees p h⟩
  rw [conforms_schemaOf_iff hnames fun field hfield => (hfields field hfield).1,
    exists_validate_object_iff fun field hfield => (hfields field hfield).2]
  constructor
  · rintro hfits ⟨hvalues, hmust⟩
    refine ⟨fun p hp value hvalue => ?_, fun p hp hrequired _ => hmust p hp hrequired⟩
    exact accepts_of_describes (hvalues p hp value hvalue) (hfits p hp value hvalue)
  · rintro hplain hgiven ⟨hvalues, hmust⟩
    refine ⟨fun p hp value hvalue => ?_, fun p hp hrequired => ?_⟩
    · obtain ⟨htight, hmarker⟩ := hplain p hp value hvalue
      exact describes_of_accepts (hvalues p hp value hvalue) htight hmarker
    · by_cases hdefault : p.default = none
      · exact hmust p hp hrequired hdefault
      · exact hgiven p hp hrequired hdefault

/-- An amount and a pool number conform and are accepted, a too large amount only conforms, and an
amount between blanks is only accepted. -/
theorem schema_agrees_on_amounts :
    let amount := Param.mandatory "amount" .wei "Amount"
    let params := [amount, Param.optional "poolId" .integer "Pool ID"]
    let fields : List (String × Json) := [("amount", "5"), ("poolId", .nat 3)]
    let large : Json :=
      "115792089237316195423570985008687907853269984665640564039457584007913129639936"
    (params.map (·.name)).Nodup ∧
      (∀ field ∈ fields, field.1 ∈ params.map (·.name) ∧ field.2 ≠ .null) ∧
      (∀ p ∈ params, ∀ value, lookup p.name fields = some value →
        ¬ p.kind.Unfit value ∧ ¬ p.kind.Padded value ∧ ¬ p.kind.CapitalMarker value) ∧
      (∀ p ∈ params, p.required = true → p.default ≠ none → lookup p.name fields ≠ none) ∧
      Conforms (schemaOf params) (.object fields) ∧
      (∃ accepted, validate params (.object fields) = .ok accepted) ∧
      amount.kind.Unfit large ∧
      (Conforms (schemaOf [amount]) (.object [(amount.name, large)]) ∧
        ¬ ∃ accepted, validate [amount] (.object [(amount.name, large)]) = .ok accepted) ∧
      amount.kind.Padded " 5 " ∧
      (¬ Conforms (schemaOf [amount]) (.object [(amount.name, " 5 ")]) ∧
        ∃ accepted, validate [amount] (.object [(amount.name, " 5 ")]) = .ok accepted) := by
  intro amount params fields large
  have hnames : (params.map (·.name)).Nodup := by decide
  have hfields : ∀ field ∈ fields, field.1 ∈ params.map (·.name) ∧ field.2 ≠ .null := by
    simp [fields, params, amount, Param.mandatory, Param.optional, Json.nat]
  have hplain : ∀ p ∈ params, ∀ value, lookup p.name fields = some value →
      ¬ p.kind.Unfit value ∧ ¬ p.kind.Padded value ∧ ¬ p.kind.CapitalMarker value := by
    intro p hp value hvalue
    simp only [params, List.mem_cons, List.not_mem_nil, or_false] at hp
    rcases hp with rfl | rfl
    · obtain rfl : "5" = value := by simpa [amount, Param.mandatory, fields, lookup] using hvalue
      have htrimmed : Text.trimChars "5".toList = "5".toList := by decide +kernel
      refine ⟨fun h => ?_, fun h => ?_, fun h => ?_⟩
      · cases h with
        | wei hne hdigits hlarge => exact absurd hlarge (by decide +kernel)
      · cases h with
        | wei htrims hpadded => exact hpadded (htrimmed.symm.trans (Text.trimChars_eq_iff.mpr htrims))
      · cases h
    · obtain rfl : Json.nat 3 = value := by simpa [Param.optional, fields, lookup] using hvalue
      refine ⟨fun h => ?_, fun h => ?_, fun h => ?_⟩
      · cases h with
        | integer hvalue hwritten => exact hwritten 3 (by decide) rfl
      · cases h
      · cases h
  have hgiven : ∀ p ∈ params, p.required = true → p.default ≠ none →
      lookup p.name fields ≠ none := by
    simp [params, amount, Param.mandatory, Param.optional]
  have haccepted : ∃ accepted, validate params (.object fields) = .ok accepted := ⟨_, rfl⟩
  obtain ⟨hagrees, hunfit, hpadded⟩ := schema_agrees_with_validation
  obtain ⟨haccepts, hconforms⟩ := hagrees params fields hnames hfields
  have hobject := hconforms (fun p hp value hvalue => (hplain p hp value hvalue).2) hgiven haccepted
  exact ⟨hnames, hfields, hplain, hgiven, hobject,
    haccepts (fun p hp value hvalue => (hplain p hp value hvalue).1) hobject, unfit_largeAmount,
    hunfit amount large unfit_largeAmount, padded_five, hpadded amount " 5 " padded_five⟩

/-- Of these objects each conforms or is accepted, but not both. -/
theorem schema_disagrees_with_validation :
    let amount := Param.mandatory "amount" .wei "Amount"
    let pool := Param.mandatory "poolId" .integer "Pool ID"
    let user := Param.mandatory "userAddress" .address "User"
    let place : Param := ⟨"network", .string, "Network", true, some "ethereum"⟩
    let large : Json :=
      "115792089237316195423570985008687907853269984665640564039457584007913129639936"
    let marked : Json := "0X1234567890123456789012345678901234567890"
    (Conforms (schemaOf [amount]) (.object [("amount", large)]) ∧
        ¬ ∃ accepted, validate [amount] (.object [("amount", large)]) = .ok accepted) ∧
      (¬ Conforms (schemaOf [amount]) (.object [("amount", " 5 ")]) ∧
        ∃ accepted, validate [amount] (.object [("amount", " 5 ")]) = .ok accepted) ∧
      (Conforms (schemaOf [pool]) (.object [("poolId", writtenOne)]) ∧
        ¬ ∃ accepted, validate [pool] (.object [("poolId", writtenOne)]) = .ok accepted) ∧
      (¬ Conforms (schemaOf [user]) (.object [("userAddress", marked)]) ∧
        ∃ accepted, validate [user] (.object [("userAddress", marked)]) = .ok accepted) ∧
      (¬ Conforms (schemaOf [place]) (.object []) ∧
        ∃ accepted, validate [place] (.object []) = .ok accepted) := by
  intro amount pool user place large marked
  refine ⟨unfit_disagrees amount unfit_largeAmount, padded_disagrees amount padded_five,
    unfit_disagrees pool unfit_writtenOne, ⟨?_, _, rfl⟩, ?_, _, rfl⟩
  · refine mt (conforms_single_iff user marked).mp ?_
    rintro ⟨text, htext, hfinds⟩
    obtain rfl := Json.string.inj htext
    obtain ⟨digits, hdigits, -⟩ := (Pattern.finds_address _).mp hfinds
    have hsecond : "0X1234567890123456789012345678901234567890".toList[1]? = some 'X' := by
      decide +kernel
    rw [hdigits] at hsecond
    simp at hsecond
  · rw [conforms_schemaOf_iff (by decide) (by simp)]
    simp [place, lookup]

end StakingGateway.Tool
