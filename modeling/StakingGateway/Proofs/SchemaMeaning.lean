import Mathlib.Data.Rat.Floor
import StakingGateway.Proofs.Fields
import StakingGateway.Proofs.SchemaPattern
import StakingGateway.Tool.Param

/-!
# What a schema says

`Json.Conforms` is the meaning of the keywords that published schemas use, for any schema made of
them and any value: types, limits, enumerations and patterns speak of values of one type only, and a
number is an integer if it has no fraction, however it is written. Keywords that describe a value
without a demand on it are passed over. What the schema of a kind of parameter says is then said for
each kind in turn.
-/

namespace StakingGateway

def Binary64.toRat (x : Binary64) : ℚ :=
  (if x.negative then -1 else 1) * x.mantissa * 2 ^ x.exponent

namespace Json

def Number.toRat : Number → ℚ
  | integer value => value
  | real value => value.toRat

def HasType (name : String) : Json → Prop
  | null => name = "null"
  | bool _ => name = "boolean"
  | number n => name = "number" ∨ name = "integer" ∧ ∃ k : ℤ, n.toRat = k
  | string _ => name = "string"
  | array _ => name = "array"
  | object _ => name = "object"

inductive Conforms : (schema value : Json) → Prop
  | anything (value : Json) : Conforms (.bool true) value
  | keywords {schema : List (String × Json)} {value : Json}
      (htype : ∀ name, lookup "type" schema = some (.string name) → value.HasType name)
      (hminimum : ∀ limit n, lookup "minimum" schema = some (.number limit) → value = .number n →
        limit.toRat ≤ n.toRat)
      (henum : ∀ items, lookup "enum" schema = some (.array items) → value ∈ items)
      (hpattern : ∀ written text, lookup "pattern" schema = some (.string written) →
        value = .string text → Pattern.Finds written text)
      (hproperties : ∀ properties fields name sub given,
        lookup "properties" schema = some (.object properties) → value = .object fields →
        lookup name properties = some sub → lookup name fields = some given → Conforms sub given)
      (hrequired : ∀ names fields name, lookup "required" schema = some (.array names) →
        value = .object fields → .string name ∈ names → lookup name fields ≠ none)
      (hadditional : ∀ sub fields name given,
        lookup "additionalProperties" schema = some sub → value = .object fields →
        lookup name fields = some given →
        (∀ properties, lookup "properties" schema = some (.object properties) →
          lookup name properties = none) → Conforms sub given) :
      Conforms (.object schema) value

/-- A schema without a word on the fields of objects. -/
theorem conforms_plain {schema : List (String × Json)} {value : Json}
    (hproperties : lookup "properties" schema = none) (hrequired : lookup "required" schema = none)
    (hadditional : lookup "additionalProperties" schema = none) :
    Conforms (.object schema) value ↔
      (∀ name, lookup "type" schema = some (.string name) → value.HasType name) ∧
      (∀ limit n, lookup "minimum" schema = some (.number limit) → value = .number n →
        limit.toRat ≤ n.toRat) ∧
      (∀ items, lookup "enum" schema = some (.array items) → value ∈ items) ∧
      ∀ written text, lookup "pattern" schema = some (.string written) → value = .string text →
        Pattern.Finds written text := by
  constructor
  · rintro (- | ⟨htype, hminimum, henum, hpattern, -, -, -⟩)
    exact ⟨htype, hminimum, henum, hpattern⟩
  · rintro ⟨htype, hminimum, henum, hpattern⟩
    exact .keywords htype hminimum henum hpattern (by simp [hproperties]) (by simp [hrequired])
      (by simp [hadditional])

end Json

namespace Tool

open Json

/-- What the schema of a kind says of a value. -/
def ParamKind.Describes : ParamKind → Json → Prop
  | string, value => ∃ text, value = .string text
  | number, value => ∃ n, value = .number n
  | integer, value => ∃ n, value = .number n ∧ ∃ k : ℕ, n.toRat = k
  | boolean, value => ∃ truth, value = .bool truth
  | choice values, value => ∃ text ∈ values, value = .string text
  | address, value => ∃ text, value = .string text ∧
      Pattern.Finds "^0x[0-9a-fA-F]\x7b40\x7d$" text
  | wei, value => ∃ text, value = .string text ∧ Pattern.Finds "^[0-9]+$" text
  | decimal, value => ∃ text, value = .string text ∧ Pattern.Finds "^[0-9]+(\\.[0-9]+)?$" text

def Param.keywords (p : Param) : List (String × Json) :=
  sortFields (p.kind.schema ++ [("description", Json.string p.description)] ++
    (p.default.map fun value => ("default", value)).toList)

theorem Param.lookup_keywords (p : Param) {key : String} (hdescription : key ≠ "description")
    (hdefault : key ≠ "default") : lookup key p.keywords = lookup key p.kind.schema := by
  have hrest : lookup key ([("description", Json.string p.description)] ++
      (p.default.map fun value => ("default", value)).toList) = none := by
    cases p.default <;> simp [lookup, hdescription.symm, hdefault.symm]
  rw [keywords, lookup_sortFields, List.append_assoc, lookup_append, hrest, Option.none_or]

theorem hasType_string {value : Json} : value.HasType "string" ↔ ∃ text, value = .string text := by
  cases value <;> simp [HasType]

theorem hasType_number {value : Json} : value.HasType "number" ↔ ∃ n, value = .number n := by
  cases value <;> simp [HasType]

theorem hasType_integer {value : Json} :
    value.HasType "integer" ↔ ∃ n, value = .number n ∧ ∃ k : ℤ, n.toRat = k := by
  cases value <;> simp [HasType]

theorem hasType_boolean {value : Json} :
    value.HasType "boolean" ↔ ∃ truth, value = .bool truth := by
  cases value <;> simp [HasType]

/-- A demand on texts, of a value that has to be a text. -/
theorem text_and_pattern_iff {value : Json} {written : String} :
    ((∃ text, value = .string text) ∧
        ∀ other text, written = other → value = .string text → Pattern.Finds other text) ↔
      ∃ text, value = .string text ∧ Pattern.Finds written text := by
  constructor
  · rintro ⟨⟨text, rfl⟩, hpattern⟩
    exact ⟨text, rfl, hpattern written text rfl rfl⟩
  · rintro ⟨text, rfl, hfinds⟩
    refine ⟨⟨text, rfl⟩, fun other same hother hsame => ?_⟩
    rwa [← hother, ← Json.string.inj hsame]

/-- An integer that is not below zero. -/
theorem integer_and_minimum_iff {value : Json} :
    ((∃ n, value = .number n ∧ ∃ k : ℤ, n.toRat = k) ∧
        ∀ limit n, Json.nat 0 = .number limit → value = .number n → limit.toRat ≤ n.toRat) ↔
      ∃ n, value = .number n ∧ ∃ k : ℕ, n.toRat = k := by
  constructor
  · rintro ⟨⟨n, rfl, k, hk⟩, hminimum⟩
    have hle : Number.toRat (.integer 0) ≤ n.toRat := hminimum _ n rfl rfl
    rw [Number.toRat, hk, Int.cast_le] at hle
    obtain ⟨m, rfl⟩ := Int.eq_ofNat_of_zero_le hle
    exact ⟨n, rfl, m, by rw [hk, Int.cast_natCast]⟩
  · rintro ⟨n, rfl, k, hk⟩
    refine ⟨⟨n, rfl, k, by rw [hk, Int.cast_natCast]⟩, fun limit same hlimit hsame => ?_⟩
    obtain rfl : .integer 0 = limit := Json.number.inj hlimit
    rw [← Json.number.inj hsame, hk, Number.toRat, Int.cast_zero]
    exact Nat.cast_nonneg k

theorem text_and_enum_iff {value : Json} {values : List String} :
    ((∃ text, value = .string text) ∧ value ∈ values.map Json.string) ↔
      ∃ text ∈ values, value = .string text := by
  constructor
  · rintro ⟨-, hmem⟩
    obtain ⟨text, htext, rfl⟩ := List.mem_map.mp hmem
    exact ⟨text, htext, rfl⟩
  · rintro ⟨text, htext, rfl⟩
    exact ⟨⟨text, rfl⟩, List.mem_map.mpr ⟨text, htext, rfl⟩⟩

theorem conforms_schema_iff (p : Param) (value : Json) :
    Conforms p.schema value ↔ p.kind.Describes value := by
  have hkey : ∀ key ∈ ["type", "minimum", "enum", "pattern", "properties", "required",
      "additionalProperties"], lookup key p.keywords = lookup key p.kind.schema := by
    intro key hkey
    refine p.lookup_keywords ?_ ?_ <;> rintro rfl <;> simp at hkey
  simp only [List.forall_mem_cons, List.not_mem_nil, false_imp_iff, implies_true, and_true] at hkey
  obtain ⟨htype, hminimum, henum, hpattern, hproperties, hrequired, hadditional⟩ := hkey
  have hschema : p.schema = .object p.keywords := rfl
  rw [hschema, conforms_plain, htype, hminimum, henum, hpattern]
  · cases p.kind with
    | string => simp [ParamKind.schema, ParamKind.Describes, lookup, hasType_string]
    | number => simp [ParamKind.schema, ParamKind.Describes, lookup, hasType_number]
    | integer =>
        simpa [ParamKind.schema, ParamKind.Describes, lookup, hasType_integer] using
          integer_and_minimum_iff
    | boolean => simp [ParamKind.schema, ParamKind.Describes, lookup, hasType_boolean]
    | choice values =>
        simpa [ParamKind.schema, ParamKind.Describes, lookup, hasType_string] using
          text_and_enum_iff
    | address | wei | decimal =>
        simpa [ParamKind.schema, ParamKind.Describes, lookup, hasType_string] using
          text_and_pattern_iff
  · rw [hproperties]
    cases p.kind <;> rfl
  · rw [hrequired]
    cases p.kind <;> rfl
  · rw [hadditional]
    cases p.kind <;> rfl

end Tool

end StakingGateway
