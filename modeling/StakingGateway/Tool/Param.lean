import StakingGateway.Address
import StakingGateway.Amount.Parse
import StakingGateway.Json.Basic

/-!
The parameters that a tool declares, and the JSON schema that is published for them.
-/

namespace StakingGateway.Tool

inductive ParamKind where
  | string
  | number
  /-- A whole number from zero up. -/
  | integer
  | boolean
  | choice (values : List String)
  | address
  /-- A whole number of the smallest unit, as a text. -/
  | wei
  /-- A decimal number, as a text. -/
  | decimal
deriving Repr, DecidableEq

namespace ParamKind

/-- Digits, with or without a point and digits behind it. -/
def isDecimal (text : String) : Bool :=
  let isNumber (cs : List Char) := !cs.isEmpty && Text.areDigits cs
  match Text.splitFirst (· == '.') text.toList with
  | (whole, none) => isNumber whole
  | (whole, some fraction) => isNumber whole && isNumber fraction

def accepts : ParamKind → Json → Bool
  | string, .string _ => true
  | number, .number _ => true
  | integer, value => value.natural?.isSome
  | boolean, .bool _ => true
  | choice values, .string text => values.contains text
  | address, .string text => Address.isText text
  | wei, .string text => (Amount.parseWei text).isOk
  | decimal, .string text => isDecimal text
  | _, _ => false

def expected : ParamKind → String
  | string => "a string"
  | number => "a number"
  | integer => "a non-negative integer"
  | boolean => "a boolean"
  | choice values => "one of [" ++ ", ".intercalate values ++ "]"
  | address => "a 0x-prefixed 20-byte hex address"
  | wei => "a decimal integer string (wei)"
  | decimal => "a decimal amount string"

def schema : ParamKind → List (String × Json)
  | string => [("type", "string")]
  | number => [("type", "number")]
  | integer => [("type", "integer"), ("minimum", Json.nat 0)]
  | boolean => [("type", "boolean")]
  | choice values => [("type", "string"), ("enum", .array (values.map Json.string))]
  | address => [("type", "string"), ("pattern", "^0x[0-9a-fA-F]\x7b40\x7d$")]
  | wei => [("type", "string"), ("pattern", "^[0-9]+$")]
  | decimal => [("type", "string"), ("pattern", "^[0-9]+(\\.[0-9]+)?$")]

end ParamKind

structure Param where
  name : String
  kind : ParamKind
  description : String
  required : Bool
  default : Option Json
deriving Repr

namespace Param

def mandatory (name : String) (kind : ParamKind) (description : String) : Param :=
  ⟨name, kind, description, true, none⟩

def optional (name : String) (kind : ParamKind) (description : String) : Param :=
  ⟨name, kind, description, false, none⟩

/-- The parameter that takes a default value when it is not given, and so need not be given. -/
def withDefault (p : Param) (value : Json) : Param :=
  { p with required := false, default := some value }

def schema (p : Param) : Json :=
  .obj (p.kind.schema ++ [("description", Json.string p.description)] ++
    (p.default.map fun value => ("default", value)).toList)

end Param

def schemaOf (params : List Param) : Json :=
  .obj [
    ("type", "object"),
    ("properties", .obj (params.map fun p => (p.name, p.schema))),
    ("required", .array ((params.filter (·.required)).map fun p => Json.string p.name)),
    ("additionalProperties", .bool false)]

end StakingGateway.Tool
