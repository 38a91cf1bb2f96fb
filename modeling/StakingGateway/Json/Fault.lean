import StakingGateway.Json.Printer
import StakingGateway.Text.Quoted

/-!
What can be wrong with a JSON text or with the shape of a JSON value, and the wording of each
cause.
-/

namespace StakingGateway.Json

/-- What stood where something else was wanted. -/
inductive Found where
  | null
  | bool (value : Bool)
  | number (value : Json.Number)
  | string (text : String)
  | list
  | object
deriving Repr, DecidableEq

def Found.ofJson : Json → Found
  | .null => null
  | .bool value => bool value
  | .number value => number value
  | .string text => string text
  | .array _ => list
  | .object _ => object

def Found.message : Found → String
  | null => "null"
  | bool true => "boolean `true`"
  | bool false => "boolean `false`"
  | number (.integer value) => "integer `" ++ String.ofList (integerChars value) ++ "`"
  | number (.real value) => "floating point `" ++ value.text ++ "`"
  | string text => "string " ++ Text.quoted text
  | list => "sequence"
  | object => "map"

inductive Fault where
  | endInList
  | endInObject
  | endInString
  | endInValue
  | missingColon
  | unclosedList
  | unclosedObject
  | unknownWord
  | missingValue
  | badEscape
  | badNumber
  | numberTooLarge
  | controlCharacter
  | keyNotString
  | loneSurrogate
  | halfSurrogate
  | trailingComma
  | trailingText
  | tooDeep
  | wrongType (found : Found) (wanted : String)
  | wrongLength (length : Nat) (wanted : String)
  | wrongValue (found : Found) (wanted : String)
  | missingField (name : String)
  | repeatedField (name : String)
deriving Repr, DecidableEq

/-- Is the text well-formed and only its shape wrong? -/
def Fault.isShape : Fault → Bool
  | wrongType .. | wrongLength .. | wrongValue .. | missingField _ | repeatedField _ => true
  | _ => false

def Fault.message : Fault → String
  | endInList => "EOF while parsing a list"
  | endInObject => "EOF while parsing an object"
  | endInString => "EOF while parsing a string"
  | endInValue => "EOF while parsing a value"
  | missingColon => "expected `:`"
  | unclosedList => "expected `,` or `]`"
  | unclosedObject => "expected `,` or `\x7d`"
  | unknownWord => "expected ident"
  | missingValue => "expected value"
  | badEscape => "invalid escape"
  | badNumber => "invalid number"
  | numberTooLarge => "number out of range"
  | controlCharacter =>
    "control character (\\u0000-\\u001F) found while parsing a string"
  | keyNotString => "key must be a string"
  | loneSurrogate => "lone leading surrogate in hex escape"
  | halfSurrogate => "unexpected end of hex escape"
  | trailingComma => "trailing comma"
  | trailingText => "trailing characters"
  | tooDeep => "recursion limit exceeded"
  | wrongType found wanted => s!"invalid type: {found.message}, expected {wanted}"
  | wrongLength length wanted => s!"invalid length {length}, expected {wanted}"
  | wrongValue found wanted => s!"invalid value: {found.message}, expected {wanted}"
  | missingField name => s!"missing field `{name}`"
  | repeatedField name => s!"duplicate field `{name}`"

/-- A place in a text: lines count from one, columns in bytes from zero. -/
structure Position where
  line : Nat
  column : Nat
deriving Repr, DecidableEq

structure Complaint where
  fault : Fault
  place : Position
deriving Repr, DecidableEq

def Complaint.message (c : Complaint) : String :=
  s!"{c.fault.message} at line {c.place.line} column {c.place.column}"

end StakingGateway.Json
