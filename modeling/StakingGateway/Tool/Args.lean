import StakingGateway.Json.Inspect
import StakingGateway.Tool.Error
import StakingGateway.Tool.Param

/-!
Arguments: their validation against declared parameters, which reports every problem at once, and
typed access to what was accepted.
-/

namespace StakingGateway.Tool

/-- Accepted arguments, in the order of their names. -/
structure Args where
  fields : List (String × Json)
deriving Repr, Inhabited

inductive Verdict where
  | keep (value : Json)
  | absent
  | reject (problem : String)
deriving Repr

/-- The verdict on the value that is given for a parameter; null counts as not given. -/
def Param.judge (p : Param) : (given : Json) → Verdict
  | .null =>
    match p.default with
    | some value => .keep value
    | none => if p.required then .reject "is required" else .absent
  | value =>
    if p.kind.accepts value then .keep value else .reject s!"must be {p.kind.expected}"

def Verdict.issue? (field : String) : Verdict → Option Issue
  | reject problem => some ⟨field, problem⟩
  | _ => none

def Verdict.kept? (field : String) : Verdict → Option (String × Json)
  | keep value => some (field, value)
  | _ => none

def Param.given (p : Param) (fields : List (String × Json)) : Json :=
  Json.ofOption (Json.lookup p.name fields)

/-- Judges every parameter. Fields that are not declared are dropped. -/
def validateFields (params : List Param) (fields : List (String × Json)) :
    Except (List Issue) Args :=
  let issues := params.filterMap fun p => (p.judge (p.given fields)).issue? p.name
  if issues.isEmpty then
    .ok ⟨Json.sortFields (params.filterMap fun p => (p.judge (p.given fields)).kept? p.name)⟩
  else .error issues

/-- Arguments are an object; null stands for the object without fields. -/
def validate (params : List Param) : Json → Except (List Issue) Args
  | .object fields => validateFields params fields
  | .null => validateFields params []
  | _ => .error [⟨"arguments", "must be a JSON object"⟩]

namespace Args

def get? (args : Args) (name : String) : Option Json :=
  Json.lookup name args.fields

def text? (args : Args) (name : String) : Option String :=
  (args.get? name).bind Json.string?

def text (args : Args) (name : String) : Except ArgumentError String :=
  match args.text? name with
  | some text => .ok text
  | none => .error ⟨name, "missing string value"⟩

def natural? (args : Args) (name : String) : Option Nat :=
  (args.get? name).bind Json.natural?

def natural (args : Args) (name : String) : Except ArgumentError Nat :=
  match args.natural? name with
  | some n => .ok n
  | none => .error ⟨name, "missing non-negative integer"⟩

def address (args : Args) (name : String) : Except ArgumentError Address := do
  match Address.ofText? (← args.text name) with
  | some a => return a
  | none => throw ⟨name, "not a valid address"⟩

/-- The address, if a text is given at all. -/
def address? (args : Args) (name : String) : Except ArgumentError (Option Address) :=
  match args.text? name with
  | some _ => (args.address name).map some
  | none => .ok none

def wei (args : Args) (name : String) : Except ArgumentError Uint256 := do
  (Amount.parseWei (← args.text name)).mapError fun e => ⟨name, e.message⟩

/-- A decimal number of a token with that many places. -/
def units (args : Args) (name : String) (decimals : Nat) : Except ArgumentError Uint256 := do
  (Amount.parseUnits (← args.text name) decimals).mapError fun e => ⟨name, e.message⟩

def keyField : String := "privateKey"

/-- The fields whose values are never shown. -/
def hidden : List String := [keyField]

def fieldChars (field : String × Json) : List Char :=
  Text.quotedChars field.1.toList ++ ':' :: ' ' ::
    (if hidden.contains field.1 then Text.quotedChars "[REDACTED]".toList
      else field.2.inspectChars)

/-- The arguments as they may be noted down. -/
def inspect (args : Args) : String :=
  String.ofList
    ('\x7b' :: (List.intercalate [',', ' '] (args.fields.map fieldChars) ++ ['\x7d']))

end Args

end StakingGateway.Tool
