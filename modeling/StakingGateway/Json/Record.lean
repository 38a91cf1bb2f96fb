import StakingGateway.Json.Skip

/-!
Records: values with a fixed set of named fields. A record is written as an object or as a list
of its fields in their order. Fields with other names are ignored. The same record can be read
from a value and from a text; from a text, complaints name a place.
-/

namespace StakingGateway.Json

inductive Wanted where
  | text
  | truth
  | any
  | checked (check : Json → Except Fault Unit)

structure Slot where
  name : String
  wanted : Wanted

/-- A kind of record: its name in messages and its fields in order. -/
structure Record where
  name : String
  slots : List Slot

/-- The fields that a value gives for a record. -/
structure Given where
  fields : List (String × Json)
  /-- The complaint about a field that is not there. -/
  absent : String → Fault

def Wanted.check : Wanted → Json → Except Fault Unit
  | text, .string _ => .ok ()
  | text, value => .error (.wrongType (Found.ofJson value) "a string")
  | truth, .bool _ => .ok ()
  | truth, value => .error (.wrongType (Found.ofJson value) "a boolean")
  | any, _ => .ok ()
  | checked check, value => check value

def Record.slot? (r : Record) (name : String) : Option Slot :=
  r.slots.find? (·.name = name)

def Record.expectation (r : Record) : String := "struct " ++ r.name

def Record.shortList (r : Record) (name : String) : Fault :=
  .wrongLength (r.slots.findIdx (·.name = name)) s!"{r.expectation} with {r.slots.length} elements"

def Record.ofObject (r : Record) (fields : List (String × Json)) : Given :=
  { fields := fields.filter fun field => (r.slot? field.1).isSome
    absent := .missingField }

def Record.ofList (r : Record) (items : List Json) : Given :=
  { fields := (r.slots.map Slot.name).zip items
    absent := r.shortList }

def Given.get? (g : Given) (name : String) : Option Json :=
  lookup name g.fields

/-- Checks the fields in the order in which they are given. -/
def Record.checkAll (r : Record) (g : Given) : Except Fault Unit :=
  g.fields.forM fun (name, value) =>
    match r.slot? name with
    | some slot => slot.wanted.check value
    | none => .ok ()

def Given.text (g : Given) (name : String) : Except Fault String :=
  match g.get? name with
  | some (.string text) => .ok text
  | some value => .error (.wrongType (Found.ofJson value) "a string")
  | none => .error (g.absent name)

def Given.truth (g : Given) (name : String) : Except Fault Bool :=
  match g.get? name with
  | some (.bool value) => .ok value
  | some value => .error (.wrongType (Found.ofJson value) "a boolean")
  | none => .error (g.absent name)

def Given.textOr (g : Given) (name : String) (otherwise : String) : Except Fault String :=
  match g.get? name with
  | none => .ok otherwise
  | some _ => g.text name

/-- The value of a field; null counts as nothing. -/
def Given.value? (g : Given) (name : String) : Option Json :=
  (g.get? name).filter (!·.isNull)

/-- The value of a field that may be missing from an object, though not from a list. -/
def Given.side (g : Given) (name : String) : Except Fault (Option Json) :=
  match g.get? name, g.absent name with
  | none, .wrongLength length wanted => .error (.wrongLength length wanted)
  | _, _ => .ok (g.value? name)

def Record.decode {α : Type} (r : Record) (build : Given → Except Fault α) :
    Json → Except Fault α
  | .object fields => do
    let given := r.ofObject fields
    r.checkAll given
    build given
  | .array items => do
    let given := r.ofList items
    r.checkAll given
    let result ← build given
    if r.slots.length < items.length then
      throw (.wrongLength items.length "fewer elements in array")
    return result
  | value => .error (.wrongType (Found.ofJson value) r.expectation)

namespace Reader

/-- A complaint that the next value is of the wrong kind; plain values are read to the end. -/
def wrongKind {α : Type} (wanted : String) : Reader α := do
  match ← peek with
  | some '[' => fail (.wrongType .list wanted)
  | some '\x7b' => fail (.wrongType .object wanted)
  | _ =>
    let found ← value 0
    fail (.wrongType (Found.ofJson found) wanted)

def slotValue (depth : Nat) (wanted : Wanted) : Reader Json := do
  match wanted with
  | .text =>
    match ← peekPastSpaces with
    | none => failAhead .endInValue
    | some '"' =>
      eat
      return .string (← stringBody)
    | some _ => wrongKind "a string"
  | wanted =>
    let found ← value depth
    match wanted.check found with
    | .ok () => return found
    | .error fault => fail fault

/-- The fields of a record written as an object; fields of other names are passed over. A field
that comes twice ends the reading. -/
def recordFields (depth : Nat) (r : Record) : (fuel : Nat) → (first : Bool) →
    (seen : List (String × Json)) → Reader (Except Fault (List (String × Json)))
  | 0, _, _ => fail .endInObject
  | fuel + 1, first, seen => do
    if ← hasField first then
      eat
      let name ← stringBody
      match r.slot? name with
      | some slot =>
        if seen.any (·.1 = name) then return .error (.repeatedField name)
        else
          colon
          let found ← slotValue depth slot.wanted
          recordFields depth r fuel false (seen ++ [(name, found)])
      | none =>
        colon
        skipValue
        recordFields depth r fuel false seen
    else return .ok seen

/-- The leading items of a list that stand for the fields of a record. -/
def recordItems (depth : Nat) : List Slot → (first : Bool) → Reader (List Json)
  | [], _ => return []
  | slot :: rest, first => do
    if ← hasItem first then
      let found ← slotValue depth slot.wanted
      return found :: (← recordItems depth rest false)
    else return []

/-- Goes behind the end of an object, or as far towards it as the text allows. -/
def leaveObject : Reader Unit := do
  match ← peekPastSpaces with
  | some '}' => eat
  | _ => return ()

def leaveList : Reader Unit := do
  match ← peekPastSpaces with
  | some ']' => eat
  | some ',' =>
    eat
    let _ ← peekPastSpaces
  | _ => return ()

/-- Gives the result and closes what was read, or complains from behind the end. -/
def closing {α : Type} (close leave : Reader Unit) : Except Fault α → Reader α
  | .ok result => do
    close
    return result
  | .error fault => do
    leave
    fail fault

/-- Reads a record in whose fields at most `depth` lists and objects stand inside each other. -/
def record {α : Type} (depth : Nat) (r : Record) (build : Given → Except Fault α) :
    Reader α := do
  match ← peekPastSpaces with
  | none => failAhead .endInValue
  | some '[' =>
    eat
    let found ← recordItems depth r.slots true
    closing closeList leaveList (build (r.ofList found))
  | some '{' =>
    eat
    let fuel ← remaining
    match ← recordFields depth r (fuel + 1) true [] with
    | .ok found => closing closeObject leaveObject (build (r.ofObject found))
    | .error fault => closing closeObject leaveObject (.error fault)
  | some _ => wrongKind r.expectation

end Reader

/-- Reads a record from the start of a text and ignores what follows it. -/
def Record.parseFirst {α : Type} (r : Record) (build : Given → Except Fault α) (text : String) :
    Except Complaint α := do
  let (result, _) ← Reader.record (depthLimit - 1) r build (Cursor.start text.toList)
  return result

def Record.parse {α : Type} (r : Record) (build : Given → Except Fault α) (text : String) :
    Except Complaint α := do
  let (result, rest) ← Reader.record (depthLimit - 1) r build (Cursor.start text.toList)
  let _ ← Reader.finish rest
  return result

end StakingGateway.Json
