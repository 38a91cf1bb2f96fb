import StakingGateway.Bytes.Hex
import StakingGateway.Json.Numeral

/-!
Reading JSON text. `Reader.value` reads one value as it stands, with the fields of objects in
the order of the text; `parse` takes a whole text and puts the fields in normal order.
-/

namespace StakingGateway.Json

namespace Reader

/-- Four hexadecimal digits, which are taken as four bytes. -/
def hex4 : Reader Nat := fun c =>
  if (String.ofList (c.rest.take 4)).utf8ByteSize < 4 then
    .error ⟨.endInString, c.place.afterBytes 4 c.rest⟩
  else
    match (c.rest.take 4).mapM Bytes.hexValue? with
    | some digits =>
      .ok (digits.foldl (fun n d => n * 16 + d) 0, c.eat.eat.eat.eat)
    | none => .error ⟨.badEscape, c.place.afterBytes 4 c.rest⟩

/-- Takes the letter `wanted` between the two halves of a surrogate pair. -/
def surrogateMark (wanted : Char) : Reader Unit := do
  match ← peek with
  | none => fail .endInString
  | some c => if c = wanted then eat else failAhead .halfSurrogate

def numberedEscape : Reader Char := do
  let high ← hex4
  if 0xDC00 ≤ high && high ≤ 0xDFFF then fail .loneSurrogate
  else if 0xD800 ≤ high && high ≤ 0xDBFF then
    surrogateMark '\\'
    surrogateMark 'u'
    let low ← hex4
    if 0xDC00 ≤ low && low ≤ 0xDFFF then
      return Char.ofNat (0x10000 + (high - 0xD800) * 0x400 + (low - 0xDC00))
    else fail .loneSurrogate
  else return Char.ofNat high

def escape : Reader Char := do
  match ← peek with
  | none => fail .endInString
  | some c =>
    match c with
    | '"' => eat; return '"'
    | '\\' => eat; return '\\'
    | '/' => eat; return '/'
    | 'b' => eat; return '\x08'
    | 'f' => eat; return '\x0c'
    | 'n' => eat; return '\n'
    | 'r' => eat; return '\r'
    | 't' => eat; return '\t'
    | 'u' => eat; numberedEscape
    | _ => failAhead .badEscape

/-- The characters of a string up to its closing quote; `fuel` bounds their number. -/
def stringTail : (fuel : Nat) → Reader (List Char)
  | 0 => fail .endInString
  | fuel + 1 => do
    match ← peek with
    | none => fail .endInString
    | some c =>
      if c = '"' then
        eat
        return []
      else if c = '\\' then
        eat
        let x ← escape
        return x :: (← stringTail fuel)
      else if c.toNat < 0x20 then failAhead .controlCharacter
      else
        eat
        return c :: (← stringTail fuel)

/-- A string whose opening quote has been read. -/
def stringBody : Reader String := do
  let fuel ← remaining
  return String.ofList (← stringTail (fuel + 1))

/-- Goes to the next item of a list, or stops before the closing bracket. -/
def hasItem (first : Bool) : Reader Bool := do
  match ← peekPastSpaces with
  | none => failAhead .endInList
  | some c =>
    if c = ']' then return false
    else if first then return true
    else if c = ',' then
      eat
      match ← peekPastSpaces with
      | none => failAhead .endInValue
      | some c => if c = ']' then failAhead .trailingComma else return true
    else failAhead .unclosedList

def hasField (first : Bool) : Reader Bool := do
  match ← peekPastSpaces with
  | none => failAhead .endInObject
  | some c =>
    if c = '\x7d' then return false
    else if first then
      if c = '"' then return true else failAhead .keyNotString
    else if c = ',' then
      eat
      match ← peekPastSpaces with
      | none => failAhead .endInValue
      | some c =>
        if c = '"' then return true
        else if c = '\x7d' then failAhead .trailingComma
        else failAhead .keyNotString
    else failAhead .unclosedObject

def colon : Reader Unit := do
  match ← peekPastSpaces with
  | some c => if c = ':' then eat else failAhead .missingColon
  | none => failAhead .endInObject

def closeList : Reader Unit := do
  match ← peekPastSpaces with
  | none => failAhead .endInList
  | some c =>
    if c = ']' then eat
    else if c = ',' then
      eat
      match ← peekPastSpaces with
      | some ']' => failAhead .trailingComma
      | _ => failAhead .trailingText
    else failAhead .trailingText

def closeObject : Reader Unit := do
  match ← peekPastSpaces with
  | none => failAhead .endInObject
  | some c =>
    if c = '\x7d' then eat
    else if c = ',' then failAhead .trailingComma
    else failAhead .trailingText

def items (item : Reader Json) : (fuel : Nat) → (first : Bool) → Reader (List Json)
  | 0, _ => fail .endInList
  | fuel + 1, first => do
    if ← hasItem first then
      let value ← item
      return value :: (← items item fuel false)
    else return []

def fields (value : Reader Json) :
    (fuel : Nat) → (first : Bool) → Reader (List (String × Json))
  | 0, _ => fail .endInObject
  | fuel + 1, first => do
    if ← hasField first then
      eat
      let name ← stringBody
      colon
      let found ← value
      return (name, found) :: (← fields value fuel false)
    else return []

def listOf (item : Reader Json) : Reader Json := do
  eat
  let fuel ← remaining
  let values ← items item (fuel + 1) true
  closeList
  return .array values

def objectOf (value : Reader Json) : Reader Json := do
  eat
  let fuel ← remaining
  let found ← fields value (fuel + 1) true
  closeObject
  return .object found

def valueWith (list object : Reader Json) : Reader Json := do
  match ← peekPastSpaces with
  | none => failAhead .endInValue
  | some c =>
    match c with
    | 'n' => eat; word ['u', 'l', 'l']; return .null
    | 't' => eat; word ['r', 'u', 'e']; return .bool true
    | 'f' => eat; word ['a', 'l', 's', 'e']; return .bool false
    | '-' => eat; return .number (← numeral true)
    | '"' => eat; return .string (← stringBody)
    | '[' => list
    | '\x7b' => object
    | c => if c.isDigit then return .number (← numeral false) else failAhead .missingValue

/-- A value in which at most `depth` lists and objects stand inside each other. -/
def value : (depth : Nat) → Reader Json
  | 0 => valueWith (failAhead .tooDeep) (failAhead .tooDeep)
  | depth + 1 => valueWith (listOf (value depth)) (objectOf (value depth))

/-- Nothing but blanks may follow. -/
def finish : Reader Unit := do
  match ← peekPastSpaces with
  | none => return ()
  | some _ => failAhead .trailingText

end Reader

/-- The number of lists and objects that may stand inside each other. -/
def depthLimit : Nat := 127

def parseRaw (text : List Char) : Except Complaint Json := do
  let (found, rest) ← Reader.value depthLimit (Cursor.start text)
  let _ ← Reader.finish rest
  return found

def parse (text : String) : Except Complaint Json :=
  (parseRaw text.toList).map normal

/-- Reads the first value of a text and ignores what follows it. -/
def parseFirst (text : String) : Except Complaint Json := do
  let (found, _) ← Reader.value depthLimit (Cursor.start text.toList)
  return found.normal

end StakingGateway.Json
