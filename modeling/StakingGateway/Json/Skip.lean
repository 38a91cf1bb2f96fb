import StakingGateway.Json.Parser

/-!
Passing over a JSON value without keeping it. Lists and objects may stand inside each other to
any depth here, numbers may be of any size, and surrogates need no partner.
-/

namespace StakingGateway.Json.Reader

inductive Frame where
  | list
  | object
deriving Repr, DecidableEq

def skipExponent : Reader Unit := do
  eat
  match ← peek with
  | some '+' | some '-' => eat
  | _ => pure ()
  match ← peek with
  | none => fail .badNumber
  | some c =>
    if c.isDigit then
      let _ ← span Char.isDigit
    else failAhead .badNumber

def skipExponentOrNothing : Reader Unit := do
  match ← peek with
  | some 'e' | some 'E' => skipExponent
  | _ => pure ()

def skipFraction : Reader Unit := do
  eat
  let digits ← span Char.isDigit
  if digits.isEmpty then failAhead .badNumber else skipExponentOrNothing

def skipNumeral : Reader Unit := do
  match ← peek with
  | none => fail .badNumber
  | some '0' =>
    eat
    match ← peek with
    | some c => if c.isDigit then failAhead .badNumber
    | none => pure ()
  | some c =>
    if !c.isDigit then failAhead .badNumber
    else
      let _ ← span Char.isDigit
  match ← peek with
  | some '.' => skipFraction
  | _ => skipExponentOrNothing

def skipEscape : Reader Unit := do
  match ← peek with
  | none => fail .endInString
  | some c =>
    if c = 'u' then
      eat
      let _ ← hex4
    else if c ∈ ['"', '\\', '/', 'b', 'f', 'n', 'r', 't'] then eat
    else failAhead .badEscape

/-- Passes a string whose opening quote has been read; `fuel` bounds its length. -/
def skipString : (fuel : Nat) → Reader Unit
  | 0 => fail .endInString
  | fuel + 1 => do
    match ← peek with
    | none => fail .endInString
    | some c =>
      if c = '"' then eat
      else if c = '\\' then
        eat
        skipEscape
        skipString fuel
      else if c.toNat < 0x20 then fail .controlCharacter
      else
        eat
        skipString fuel

/-- Passes a plain value, or opens a list or an object. -/
def skipStart : Reader (Option Frame) := do
  match ← peekPastSpaces with
  | none => failAhead .endInValue
  | some c =>
    match c with
    | 'n' => eat; word ['u', 'l', 'l']; return none
    | 't' => eat; word ['r', 'u', 'e']; return none
    | 'f' => eat; word ['a', 'l', 's', 'e']; return none
    | '-' => eat; skipNumeral; return none
    | '"' =>
      eat
      skipString ((← remaining) + 1)
      return none
    | '[' => eat; return some .list
    | '\x7b' => eat; return some .object
    | c =>
      if c.isDigit then
        skipNumeral
        return none
      else failAhead .missingValue

/-- Closes what ends here; gives the frames that stay open, the innermost one first. -/
def closeFrames (afterValue : Bool) : List Frame → Reader (List Frame)
  | [] => return []
  | frame :: outer => do
    match ← peekPastSpaces with
    | none => failAhead (match frame with | .list => .endInList | .object => .endInObject)
    | some c =>
      if c = ',' && afterValue then
        eat
        return frame :: outer
      else if (c = ']' && frame = .list) || (c = '\x7d' && frame = .object) then
        eat
        closeFrames true outer
      else if afterValue then
        failAhead (match frame with | .list => .unclosedList | .object => .unclosedObject)
      else return frame :: outer

def skipName : Reader Unit := do
  match ← peekPastSpaces with
  | some c => if c = '"' then eat else failAhead .keyNotString
  | none => failAhead .endInObject
  skipString ((← remaining) + 1)
  colon

/-- Passes one value and what closes behind it, until no frame is open. -/
def skipWithin : (fuel : Nat) → List Frame → Reader Unit
  | 0, _ => failAhead .endInValue
  | fuel + 1, frames => do
    let (frames, afterValue) ← match ← skipStart with
      | some frame => pure (frame :: frames, false)
      | none => pure (frames, true)
    match ← closeFrames afterValue frames with
    | [] => return ()
    | .list :: outer => skipWithin fuel (.list :: outer)
    | .object :: outer =>
      skipName
      skipWithin fuel (.object :: outer)

def skipValue : Reader Unit := do
  skipWithin ((← remaining) + 1) []

end StakingGateway.Json.Reader
