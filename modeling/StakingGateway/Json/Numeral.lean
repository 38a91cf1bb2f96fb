import StakingGateway.Json.Cursor

/-!
Numbers in JSON text. A whole number that fits 64 bits stays whole. Of any other number the
digits count as long as they fit 64 bits, and the power of ten is applied by one multiplication
or division, so that long numerals need not be rounded to the nearest value.
-/

namespace StakingGateway.Json

/-- Appends digits as long as the number fits 64 bits; gives the number and how many were kept. -/
def appendDigits (significand : Nat) : List Char → Nat × Nat
  | [] => (significand, 0)
  | c :: rest =>
    let next := significand * 10 + (c.toNat - 48)
    if next < UInt64.size then
      let (value, kept) := appendDigits next rest
      (value, kept + 1)
    else (significand, 0)

/-- The largest power of ten that a multiplication uses. -/
def greatestPower : Nat := 308

def powerOfTen (n : Nat) : Option Binary64 :=
  Binary64.ofNat? (Nat.pow 10 n)

/-- Scales by a power of ten; nothing, when the result is too large. Below the smallest power the
scaling is done in steps, which end at zero. -/
def scaleByTen : (steps : Nat) → Binary64 → (exponent : Int) → Option Binary64
  | 0, x, _ => some x
  | steps + 1, x, exponent =>
    if exponent.natAbs ≤ greatestPower then do
      let power ← powerOfTen exponent.natAbs
      if 0 ≤ exponent then x.mul? power else x.div? power
    else if x.isZero then some x
    else if 0 ≤ exponent then none
    else do
      let power ← powerOfTen greatestPower
      scaleByTen steps (← x.div? power) (exponent + greatestPower)

def signed (negative : Bool) (x : Binary64) : Binary64 :=
  if negative then x.neg else x

/-- `± significand · 10 ^ exponent`. Four steps reach zero from any significand of 64 bits. -/
def realOfParts? (negative : Bool) (significand : Nat) (exponent : Int) : Option Binary64 := do
  let x ← Binary64.ofNat? significand
  return signed negative (← scaleByTen 4 x exponent)

/-- The number of digits after which an exponent no longer fits 31 bits, if that happens. -/
def exponentOverflow? (value : Nat) (count : Nat) : List Char → Option Nat
  | [] => none
  | c :: rest =>
    let next := value * 10 + (c.toNat - 48)
    if next < Nat.pow 2 31 then exponentOverflow? next (count + 1) rest else some (count + 1)

namespace Reader

def real (negative : Bool) (significand : Nat) (exponent : Int) : Reader Json.Number :=
  match realOfParts? negative significand exponent with
  | some x => pure (.real x)
  | none => fail .numberTooLarge

def exponentPart (negative : Bool) (significand : Nat) (start : Int) : Reader Json.Number := do
  eat
  let down ← match ← peek with
    | some '+' => do eat; pure false
    | some '-' => do eat; pure true
    | _ => pure false
  match ← peek with
  | none => fail .endInValue
  | some c =>
    if !c.isDigit then failAhead .badNumber
    else
      let begin ← get
      let digits ← span Char.isDigit
      match exponentOverflow? 0 0 digits with
      | some count =>
        if significand ≠ 0 && !down then
          throw ⟨.numberTooLarge, begin.place.line, begin.place.column + count⟩
        else pure (.real (Binary64.zero negative))
      | none =>
        let exponent : Int := Nat.ofDigitChars 10 digits 0
        real negative significand (if down then start - exponent else start + exponent)

def exponentOr (negative : Bool) (significand : Nat) (exponent : Int)
    (otherwise : Reader Json.Number) : Reader Json.Number := do
  match ← peek with
  | some 'e' | some 'E' => exponentPart negative significand exponent
  | _ => otherwise

def fractionPart (negative : Bool) (significand : Nat) (exponent : Int) :
    Reader Json.Number := do
  eat
  let digits ← span Char.isDigit
  if digits.isEmpty then
    match ← peek with
    | some _ => failAhead .badNumber
    | none => failAhead .endInValue
  else
    let (significand, kept) := appendDigits significand digits
    let exponent := exponent - kept
    exponentOr negative significand exponent (real negative significand exponent)

/-- Behind the whole part, of which `dropped` digits did not fit. -/
def afterWhole (negative : Bool) (significand dropped : Nat) : Reader Json.Number := do
  match ← peek with
  | some '.' => fractionPart negative significand dropped
  | _ =>
    exponentOr negative significand dropped <|
      if dropped ≠ 0 then real negative significand dropped
      else if !negative then pure (.integer significand)
      else if significand = 0 || Nat.pow 2 63 < significand then real negative significand 0
      else pure (.integer (-significand))

/-- A number whose sign has been read. -/
def numeral (negative : Bool) : Reader Json.Number := do
  match ← peek with
  | none => fail .endInValue
  | some '0' =>
    eat
    match ← peek with
    | some c => if c.isDigit then failAhead .badNumber else afterWhole negative 0 0
    | none => afterWhole negative 0 0
  | some c =>
    if !c.isDigit then failAhead .badNumber
    else
      let digits ← span Char.isDigit
      let (significand, kept) := appendDigits 0 digits
      afterWhole negative significand (digits.length - kept)

end Reader

end StakingGateway.Json
