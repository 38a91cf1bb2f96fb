import StakingGateway.Bytes.Hex
import StakingGateway.Text.Quoted

/-!
Byte strings written in hexadecimal with or without a marker, and what can be wrong with them.
-/

namespace StakingGateway.Bytes

inductive HexError where
  | oddLength
  | badDigit (character : Char) (index : Nat)
deriving Repr, DecidableEq

def HexError.message : HexError → String
  | oddLength => "odd number of digits"
  | badDigit character index => s!"invalid character {Text.quotedOne character} at position {index}"

def withoutMarker : List Char → List Char
  | '0' :: 'x' :: rest => rest
  | '0' :: 'X' :: rest => rest
  | cs => cs

def badDigit? (index : Nat) : List UInt8 → Option (Char × Nat)
  | [] => none
  | b :: rest =>
    let c := Char.ofNat b.toNat
    if isHexDigit c then badDigit? (index + 1) rest else some (c, index)

/-- Reads bytes behind an optional marker. Bytes of the text that are no digits count one by
one; of two faults the odd length is told. -/
def readHex (cs : List Char) : Except HexError (List UInt8) :=
  let digits := withoutMarker cs
  let raw := (String.ofList digits).toUTF8.toList
  if raw.length % 2 = 1 then .error .oddLength
  else
    match badDigit? 0 raw with
    | some (c, index) => .error (.badDigit c index)
    | none => .ok ((decodeHex digits).getD [])

end StakingGateway.Bytes
