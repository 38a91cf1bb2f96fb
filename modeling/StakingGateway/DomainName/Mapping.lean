import StakingGateway.Bytes.Hex
import StakingGateway.DomainName.MappingTable
import StakingGateway.Text.Blank
import StakingGateway.Text.Lowercase
import StakingGateway.Text.Quoted

/-!
What a domain name has in place of a character. Letters become small, compatibility forms plain,
and characters without a meaning of their own fall away.
-/

namespace StakingGateway.DomainName

/-- The character `code` gives way to `target`. -/
structure Replacement where
  code : Nat
  target : List Char
deriving Repr, DecidableEq

def valueOfHex (digits : List Char) : Nat :=
  digits.foldl (fun n c => n * 16 + (Bytes.hexValue? c).getD 0) 0

def replacementsFrom (code : Nat) : List (List Char) → List Replacement
  | [] => []
  | word :: words =>
    ⟨code, (Text.splitOnChar '.' word).map fun digits => Char.ofNat (valueOfHex digits)⟩ ::
      replacementsFrom (code + 1) words

def Replacement.ofRow (row : String) : List Replacement :=
  match Text.splitOnChar ' ' row.toList with
  | [] => []
  | first :: words => replacementsFrom (valueOfHex first) words

def replacements : List Replacement :=
  spelledRows.flatMap Replacement.ofRow

def replacement? (c : Char) : Option (List Char) :=
  match shiftedRows.find? (·.contains c.toNat) with
  | some row => some [Char.ofNat (c.toNat + row.shift).toNat]
  | none => (replacements.find? (·.code = c.toNat)).map (·.target)

/-- Fillers, variation selectors and invisible signs. -/
def ignoredRanges : List Text.CodeRange := Text.CodeRange.ofBounds [
  0xAD, 0xAD, 0x34F, 0x34F, 0x115F, 0x1160, 0x17B4, 0x17B5, 0x180B, 0x180F, 0x200B, 0x200B,
  0x2060, 0x2064, 0x206A, 0x206F, 0x3164, 0x3164, 0xFE00, 0xFE0F, 0xFEFF, 0xFEFF, 0xFFA0, 0xFFA0,
  0x1BCA0, 0x1BCA3, 0x1D173, 0x1D17A, 0xE0100, 0xE01EF]

/-- Characters that can be seen and may yet stand in no name: those whose plain form holds a full
stop, those that describe ideographs, and those that stand for an unknown one. -/
def excludedRanges : List Text.CodeRange := Text.CodeRange.ofBounds [
  0x2024, 0x2026, 0x2488, 0x249B, 0x2FF0, 0x2FFF, 0x31EF, 0x31EF, 0x33C2, 0x33C2, 0x33C7, 0x33C7,
  0x33D8, 0x33D8, 0xFE12, 0xFE12, 0xFE19, 0xFE19, 0xFE30, 0xFE30, 0xFE52, 0xFE52, 0xFFFC, 0xFFFD,
  0x1F100, 0x1F100]

def nonJoiner : Char := '\u200C'

def joiner : Char := '\u200D'

def isJoiner (c : Char) : Bool :=
  c = nonJoiner || c = joiner

def isExcluded (c : Char) : Bool :=
  Text.memRanges excludedRanges c || (Text.isUnprintable c && !isJoiner c)

/-- The capital letters of the one script whose small letters give way to the capital ones. -/
def isCherokeeCapital (c : Char) : Bool :=
  0x13A0 ≤ c.toNat && c.toNat ≤ 0x13F5

/-- What stands for a character in a name: nothing for one that is ignored, and `none` for one
that may stand in no name. -/
def mapChar? (c : Char) : Option (List Char) :=
  if c.toNat < 0x80 then some (Text.lowerChar c)
  else if Text.memRanges ignoredRanges c then some []
  else
    match replacement? c with
    | some target => some target
    | none =>
      if isExcluded c then none
      else if isCherokeeCapital c then some [c]
      else some (Text.lowerChar c)

def isLasting (c : Char) : Bool :=
  mapChar? c = some [c]

end StakingGateway.DomainName
