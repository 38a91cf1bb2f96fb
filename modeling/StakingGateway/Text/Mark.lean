import StakingGateway.Text.MarkTable
import StakingGateway.Text.PrintableTable

/-!
Marks, which belong to the character before them, and their combining classes. Characters below
U+0300 are no marks.
-/

namespace StakingGateway.Text

def isSpacingMark (c : Char) : Bool :=
  memRanges spacingMarkRanges c

/-- Format characters that join what is before them and are no marks: a joiner and the tags. -/
def isExtendingFormat (c : Char) : Bool :=
  c = '\u200C' || (0xE0020 ≤ c.toNat && c.toNat ≤ 0xE007F)

/-- Marks that lie above, below or around what is before them. -/
def isNonspacingMark (c : Char) : Bool :=
  0x300 ≤ c.toNat && memRanges graphemeExtendRanges c && !isSpacingMark c && !isExtendingFormat c

def isMark (c : Char) : Bool :=
  0x300 ≤ c.toNat && (isSpacingMark c || isNonspacingMark c)

/-- Marks of one class keep their order; marks of different classes do not touch. -/
def combiningClass (c : Char) : Nat :=
  if c.toNat < 0x300 then 0
  else
    match markRows.find? (·.contains c.toNat) with
    | some row => row.order
    | none => 0

/-- The class of the signs that take the vowel from a consonant. -/
def viramaClass : Nat := 9

end StakingGateway.Text
