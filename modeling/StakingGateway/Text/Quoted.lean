import StakingGateway.Text.PrintableTable
import StakingGateway.Text.Digits

/-!
Quoted texts as they appear in messages: quotation marks around, a backslash before such marks
and backslashes inside, letters for the usual control characters and numbers for what cannot be
seen. Texts stand between double marks, single characters between single ones.
-/

namespace StakingGateway.Text

def isUnprintable (c : Char) : Bool :=
  if c.toNat < 0x7F then c.toNat < 0x20 else memRanges unprintableRanges c

def joinsPrevious (c : Char) : Bool :=
  0x7F ≤ c.toNat && memRanges graphemeExtendRanges c

def quotedChar (mark c : Char) : List Char :=
  if c = '\x00' then ['\\', '0']
  else if c = '\t' then ['\\', 't']
  else if c = '\r' then ['\\', 'r']
  else if c = '\n' then ['\\', 'n']
  else if c = '\\' then ['\\', '\\']
  else if c = mark then ['\\', mark]
  else if joinsPrevious c || isUnprintable c then
    ['\\', 'u', '\x7b'] ++ hexDigits c.toNat ++ ['\x7d']
  else [c]

def quotedChars (cs : List Char) : List Char :=
  '"' :: cs.flatMap (quotedChar '"') ++ ['"']

def quoted (text : String) : String :=
  String.ofList (quotedChars text.toList)

def quotedOne (c : Char) : String :=
  String.ofList ('\x27' :: quotedChar '\x27' c ++ ['\x27'])

end StakingGateway.Text
