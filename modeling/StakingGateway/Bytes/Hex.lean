/-!
Hexadecimal text of byte strings. Writing uses two lower-case digits a byte; reading takes digits
of either case.
-/

namespace StakingGateway.Bytes

def hexDigit (n : Nat) : Char :=
  if n < 10 then Char.ofNat (48 + n) else Char.ofNat (87 + n)

def hexValue? (c : Char) : Option Nat :=
  if '0' ≤ c && c ≤ '9' then some (c.toNat - 48)
  else if 'a' ≤ c && c ≤ 'f' then some (c.toNat - 87)
  else if 'A' ≤ c && c ≤ 'F' then some (c.toNat - 55)
  else none

def isHexDigit (c : Char) : Bool :=
  (hexValue? c).isSome

/-- The blanks that some readers pass over between digits. -/
def isFiller (c : Char) : Bool :=
  c = ' ' || c = '\r' || c = '\n' || c = '\t'

def encodeByte (b : UInt8) : List Char :=
  [hexDigit (b.toNat / 16), hexDigit (b.toNat % 16)]

def encodeHex (bytes : List UInt8) : List Char :=
  bytes.flatMap encodeByte

/-- Reads pairs of digits; an odd digit at the end and other characters are refused. -/
def decodeHex : List Char → Option (List UInt8)
  | [] => some []
  | [_] => none
  | hi :: lo :: rest => do
    let h ← hexValue? hi
    let l ← hexValue? lo
    let bytes ← decodeHex rest
    return UInt8.ofNat (h * 16 + l) :: bytes

def toHex (bytes : List UInt8) : String :=
  String.ofList ('0' :: 'x' :: encodeHex bytes)

/-- A number as `width` bytes, most significant first; higher bytes are dropped. -/
def ofNat (width : Nat) (n : Nat) : List UInt8 :=
  (List.range width).reverse.map fun i => UInt8.ofNat (n / Nat.pow 256 i % 256)

def toNat (bytes : List UInt8) : Nat :=
  bytes.foldl (fun n b => n * 256 + b.toNat) 0

@[simp]
theorem length_ofNat (width n : Nat) : (ofNat width n).length = width := by
  simp [ofNat]

end StakingGateway.Bytes
