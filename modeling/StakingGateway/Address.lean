import StakingGateway.Bytes.Hex
import StakingGateway.Crypto.Keccak
import StakingGateway.Word

/-!
Account addresses and transaction hashes, and their hexadecimal texts. The checksummed text of an
address writes a letter as a capital where the hash of the plain text has a high digit.
-/

namespace StakingGateway

structure Address where
  word : Word 160
deriving DecidableEq, Repr, Inhabited

namespace Address

def ofNat (n : Nat) : Address := ⟨BitVec.ofNat 160 n⟩

def zero : Address := ofNat 0

/-- The address in the last twenty of some bytes. -/
def ofBytes (bytes : List UInt8) : Address := ofNat (Bytes.toNat bytes)

def toBytes (a : Address) : List UInt8 := Bytes.ofNat 20 a.word.toNat

def text (a : Address) : String := Bytes.toHex a.toBytes

/-- Capital letters where the digit of the hash is eight or more. -/
def checksumChars : (digits hash : List Char) → List Char
  | d :: digits, h :: hash =>
    (if 8 ≤ (Bytes.hexValue? h).getD 0 then d.toUpper else d) :: checksumChars digits hash
  | digits, _ => digits

def checksum (a : Address) : String :=
  let digits := Bytes.encodeHex a.toBytes
  let hash := Crypto.Keccak.hash (digits.map fun c => UInt8.ofNat c.toNat)
  String.ofList ('0' :: 'x' :: checksumChars digits (Bytes.encodeHex hash))

/-- Reads forty digits, with or without the marker `0x` in front. -/
def ofText? (text : String) : Option Address :=
  let body := match text.toList with
    | '0' :: 'x' :: rest => rest
    | cs => cs
  match Bytes.decodeHex (body.filter (!Bytes.isFiller ·)) with
  | some bytes => if bytes.length = 20 then some (ofBytes bytes) else none
  | none => none

/-- Is the text a marker `0x` or `0X` and forty digits? -/
def isText (text : String) : Bool :=
  match text.toList with
  | '0' :: x :: digits =>
    (x = 'x' || x = 'X') && digits.length = 40 && digits.all Bytes.isHexDigit
  | _ => false

end Address

structure TxHash where
  word : Uint256
deriving DecidableEq, Repr, Inhabited

namespace TxHash

def ofNat (n : Nat) : TxHash := ⟨BitVec.ofNat 256 n⟩

def ofBytes (bytes : List UInt8) : TxHash := ofNat (Bytes.toNat bytes)

def toBytes (h : TxHash) : List UInt8 := Bytes.ofNat 32 h.word.toNat

def text (h : TxHash) : String := Bytes.toHex h.toBytes

end TxHash

end StakingGateway
