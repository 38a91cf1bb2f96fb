import StakingGateway.Address
import StakingGateway.Bytes.HexText
import StakingGateway.Crypto.Secp256k1
import StakingGateway.Text.Blank

/-!
Signing keys given as hexadecimal text, and the address that belongs to a key.
-/

namespace StakingGateway.Crypto

/-- A secret number between zero and the order of the curve. -/
structure SigningKey where
  secret : Nat
  secret_pos : 0 < secret
  secret_lt : secret < Secp256k1.order

inductive KeyError where
  | notHex (cause : Bytes.HexError)
  | wrongLength
  | outOfRange
deriving Repr, DecidableEq

def KeyError.message : KeyError → String
  | notHex cause => cause.message
  | wrongLength => "invalid string length"
  | outOfRange => "signature error"

namespace SigningKey

/-- Drops one marker `0X`; the digits behind it may have a marker again. -/
def withoutOuterMarker : List Char → List Char
  | '0' :: 'X' :: rest => rest
  | cs => cs

def ofSecret (secret : Nat) : Except KeyError SigningKey :=
  if h : 0 < secret ∧ secret < Secp256k1.order then .ok ⟨secret, h.1, h.2⟩
  else .error .outOfRange

def ofText (text : String) : Except KeyError SigningKey :=
  match Bytes.readHex (withoutOuterMarker (Text.trimChars text.toList)) with
  | .error cause => .error (.notHex cause)
  | .ok bytes =>
    if bytes.length = 32 then ofSecret (Bytes.toNat bytes) else .error .wrongLength

/-- The last twenty bytes of the hash of the public point. -/
def address (key : SigningKey) : Address :=
  let (x, y) := Secp256k1.publicPoint key.secret
  Address.ofBytes ((Keccak.hash (Bytes.ofNat 32 x ++ Bytes.ofNat 32 y)).drop 12)

end SigningKey

end StakingGateway.Crypto
