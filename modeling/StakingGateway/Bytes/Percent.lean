import StakingGateway.Bytes.Hex

/-!
Bytes written with a percent sign and two hexadecimal digits.
-/

namespace StakingGateway.Bytes

def escapedByte? (hi lo : UInt8) : Option UInt8 := do
  let h ← hexValue? (Char.ofNat hi.toNat)
  let l ← hexValue? (Char.ofNat lo.toNat)
  return UInt8.ofNat (h * 16 + l)

/-- Percent signs without two digits behind them stand for themselves. -/
def decodePercent : List UInt8 → List UInt8
  | b :: hi :: lo :: rest =>
    match if b = 37 then escapedByte? hi lo else none with
    | some byte => byte :: decodePercent rest
    | none => b :: decodePercent (hi :: lo :: rest)
  | bytes => bytes

end StakingGateway.Bytes
