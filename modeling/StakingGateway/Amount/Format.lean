import StakingGateway.Text.Digits
import StakingGateway.Word

/-!
The text of an amount: a decimal number without superfluous zeros.
-/

namespace StakingGateway.Amount

/-- The decimal places of ether and of tokens whose places are not known. -/
def etherDecimals : Nat := 18

/-- The largest number of decimal places that is applied; ten to a higher power is no word. -/
def maxDecimals : Nat := 77

/-- The digits behind the point of a remainder, without zeros at the end. -/
def fractionChars (decimals remainder : Nat) : List Char :=
  Text.dropTrailingZeros (Text.padZeros decimals (Text.digits remainder))

def unitsChars (amount : Uint256) (decimals : Nat) : List Char :=
  if decimals ≤ maxDecimals then
    let whole := Text.digits (amount.toNat / Nat.pow 10 decimals)
    let fraction := fractionChars decimals (amount.toNat % Nat.pow 10 decimals)
    if fraction.isEmpty then whole else whole ++ '.' :: fraction
  else Text.digits amount.toNat

/-- The amount divided by `10 ^ decimals`; the plain number, when there are too many places. -/
def formatUnits (amount : Uint256) (decimals : Nat) : String :=
  String.ofList (unitsChars amount decimals)

def formatEther (amount : Uint256) : String :=
  formatUnits amount etherDecimals

end StakingGateway.Amount
