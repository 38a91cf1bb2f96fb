import StakingGateway.Text.Blank
import StakingGateway.Text.Digits
import StakingGateway.Word

/-!
Amounts as texts: whole numbers of the smallest unit, and decimal numbers of a token with a given
number of decimal places. Both are read into 256-bit words without any loss.
-/

namespace StakingGateway.Amount

/-- Why a text is no amount; each cause quotes the trimmed text. -/
inductive ParseError where
  | notInteger (text : String)
  | integerTooLarge (text : String)
  | notDecimal (text : String)
  | tooManyPlaces (text : String) (decimals : Nat)
  | tooLarge (text : String) (decimals : Nat)
deriving Repr, DecidableEq

def ParseError.message : ParseError → String
  | notInteger text => s!"'{text}' is not a decimal integer"
  | integerTooLarge text => s!"invalid amount '{text}': the number is too large for the type"
  | notDecimal text => s!"'{text}' is not a non-negative decimal amount"
  | tooManyPlaces text decimals => s!"'{text}' has more than {decimals} decimal places"
  | tooLarge text decimals => s!"'{text}' is too large for {decimals} decimals"

def ofDigits? (cs : List Char) : Option Uint256 :=
  Word.ofNat? (Text.valueOfDigits cs)

/-- Reads a whole number of the smallest unit. -/
def parseWei (text : String) : Except ParseError Uint256 :=
  let body := Text.trimChars text.toList
  if body.isEmpty || !Text.areDigits body then .error (.notInteger (String.ofList body))
  else
    match ofDigits? body with
    | some amount => .ok amount
    | none => .error (.integerTooLarge (String.ofList body))

def scale? (whole fraction : List Char) (decimals : Nat) : Option Uint256 := do
  let units ← Word.checkedMul (← ofDigits? whole) (← Word.pow10? decimals)
  if fraction.isEmpty then return units
  let parts ← Word.checkedMul (← ofDigits? fraction) (← Word.pow10? (decimals - fraction.length))
  Word.checkedAdd units parts

/-- Reads a decimal number as a multiple of `10 ^ -decimals`. -/
def parseUnits (text : String) (decimals : Nat) : Except ParseError Uint256 :=
  let body := Text.trimChars text.toList
  let (whole, behindPoint) := Text.splitFirst (· == '.') body
  let fraction := behindPoint.getD []
  if whole.isEmpty || !Text.areDigits whole || !Text.areDigits fraction then
    .error (.notDecimal (String.ofList body))
  else if decimals < fraction.length then
    .error (.tooManyPlaces (String.ofList body) decimals)
  else
    match scale? whole fraction decimals with
    | some amount => .ok amount
    | none => .error (.tooLarge (String.ofList body) decimals)

end StakingGateway.Amount
