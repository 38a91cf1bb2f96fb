import StakingGateway.Text.Digits
import StakingGateway.Word

/-!
Percentages, yearly rates and share prices of amounts, computed in words of 512 bits. A result
that would need more bits is an overflow and never a wrong number.
-/

namespace StakingGateway.Amount

/-- A step of a calculation left its word. -/
inductive Overflow where
  | overflow
deriving Repr, DecidableEq

def Overflow.message : Overflow → String
  | overflow => "arithmetic operation overflow"

def pointChars (places : Nat) (digits : List Char) : List Char :=
  if places = 0 then digits
  else
    let padded := Text.padZeros (places + 1) digits
    padded.take (padded.length - places) ++ '.' :: padded.drop (padded.length - places)

def checked {α : Type} : Option α → Except Overflow α
  | some x => .ok x
  | none => .error .overflow

/-- `100 · part / whole`, rounded half up to `places` digits behind the point; zero of nothing.
The products saturate, and a saturated product makes the sum behind it overflow. -/
def percentWide (part whole : Uint512) (places : Nat) : Except Overflow String := do
  if whole.toNat = 0 then return "0"
  let unit ← checked (Word.pow10? places)
  let scaled := Word.saturatingMul (Word.saturatingMul part 100) unit
  let doubled ← checked (Word.checkedAdd (Word.saturatingMul scaled 2) whole)
  let divisor ← checked (Word.checkedMul whole 2)
  return String.ofList (pointChars places (Text.digits (doubled.toNat / divisor.toNat)))

def percent (part whole : Uint256) (places : Nat) : Except Overflow String :=
  percentWide (part.widen 256) (whole.widen 256) places

def secondsPerYear : Nat := 365 * 24 * 60 * 60

def rateDecimals : Nat := 2

def shareDecimals : Nat := 4

/-- The rewards of a year in percent of the stake. -/
def estimatedRate (rewardPerSecond staked : Uint256) : Except Overflow String :=
  if rewardPerSecond.toNat = 0 || staked.toNat = 0 then .ok "0"
  else
    percentWide (rewardPerSecond.wideMul (BitVec.ofNat 256 secondsPerYear)) (staked.widen 256)
      rateDecimals

/-- The price of a share in units of `10 ^ -18`, rounded down; at most the largest word. -/
def sharePrice (pooled shares : Uint256) : Uint256 :=
  if shares.toNat = 0 then 0
  else Word.clamp ((pooled.wideMul (BitVec.ofNat 256 (Nat.pow 10 18))).toNat / shares.toNat)

end StakingGateway.Amount
