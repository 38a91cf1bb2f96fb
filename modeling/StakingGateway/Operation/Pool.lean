import StakingGateway.Amount.Format
import StakingGateway.Amount.Percent
import StakingGateway.Operation.Params
import StakingGateway.Operation.Reading

/-!
Views of a staking pool: the position of a user and the yearly rate of the pool.
-/

namespace StakingGateway.Operation

open Tool Chain Contract

def stakingCall (contract : Address) (function : String) (args : List Abi.Token := []) : Call :=
  { interface := .staking, target := contract, function, args }

/-- An amount calculation that leaves its word is a crash. -/
def ofOverflow {α : Type} : Except Amount.Overflow α → Action α
  | .ok value => pure value
  | .error e => Action.crash e.message

def checksumOrNull (address : Option Address) : Json :=
  .ofOptionString (address.map Address.checksum)

/-- The decimal places for display, which fit 32 bits. -/
def displayDecimals (args : Args) : Except ArgumentError Nat :=
  let decimals := (args.natural? "decimals").getD Amount.etherDecimals
  if decimals < UInt32.size then .ok decimals else .error ⟨"decimals", "out of range"⟩

def positionCalls (contract user : Address) : List Call :=
  [stakingCall contract "balanceOf" [.address user],
   stakingCall contract "earned" [.address user],
   stakingCall contract "totalSupply",
   stakingCall contract "stakingToken",
   stakingCall contract "rewardsToken"]

def stakingPosition : Tool where
  name := "get_staking_position"
  description := "Get staking position and rewards for an address"
  operation := "getting staking position"
  params := [
    networkParam,
    .mandatory "stakingContract" .address "Staking contract address",
    .mandatory "userAddress" .address "User address to check",
    (Param.optional "decimals" .integer
      "Decimals of the staked and reward tokens, used for display").withDefault
      (.nat Amount.etherDecimals)]
  run _ args := do
    let identifier ← textArg args "network"
    let contract ← addressArg args "stakingContract"
    let user ← addressArg args "userAddress"
    let decimals ← Action.ofArgument (displayDecimals args)
    let network ← Action.reader identifier
    let calls := positionCalls contract user
    let answers ← readTogether network calls
    let uint (index : Nat) (call : Call) := uintOrZero call (answerAt answers index call)
    let address (index : Nat) (call : Call) := addressOrNone call (answerAt answers index call)
    let staked := uint 0 (stakingCall contract "balanceOf" [.address user])
    let pending := uint 1 (stakingCall contract "earned" [.address user])
    let total := uint 2 (stakingCall contract "totalSupply")
    let stakingToken := address 3 (stakingCall contract "stakingToken")
    let rewardsToken := address 4 (stakingCall contract "rewardsToken")
    let share ← ofOverflow (Amount.percent staked total Amount.shareDecimals)
    return .obj [
      ("network", .string identifier),
      ("stakingContract", .string contract.checksum),
      ("userAddress", .string user.checksum),
      ("position", .obj [
        ("stakedBalance", .string staked.text),
        ("stakedFormatted", .string (Amount.formatUnits staked decimals)),
        ("pendingRewards", .string pending.text),
        ("rewardsFormatted", .string (Amount.formatUnits pending decimals))]),
      ("pool", .obj [
        ("totalStaked", .string total.text),
        ("totalStakedFormatted", .string (Amount.formatUnits total decimals)),
        ("userSharePercent", .string share)]),
      ("tokens", .obj [
        ("stakingToken", checksumOrNull stakingToken),
        ("rewardsToken", checksumOrNull rewardsToken)])]

def stakingRate : Tool where
  name := "get_staking_apr"
  description := "Calculate estimated APR for a staking contract"
  operation := "calculating staking APR"
  params := [
    networkParam,
    .mandatory "stakingContract" .address "Staking contract address"]
  run _ args := do
    let identifier ← textArg args "network"
    let contract ← addressArg args "stakingContract"
    let network ← Action.reader identifier
    let rateCall := stakingCall contract "rewardRate"
    let totalCall := stakingCall contract "totalSupply"
    let answers ← readTogether network [rateCall, totalCall]
    let rate := uintOrZero rateCall (answerAt answers 0 rateCall)
    let total := uintOrZero totalCall (answerAt answers 1 totalCall)
    let yearly ← ofOverflow (Amount.estimatedRate rate total)
    return .obj [
      ("network", .string identifier),
      ("stakingContract", .string contract.checksum),
      ("rewardRate", .string rate.text),
      ("rewardRatePerSecond", .string (Amount.formatEther rate)),
      ("totalStaked", .string total.text),
      ("estimatedAPR", .string (yearly ++ "%")),
      ("note", "APR is estimated and assumes 1:1 token value ratio")]

end StakingGateway.Operation
