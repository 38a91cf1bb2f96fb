import StakingGateway.Amount.Format
import StakingGateway.Operation.Params
import StakingGateway.Operation.Reading
import StakingGateway.Operation.Sending

/-!
Farms with numbered pools of pair tokens: deposits, withdrawals and positions.
-/

namespace StakingGateway.Operation

open Tool Chain Contract

def farmCall (farm : Address) (function : String) (args : List Abi.Token) : Call :=
  { interface := .masterChef, target := farm, function, args }

def poolToken (pool : Nat) : Abi.Token := .uint (BitVec.ofNat 256 pool)

def farmParams (amountDescription : String) : List Param := [
  networkParam,
  .mandatory "farmContract" .address "Farm contract address (MasterChef style)",
  .mandatory "poolId" .integer "Pool ID",
  .mandatory "amount" .decimal amountDescription,
  keyParam]

/-- The farm takes the pair tokens from the caller, who must approve this first. -/
def stakePairTokens : Tool where
  name := "stake_lp_tokens"
  description := "Stake LP tokens in a MasterChef-style farming contract"
  operation := "staking LP tokens"
  params := farmParams "Amount of LP tokens to stake"
  run context args := do
    let identifier ← textArg args "network"
    let farm ← addressArg args "farmContract"
    let pool ← naturalArg args "poolId"
    let amount ← etherArg args "amount"
    let key ← keyArg context args
    let network ← Action.reader identifier
    let account ← Action.account key identifier
    let info ← Action.read network (farmCall farm "poolInfo" [poolToken pool])
    let pairToken ← Action.ofChain (addressAt info 0 "poolInfo")
    let approval ← approve account pairToken farm amount
    let receipt ← submitAndConfirm account
      (farmCall farm "deposit" [poolToken pool, .uint amount])
    return .obj [
      ("network", .string identifier),
      ("action", "stake_lp_tokens"),
      ("farmContract", .string farm.checksum),
      ("poolId", .nat pool),
      ("lpToken", .string pairToken.checksum),
      ("amountStaked", .string (Amount.formatEther amount)),
      ("approvalTransactionHash", .string approval.hash.text),
      ("transactionHash", .string receipt.hash.text),
      ("status", .string receipt.status.text),
      ("gasUsed", .string receipt.gasText)]

def withdrawPairTokens : Tool where
  name := "withdraw_lp_tokens"
  description := "Withdraw LP tokens from a MasterChef-style farming contract"
  operation := "withdrawing LP tokens"
  params := farmParams "Amount of LP tokens to withdraw"
  run context args := do
    let identifier ← textArg args "network"
    let farm ← addressArg args "farmContract"
    let pool ← naturalArg args "poolId"
    let amount ← etherArg args "amount"
    let key ← keyArg context args
    let _ ← Action.reader identifier
    let account ← Action.account key identifier
    let receipt ← submitAndConfirm account
      (farmCall farm "withdraw" [poolToken pool, .uint amount])
    return .obj [
      ("network", .string identifier),
      ("action", "withdraw_lp_tokens"),
      ("farmContract", .string farm.checksum),
      ("poolId", .nat pool),
      ("amountWithdrawn", .string (Amount.formatEther amount)),
      ("transactionHash", .string receipt.hash.text),
      ("status", .string receipt.status.text),
      ("gasUsed", .string receipt.gasText),
      ("note", "Pending rewards are automatically claimed on withdraw")]

/-- Farms name the function for pending rewards differently, so it may fail. -/
def farmingPosition : Tool where
  name := "get_farming_position"
  description := "Get LP farming position and pending rewards"
  operation := "getting farming position"
  params := [
    networkParam,
    .mandatory "farmContract" .address "Farm contract address",
    .mandatory "poolId" .integer "Pool ID",
    .mandatory "userAddress" .address "User address to check"]
  run _ args := do
    let identifier ← textArg args "network"
    let farm ← addressArg args "farmContract"
    let pool ← naturalArg args "poolId"
    let user ← addressArg args "userAddress"
    let network ← Action.reader identifier
    let userCall := farmCall farm "userInfo" [poolToken pool, .address user]
    let poolCall := farmCall farm "poolInfo" [poolToken pool]
    let pendingCall := farmCall farm "pendingReward" [poolToken pool, .address user]
    let answers ← readTogether network [userCall, poolCall, pendingCall]
    let pending := uintOrZero pendingCall (answerAt answers 2 pendingCall)
    let userInfo ← Action.ofChain (answerAt answers 0 userCall)
    let poolInfo ← Action.ofChain (answerAt answers 1 poolCall)
    let staked ← Action.ofChain (uintAt userInfo 0 "userInfo")
    let rewardDebt ← Action.ofChain (uintAt userInfo 1 "userInfo")
    let pairToken ← Action.ofChain (addressAt poolInfo 0 "poolInfo")
    let points ← Action.ofChain (uintAt poolInfo 1 "poolInfo")
    return .obj [
      ("network", .string identifier),
      ("farmContract", .string farm.checksum),
      ("poolId", .nat pool),
      ("userAddress", .string user.checksum),
      ("position", .obj [
        ("stakedAmount", .string (Amount.formatEther staked)),
        ("stakedAmountRaw", .string staked.text),
        ("rewardDebt", .string rewardDebt.text),
        ("pendingRewards", .string (Amount.formatEther pending)),
        ("pendingRewardsRaw", .string pending.text)]),
      ("pool", .obj [
        ("lpToken", .string pairToken.checksum),
        ("allocPoint", .string points.text)])]

end StakingGateway.Operation
