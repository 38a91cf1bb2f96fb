import StakingGateway.Operation.Pool
import StakingGateway.Operation.Sending

/-!
Transactions on a staking pool: staking, taking back and claiming rewards.
-/

namespace StakingGateway.Operation

open Tool Chain Contract

def stakeTokens : Tool where
  name := "stake_tokens"
  description := "Stake tokens in a staking contract"
  operation := "staking tokens"
  params := [
    networkParam,
    .mandatory "stakingContract" .address "Staking contract address",
    .mandatory "amount" .wei "Amount to stake (in wei)",
    keyParam]
  run context args := do
    let identifier ← textArg args "network"
    let contract ← addressArg args "stakingContract"
    let amount ← weiArg args "amount"
    let key ← keyArg context args
    let _ ← Action.reader identifier
    let account ← Action.account key identifier
    let receipt ← submitAndConfirm account (stakingCall contract "stake" [.uint amount])
    return .obj [
      ("network", .string identifier),
      ("action", "stake"),
      ("stakingContract", .string contract.checksum),
      ("amount", .string amount.text),
      ("amountFormatted", .string (Amount.formatEther amount)),
      ("transactionHash", .string receipt.hash.text),
      ("status", .string receipt.status.text),
      ("blockNumber", .string receipt.blockText)]

/-- Pools without a function to take back an amount may still give back everything. -/
def unstakeTokens : Tool where
  name := "unstake_tokens"
  description := "Unstake/withdraw tokens from a staking contract"
  operation := "unstaking tokens"
  params := [
    networkParam,
    .mandatory "stakingContract" .address "Staking contract address",
    .mandatory "amount" .wei "Amount to unstake (in wei)",
    keyParam]
  run context args := do
    let identifier ← textArg args "network"
    let contract ← addressArg args "stakingContract"
    let amount ← weiArg args "amount"
    let key ← keyArg context args
    let _ ← Action.reader identifier
    let account ← Action.account key identifier
    let sent ← withFallback
      "unstake" (submit account (stakingCall contract "unstake" [.uint amount]))
      "withdraw" (submit account (stakingCall contract "withdraw"))
    let receipt ← confirm account sent.value
    return .obj [
      ("network", .string identifier),
      ("action", "unstake"),
      ("method", .string sent.function),
      ("stakingContract", .string contract.checksum),
      ("amount", .string amount.text),
      ("transactionHash", .string receipt.hash.text),
      ("status", .string receipt.status.text),
      ("blockNumber", .string receipt.blockText)]

def nothingToClaim (identifier : String) (contract : Address) : Json :=
  .obj [
    ("network", .string identifier),
    ("action", "claim_rewards"),
    ("stakingContract", .string contract.checksum),
    ("pendingRewards", "0"),
    ("message", "No pending rewards to claim")]

def claimRewards : Tool where
  name := "claim_staking_rewards"
  description := "Claim pending staking rewards"
  operation := "claiming rewards"
  params := [
    networkParam,
    .mandatory "stakingContract" .address "Staking contract address",
    keyParam]
  run context args := do
    let identifier ← textArg args "network"
    let contract ← addressArg args "stakingContract"
    let key ← keyArg context args
    let network ← Action.reader identifier
    let account ← Action.account key identifier
    let pending ←
      readUintOrZero network (stakingCall contract "earned" [.address account.address])
    if pending.toNat = 0 then
      return nothingToClaim identifier contract
    else
      let sent ← withFallback
        "claimRewards" (submit account (stakingCall contract "claimRewards"))
        "getReward" (submit account (stakingCall contract "getReward"))
      let receipt ← confirm account sent.value
      return .obj [
        ("network", .string identifier),
        ("action", "claim_rewards"),
        ("method", .string sent.function),
        ("stakingContract", .string contract.checksum),
        ("rewardsClaimed", .string pending.text),
        ("rewardsFormatted", .string (Amount.formatEther pending)),
        ("transactionHash", .string receipt.hash.text),
        ("status", .string receipt.status.text)]

end StakingGateway.Operation
