import StakingGateway.Abi.Function

/-!
The families of contracts that the tools talk to, and the functions that each family declares.
-/

namespace StakingGateway.Contract

open Abi

inductive Interface where
  /-- A pool in which one token is staked for rewards. -/
  | staking
  /-- The rebasing liquid staking token. -/
  | lidoSteth
  /-- The wrapped liquid staking token. -/
  | wsteth
  /-- A farm with numbered pools of pair tokens. -/
  | masterChef
  | erc20
deriving Repr, DecidableEq

namespace Interface

def all : List Interface := [staking, lidoSteth, wsteth, masterChef, erc20]

def name : Interface → String
  | staking => "staking"
  | lidoSteth => "lido-steth"
  | wsteth => "wsteth"
  | masterChef => "masterchef"
  | erc20 => "erc20"

def ofName? (name : String) : Option Interface :=
  all.find? (·.name = name)

def functions : Interface → List Function
  | staking => [
      ⟨"stake", [.uint256], []⟩,
      ⟨"unstake", [.uint256], []⟩,
      ⟨"withdraw", [], []⟩,
      ⟨"claimRewards", [], []⟩,
      ⟨"getReward", [], []⟩,
      ⟨"earned", [.address], [.uint256]⟩,
      ⟨"balanceOf", [.address], [.uint256]⟩,
      ⟨"totalSupply", [], [.uint256]⟩,
      ⟨"rewardRate", [], [.uint256]⟩,
      ⟨"rewardPerToken", [], [.uint256]⟩,
      ⟨"stakingToken", [], [.address]⟩,
      ⟨"rewardsToken", [], [.address]⟩]
  | lidoSteth => [
      ⟨"submit", [.address], [.uint256]⟩,
      ⟨"balanceOf", [.address], [.uint256]⟩,
      ⟨"getPooledEthByShares", [.uint256], [.uint256]⟩,
      ⟨"getSharesByPooledEth", [.uint256], [.uint256]⟩,
      ⟨"getTotalPooledEther", [], [.uint256]⟩,
      ⟨"getTotalShares", [], [.uint256]⟩]
  | wsteth => [
      ⟨"wrap", [.uint256], [.uint256]⟩,
      ⟨"unwrap", [.uint256], [.uint256]⟩,
      ⟨"getStETHByWstETH", [.uint256], [.uint256]⟩,
      ⟨"getWstETHByStETH", [.uint256], [.uint256]⟩,
      ⟨"stEthPerToken", [], [.uint256]⟩,
      ⟨"tokensPerStEth", [], [.uint256]⟩]
  | masterChef => [
      ⟨"deposit", [.uint256, .uint256], []⟩,
      ⟨"withdraw", [.uint256, .uint256], []⟩,
      ⟨"pendingReward", [.uint256, .address], [.uint256]⟩,
      ⟨"userInfo", [.uint256, .address], [.uint256, .uint256]⟩,
      ⟨"poolInfo", [.uint256], [.address, .uint256, .uint256, .uint256]⟩,
      ⟨"poolLength", [], [.uint256]⟩,
      ⟨"totalAllocPoint", [], [.uint256]⟩]
  | erc20 => [
      ⟨"approve", [.address, .uint256], [.bool]⟩,
      ⟨"balanceOf", [.address], [.uint256]⟩,
      ⟨"decimals", [], [.uint8]⟩]

def function (i : Interface) (name : String) : Except Abi.Error Function :=
  match i.functions.find? (·.name = name) with
  | some f => .ok f
  | none => .error (.unknownFunction name)

end Interface

end StakingGateway.Contract
