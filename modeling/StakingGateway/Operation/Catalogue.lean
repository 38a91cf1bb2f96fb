import StakingGateway.Operation.Directory
import StakingGateway.Operation.Farm
import StakingGateway.Operation.Liquid
import StakingGateway.Operation.LiquidStats
import StakingGateway.Operation.Pool
import StakingGateway.Operation.Stake

/-!
All tools of the gateway.
-/

namespace StakingGateway.Operation

open Tool

/-- The tools in the order in which they are registered. -/
def catalogue : List Tool := [
  stakingPosition,
  stakeTokens,
  unstakeTokens,
  claimRewards,
  stakingRate,
  stakingDirectory,
  stakeEther,
  wrapSteth,
  unwrapWsteth,
  lidoStats,
  liquidDirectory,
  stakePairTokens,
  withdrawPairTokens,
  farmingPosition]

def registry : Registry := (Registry.empty.registerAll catalogue).1

end StakingGateway.Operation
