import StakingGateway.Amount.Percent
import StakingGateway.Operation.Liquid
import StakingGateway.Operation.Pool

/-!
Statistics of the liquid staking protocol.
-/

namespace StakingGateway.Operation

open Tool Chain Contract

def lidoStats : Tool where
  name := "get_lido_stats"
  description := "Get Lido staking statistics and APR"
  operation := "getting Lido stats"
  params := [lidoNetworkParam]
  run _ args := do
    let identifier ← textArg args "network"
    let network ← Action.reader identifier
    let steth ← requireToken network "stETH" "Lido not available on this network"
    let wsteth := liquidToken? network "wstETH"
    let quote := (wsteth.map fun token => wstethCall token "stEthPerToken").toList
    let numbers ← readUints network
      ([stethCall steth "getTotalPooledEther", stethCall steth "getTotalShares"] ++ quote)
    let pooled := numbers.getD 0 0
    let shares := numbers.getD 1 0
    let stethPerToken := numbers.getD 2 0
    return .obj [
      ("network", .string identifier),
      ("lido", .obj [
        ("totalPooledEther", .string (Amount.formatEther pooled)),
        ("totalShares", .string shares.text),
        ("sharePrice", .string (Amount.formatEther (Amount.sharePrice pooled shares))),
        ("stEthPerWstETH", .string (Amount.formatEther stethPerToken))]),
      ("contracts", .obj [
        ("stETH", .string steth.checksum),
        ("wstETH", checksumOrNull wsteth)]),
      ("note", "Current Lido APR is approximately 3-5% (varies based on network conditions)")]

end StakingGateway.Operation
