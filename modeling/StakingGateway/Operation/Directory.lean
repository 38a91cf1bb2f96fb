import StakingGateway.Contract.Deployed
import StakingGateway.Operation.Params

/-!
Tools that list well-known contracts of a network.
-/

namespace StakingGateway.Operation

open Tool Contract

def deployedJson (contracts : List Deployed) : Json :=
  .array (contracts.map fun contract =>
    .obj [("name", .string contract.name), ("address", .string contract.address)])

def stakingDirectory : Tool where
  name := "get_staking_protocols"
  description := "Get list of popular staking protocols on a network"
  operation := "getting staking protocols"
  params := [networkParam]
  run _ args := do
    let identifier ← textArg args "network"
    let network ← Action.reader identifier
    let protocols := stakingProtocols network
    return .obj [
      ("network", .string identifier),
      ("chainId", .nat network.chainId),
      ("protocols", deployedJson protocols),
      ("note",
        if protocols.isEmpty then "No pre-configured protocols for this network"
        else "Use get_staking_position to check your positions")]

/-- The liquid staking protocols that are described on every network. -/
def liquidProtocols : Json :=
  .array [
    .obj [
      ("name", "Lido"),
      ("tokens", .array ["stETH", "wstETH"]),
      ("description", "Largest liquid staking protocol")],
    .obj [
      ("name", "Rocket Pool"),
      ("tokens", .array ["rETH"]),
      ("description", "Decentralized liquid staking")]]

def liquidDirectory : Tool where
  name := "get_liquid_staking_info"
  description := "Get liquid staking token addresses and info for a network"
  operation := "getting liquid staking info"
  params := [networkParam]
  run _ args := do
    let identifier ← textArg args "network"
    let network ← Action.reader identifier
    let tokens := liquidTokens network
    return .obj [
      ("network", .string identifier),
      ("chainId", .nat network.chainId),
      ("liquidStakingTokens", deployedJson tokens),
      ("protocols", liquidProtocols),
      ("note",
        if tokens.isEmpty then "No liquid staking tokens configured for this network"
        else "Use stake_eth_lido to stake ETH and receive stETH")]

end StakingGateway.Operation
