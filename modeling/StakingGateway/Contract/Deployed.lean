import StakingGateway.Address
import StakingGateway.Network

/-!
Well-known contracts on the supported networks.
-/

namespace StakingGateway.Contract

structure Deployed where
  name : String
  address : String
deriving Repr, DecidableEq

def liquidTokens : Network → List Deployed
  | .ethereum => [
      ⟨"stETH", "0xae7ab96520DE3A18E5e111B5EaAb095312D7fE84"⟩,
      ⟨"wstETH", "0x7f39C581F595B53c5cb19bD0b3f8dA6c935E2Ca0"⟩,
      ⟨"rETH", "0xae78736Cd615f374D3085123A210448E74Fc6393"⟩]
  | .arbitrum => [⟨"wstETH", "0x5979D7b546E38E414F7E9822514be443A4800529"⟩]
  | .optimism => [⟨"wstETH", "0x1F32b1c2345538c0c6f582fCB022739c4A194Ebb"⟩]
  | _ => []

def liquidToken? (network : Network) (symbol : String) : Option Address :=
  ((liquidTokens network).find? (·.name = symbol)).bind (Address.ofText? ·.address)

def stakingProtocols : Network → List Deployed
  | .ethereum => [
      ⟨"Lido stETH", "0xae7ab96520DE3A18E5e111B5EaAb095312D7fE84"⟩,
      ⟨"Rocket Pool", "0x9559Aaa82d9649C7A7b220E7c461d2E74c9a3593"⟩]
  | .bsc => [⟨"PancakeSwap", "0x45c54210128a065de780C4B0Df3d16664f7f859e"⟩]
  | .arbitrum => [⟨"GMX Staking", "0xd2D1162512F927a7e282Ef43a362659E4F2a728F"⟩]
  | _ => []

/-- The referral that a deposit names when the caller gives none. -/
def defaultReferral : String := "0x40252CFDF8B20Ed757D61ff157719F33Ec332402"

end StakingGateway.Contract
