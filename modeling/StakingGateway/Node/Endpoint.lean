import StakingGateway.Node.Client
import StakingGateway.Settings.Config

/-!
The endpoints of nodes as the settings give them.
-/

namespace StakingGateway.Node

open Settings

/-- A client can be built when the endpoint in use for the network is a URL. -/
def reach (config : Config) (network : Network) : Except Chain.Error Unit :=
  (Url.check (config.endpoint network)).mapError fun e =>
    .badEndpoint s!"{network.name}: {e.message}"

def timing (config : Config) : Timing :=
  ⟨config.receiptTimeout, config.pollInterval⟩

def configured (config : Config) : Chain Session :=
  chain (reach config) (timing config) config.endpoint

end StakingGateway.Node
