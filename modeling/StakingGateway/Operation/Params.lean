import StakingGateway.Amount.Format
import StakingGateway.Tool.Registry

/-!
Parameters that many tools share, and the reading of arguments in actions.
-/

namespace StakingGateway.Operation

open Tool

def defaultNetwork : String := "ethereum"

def networkParam : Param :=
  (Param.optional "network" .string
    "Network name or chain id (e.g. 'ethereum', 'arbitrum', 'bsc', '1')").withDefault
    (.string defaultNetwork)

def keyParam : Param :=
  .optional Args.keyField .string
    "Private key (0x-prefixed hex) used to sign. Defaults to the server's PRIVATE_KEY"

def textArg (args : Args) (name : String) : Action String :=
  Action.ofArgument (args.text name)

def addressArg (args : Args) (name : String) : Action Address :=
  Action.ofArgument (args.address name)

def naturalArg (args : Args) (name : String) : Action Nat :=
  Action.ofArgument (args.natural name)

def weiArg (args : Args) (name : String) : Action Uint256 :=
  Action.ofArgument (args.wei name)

/-- A decimal number of a token with the places of ether. -/
def etherArg (args : Args) (name : String) : Action Uint256 :=
  Action.ofArgument (args.units name Amount.etherDecimals)

def keyArg (context : Context) (args : Args) : Action String :=
  Action.ofArgument (context.signingKey args)

end StakingGateway.Operation
