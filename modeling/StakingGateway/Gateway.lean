import StakingGateway.Node.Endpoint
import StakingGateway.Operation.Catalogue
import StakingGateway.Service.Lines

/-!
The gateway as a program: settings from the environment, all tools, and answers to requests line
by line.
-/

namespace StakingGateway.Gateway

open Settings Service

def serverOf (config : Config) : Server :=
  ⟨Operation.registry, ⟨config.signingKey⟩⟩

/-- Requests are answered line by line when an argument or a variable asks for it. -/
def wantsLines (arguments : List String) (environment : EnvFile.Variables) : Bool :=
  arguments.contains "--mcp" || (environment.lookup "MCP_MODE").isSome

def replies {σ : Type} (config : Config) (nodes : Node.Nodes σ) (state : σ)
    (input : List UInt8) : List Response :=
  let session := Lines.serveTogether Node.Step.goesFirst (Node.configured config) Chain.inOrder
    (serverOf config) (Lines.arrivals input)
  (nodes.hold session state).1.1

def noNodes : Node.Nodes Unit := fun _ _ => return .lost "error sending request"

def fullEnvironment (environment : EnvFile.Variables) (file : Option String) :
    EnvFile.Variables :=
  match file with
  | some file => EnvFile.extend environment file
  | none => environment

/-- The lines that the program writes. With unusable settings it writes nothing. -/
def outputLines (arguments : List String) (environment : EnvFile.Variables)
    (file : Option String) (input : List UInt8) : List String :=
  let environment := fullEnvironment environment file
  match Config.ofEnvironment environment with
  | .error _ => []
  | .ok config =>
    if wantsLines arguments environment then
      (replies config noNodes () input).map Response.wire
    else []

end StakingGateway.Gateway
