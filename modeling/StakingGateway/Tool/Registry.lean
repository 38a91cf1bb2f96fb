import StakingGateway.Tool.Action
import StakingGateway.Tool.Args

/-!
Tools and the registry in which they are found by name.
-/

namespace StakingGateway.Tool

/-- What a tool may use besides its arguments. -/
structure Context where
  /-- The key that signs when a call does not bring its own. -/
  defaultKey : Option String := none

/-- The key of the call, else the default. -/
def Context.signingKey (context : Context) (args : Args) : Except ArgumentError String :=
  match args.text? Args.keyField with
  | some key => .ok key
  | none =>
    match context.defaultKey with
    | some key => .ok key
    | none =>
      .error ⟨Args.keyField, "no private key supplied and PRIVATE_KEY is not configured"⟩

end StakingGateway.Tool

namespace StakingGateway

structure Tool where
  name : String
  description : String
  /-- What the tool is doing, for messages: "staking tokens". -/
  operation : String
  params : List Tool.Param
  run : Tool.Context → Tool.Args → Tool.Action Json

namespace Tool

def descriptor (tool : Tool) : Json :=
  .obj [
    ("name", .string tool.name),
    ("description", .string tool.description),
    ("inputSchema", schemaOf tool.params)]

def inspect (tool : Tool) : String :=
  "ToolDefinition \x7b name: " ++ Text.quoted tool.name ++ ", operation: " ++
    Text.quoted tool.operation ++ ", params: " ++ toString tool.params.length ++ " \x7d"

/-- The registered tools in the order of their names. -/
structure Registry where
  tools : List Tool

namespace Registry

def empty : Registry := ⟨[]⟩

def get? (registry : Registry) (name : String) : Option Tool :=
  registry.tools.find? (·.name = name)

def contains (registry : Registry) (name : String) : Bool :=
  (registry.get? name).isSome

def size (registry : Registry) : Nat := registry.tools.length

def isEmpty (registry : Registry) : Bool := registry.tools.isEmpty

/-- Puts a tool before the first one with a later name. -/
def place (tool : Tool) : List Tool → List Tool
  | [] => [tool]
  | other :: rest =>
    if tool.name < other.name then tool :: other :: rest else other :: place tool rest

def register (registry : Registry) (tool : Tool) : Except Error Registry :=
  if registry.contains tool.name then .error (.duplicate tool.name)
  else .ok ⟨place tool registry.tools⟩

/-- Adds tools one after the other up to the first whose name is taken; the ones before it stay
registered. -/
def registerAll (registry : Registry) : List Tool → Registry × Except Error Unit
  | [] => (registry, .ok ())
  | tool :: rest =>
    match registry.register tool with
    | .ok registry => registerAll registry rest
    | .error e => (registry, .error e)

def descriptors (registry : Registry) : Json :=
  .obj [("tools", .array (registry.tools.map descriptor))]

def invoke (registry : Registry) (context : Context) (name : String) (args : Json) :
    Action Json := do
  match registry.get? name with
  | none => Action.refuse (.unknown name)
  | some tool =>
    match validate tool.params args with
    | .error issues => Action.refuse (.validation issues)
    | .ok args => tool.run context args

end Registry

end Tool

end StakingGateway
