import StakingGateway.Service.Message
import StakingGateway.Tool.Envelope

/-!
The answers to requests: server information, the list of tools, and tool calls under the method
for them or under the name of the tool.
-/

namespace StakingGateway.Service

/-- What answers requests: the tools and what they may use. -/
structure Server where
  registry : Tool.Registry
  context : Tool.Context

def serverName : String := "staking-mcp-server"

def serverVersion : String := "0.1.0"

def protocolVersion : String := "2024-11-05"

/-- The answer to the first request of a client. -/
def greeting : Json :=
  .obj [
    ("protocolVersion", .string protocolVersion),
    ("capabilities", .obj [("tools", .obj [("listChanged", .bool false)])]),
    ("serverInfo", .obj [("name", .string serverName), ("version", .string serverVersion)])]

namespace Server

/-- Runs the tool that the parameters of a call name. A crash gives no response. -/
def callTool (server : Server) (id : Json) (params : Option Json) :
    Chain.Program (Except String Response) := do
  match params with
  | none => return .ok (.error id .invalidParams "Missing 'params' object")
  | some params =>
    match ToolCall.ofJson params with
    | .error fault =>
      return .ok (.error id .invalidParams ("Invalid tools/call params: " ++ fault.message))
    | .ok call =>
      match ← server.registry.call server.context call.name call.argumentsOrEmpty with
      | .ok envelope => return .ok (.result id envelope.toolResult)
      | .error reason => return .error reason

def respond (server : Server) (request : Request) : Chain.Program (Except String Response) :=
  if request.method = "initialize" then
    return .ok (.result request.id greeting)
  else if request.method = "ping" then
    return .ok (.result request.id (.obj []))
  else if request.method = "tools/list" then
    return .ok (.result request.id server.registry.descriptors)
  else if request.method = "tools/call" then
    server.callTool request.id request.params
  else if server.registry.contains request.method then
    server.callTool request.id (some (ToolCall.params request.method request.params))
  else
    return .ok (.error request.id .methodNotFound ("Method not found: " ++ request.method))

/-- The response to a request, or nothing to a notification. -/
def handle (server : Server) (request : Request) :
    Chain.Program (Except String (Option Response)) :=
  if request.isNotification then return .ok none
  else do
    match ← server.respond request with
    | .ok response => return .ok (some response)
    | .error reason => return .error reason

end Server

end StakingGateway.Service
