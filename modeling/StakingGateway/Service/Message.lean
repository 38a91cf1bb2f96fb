import StakingGateway.Json.Record

/-!
The messages of the remote procedure call protocol: requests, responses and the parameters of a
tool call.
-/

namespace StakingGateway.Service

structure Request where
  version : String
  id : Json
  method : String
  params : Option Json
deriving Repr

namespace Request

def record : Json.Record :=
  ⟨"Request", [⟨"jsonrpc", .text⟩, ⟨"id", .any⟩, ⟨"method", .text⟩, ⟨"params", .any⟩]⟩

def build (given : Json.Given) : Except Json.Fault Request := do
  let version ← given.textOr "jsonrpc" "2.0"
  let method ← given.text "method"
  return ⟨version, (Json.ofOption (given.value? "id")).normal, method,
    (given.value? "params").map Json.normal⟩

def ofJson : Json → Except Json.Fault Request :=
  record.decode build

/-- A request without an identifier, which gets no answer. -/
def isNotification (request : Request) : Bool := request.id.isNull

end Request

structure ToolCall where
  name : String
  arguments : Option Json
deriving Repr

namespace ToolCall

def record : Json.Record :=
  ⟨"ToolCallParams", [⟨"name", .text⟩, ⟨"arguments", .any⟩]⟩

def build (given : Json.Given) : Except Json.Fault ToolCall := do
  return ⟨← given.text "name", given.value? "arguments"⟩

def ofJson : Json → Except Json.Fault ToolCall :=
  record.decode build

/-- Absent arguments are an object without fields. -/
def argumentsOrEmpty (call : ToolCall) : Json :=
  call.arguments.getD (.obj [])

/-- The parameters under which a tool is called by its name as the method. -/
def params (name : String) (arguments : Option Json) : Json :=
  .obj [("name", .string name), ("arguments", arguments.getD (.obj []))]

end ToolCall

inductive ErrorCode where
  | parseError
  | invalidRequest
  | methodNotFound
  | invalidParams
  | internalError
deriving Repr, DecidableEq

def ErrorCode.number : ErrorCode → Int
  | parseError => -32700
  | invalidRequest => -32600
  | methodNotFound => -32601
  | invalidParams => -32602
  | internalError => -32603

inductive Outcome where
  | result (value : Json)
  | error (code : ErrorCode) (message : String)
deriving Repr

structure Response where
  id : Json
  outcome : Outcome
deriving Repr

namespace Response

def result (id value : Json) : Response := ⟨id, .result value⟩

def error (id : Json) (code : ErrorCode) (message : String) : Response :=
  ⟨id, .error code message⟩

def toJson (response : Response) : Json :=
  .object [
    ("jsonrpc", "2.0"),
    ("id", response.id),
    match response.outcome with
    | .result value => ("result", value)
    | .error code message =>
      ("error", .object [("code", .int code.number), ("message", .string message)])]

def wire (response : Response) : String := response.toJson.render

end Response

end StakingGateway.Service
