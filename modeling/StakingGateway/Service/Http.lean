import StakingGateway.Bytes.Percent
import StakingGateway.Network
import StakingGateway.Service.Dispatch
import StakingGateway.Service.MediaType

/-!
Requests over HTTP: a look at the state of the server, the list of tools, calls of single tools
and protocol requests. Pages of any origin may use all of them.
-/

namespace StakingGateway.Service.Http

structure Exchange where
  method : String
  target : String
  headers : List (String × String)
  body : String
deriving Repr

inductive Body where
  | json (value : Json)
  | text (value : String)
  /-- Nothing, with the media type of what another method would have got. -/
  | withheld
  | empty
deriving Repr

structure Reply where
  status : Nat
  body : Body
deriving Repr

/-- The origins whose pages may read replies. -/
def allowedOrigin : String := "*"

def Reply.mediaType? (reply : Reply) : Option String :=
  match reply.body with
  | .json _ | .withheld => some "application/json"
  | .text _ => some "text/plain; charset=utf-8"
  | .empty => none

def bare (status : Nat) : Reply := ⟨status, .empty⟩

inductive Resource where
  | health
  | tools
  | tool (segment : String)
  | rpc
deriving Repr, DecidableEq

def isSchemeChar (c : Char) : Bool :=
  c.isAlphanum || c = '+' || c = '-' || c = '.'

/-- The path of a target, which may name a scheme and an authority before it. A query or a
fragment behind it does not count. -/
def pathOf (target : List Char) : List Char :=
  let (plain, _) := Text.splitFirst (fun c => c = '?' || c = '#') target
  match plain.dropWhile isSchemeChar with
  | ':' :: '/' :: '/' :: rest => rest.dropWhile (· ≠ '/')
  | _ => plain

def resource? (target : String) : Option Resource :=
  match (Text.splitOnChar '/' (pathOf target.toList)).map String.ofList with
  | ["", "api", "health"] => some .health
  | ["", "api", "tools"] => some .tools
  | ["", "api", "tools", segment] => if segment.isEmpty then none else some (.tool segment)
  | ["", "api", "rpc"] => some .rpc
  | _ => none

/-- The name in a path segment, in which bytes may be written with percent signs. -/
def toolName? (segment : String) : Option String :=
  String.fromUTF8? ⟨(Bytes.decodePercent segment.toUTF8.toList).toArray⟩

def isJson (exchange : Exchange) : Bool :=
  match exchange.headers.find? fun header => header.1.toLower = "content-type" with
  | some (_, value) => ((MediaType.ofText? value).map (·.isJson)).getD false
  | none => false

def notJson : Reply :=
  ⟨415, .text "Expected request with `Content-Type: application/json`"⟩

/-- The most bytes of a body that are read. -/
def bodyLimit : Nat := 2097152

def tooLarge : Reply :=
  ⟨413, .text "Failed to buffer the request body: length limit exceeded"⟩

/-- The reply to a request whose body is not looked at. -/
def refusal? (exchange : Exchange) : Option Reply :=
  if !isJson exchange then some notJson
  else if bodyLimit < exchange.body.utf8ByteSize then some tooLarge
  else none

/-- A body that is no JSON text, or whose shape is wrong. -/
def badBody (complaint : Json.Complaint) : Reply :=
  if complaint.fault.isShape then
    ⟨422, .text ("Failed to deserialize the JSON body into the target type: " ++
      complaint.message)⟩
  else ⟨400, .text ("Failed to parse the request body as JSON: " ++ complaint.message)⟩

def badSegment : Reply := ⟨400, .text "Invalid URL: Invalid UTF-8 in `name`"⟩

/-- The status for an envelope. What fails on a chain is told in the body; the status only sets
apart the mistakes of callers. -/
def statusOf (envelope : Tool.Envelope) : Nat :=
  match envelope.error with
  | none => 200
  | some error =>
    if error.kind = "unknown_tool" then 404
    else if error.kind ∈ ["validation", "unsupported_network", "invalid_key"] then 400
    else 422

def health (server : Server) : Json :=
  .obj [
    ("status", "ok"),
    ("service", .string serverName),
    ("version", .string serverVersion),
    ("tools", .nat server.registry.size),
    ("networks", .array (Network.all.map fun network => Json.string network.name)),
    ("signingKeyConfigured", .bool server.context.defaultKey.isSome)]

/-- A reply that only reading methods get. -/
def readOnly (exchange : Exchange) (value : Json) : Reply :=
  if exchange.method = "GET" then ⟨200, .json value⟩
  else if exchange.method = "HEAD" then ⟨200, .withheld⟩
  else bare 405

def callTool (server : Server) (exchange : Exchange) (segment : String) :
    Chain.Program (Except String Reply) := do
  match toolName? segment with
  | none => return .ok badSegment
  | some name =>
    match refusal? exchange with
    | some reply => return .ok reply
    | none =>
      match Json.parseFirst exchange.body with
      | .error complaint => return .ok (badBody complaint)
      | .ok args =>
        match ← server.registry.call server.context name args with
        | .error reason => return .error reason
        | .ok envelope => return .ok ⟨statusOf envelope, .json envelope.toJson⟩

def answerRequest (server : Server) (exchange : Exchange) :
    Chain.Program (Except String Reply) := do
  match refusal? exchange with
  | some reply => return .ok reply
  | none =>
    match Request.record.parseFirst Request.build exchange.body with
    | .error complaint => return .ok (badBody complaint)
    | .ok request =>
      match ← server.handle request with
      | .error reason => return .error reason
      | .ok (some response) => return .ok ⟨200, .json response.toJson⟩
      | .ok none => return .ok (bare 202)

/-- The reply to a request. A crash of a tool gives none. -/
def handle (server : Server) (exchange : Exchange) : Chain.Program (Except String Reply) :=
  if exchange.method = "OPTIONS" then return .ok (bare 200)
  else
    match resource? exchange.target with
    | none => return .ok (bare 404)
    | some .health => return .ok (readOnly exchange (health server))
    | some .tools => return .ok (readOnly exchange server.registry.descriptors)
    | some (.tool segment) =>
      if exchange.method = "POST" then callTool server exchange segment
      else return .ok (bare 405)
    | some .rpc =>
      if exchange.method = "POST" then answerRequest server exchange
      else return .ok (bare 405)

end StakingGateway.Service.Http
