import StakingGateway.Chain.Run
import StakingGateway.Service.Dispatch
import StakingGateway.Text.Blank

/-!
Requests line by line: what arrives is cut into lines up to the first one that is no text, and
every line that is not blank is answered on its own.
-/

namespace StakingGateway.Service.Lines

/-- The bytes between line ends; behind the last line end there is a line only if bytes follow. -/
def splitBytes : List UInt8 → List (List UInt8)
  | [] => []
  | b :: rest =>
    if b = 10 then [] :: splitBytes rest
    else
      match splitBytes rest with
      | [] => [[b]]
      | line :: lines => (b :: line) :: lines

def textOf? (bytes : List UInt8) : Option String :=
  String.fromUTF8? ⟨bytes.toArray⟩

/-- The lines of the input up to the first that is no text. -/
def texts (input : List UInt8) : List String :=
  ((splitBytes input).map textOf?).takeWhile (·.isSome) |>.filterMap id

inductive Arrival where
  | request (request : Request)
  | unreadable (complaint : Json.Complaint)
deriving Repr

/-- A line without its outer blanks; nothing, when it is blank. -/
def arrival? (line : String) : Option Arrival :=
  let body := Text.trim line
  if body.isEmpty then none
  else
    match Request.record.parse Request.build body with
    | .ok request => some (.request request)
    | .error complaint => some (.unreadable complaint)

def arrivals (input : List UInt8) : List Arrival :=
  (texts input).filterMap arrival?

/-- The reply to one arrival. A crash of a tool is answered too, unless no answer is expected. -/
def reply (server : Server) : Arrival → Chain.Program (Option Response)
  | .unreadable complaint =>
    return some (.error .null .parseError ("Parse error: " ++ complaint.message))
  | .request request => do
    match ← server.handle request with
    | .ok response => return response
    | .error _ =>
      if request.isNotification then return none
      else
        return some (.error request.id .internalError
          s!"Internal error while handling '{request.method}'")

def tasks (server : Server) (arrivals : List Arrival) : List (Chain.Program (Option Response)) :=
  arrivals.map (reply server)

def serve (server : Server) (arrivals : List Arrival) : Chain.Program (List Response) := do
  let replies ← (tasks server arrivals).mapM id
  return replies.filterMap id

/-- The replies when all arrivals are answered beside each other over a chain whose dialogues
`goesFirst` puts in order. -/
def serveTogether {Q : Type} {A : Q → Type} (goesFirst : Q → Q → Bool)
    (chain : Chain (Dialogue Q A)) (schedule : Chain.Schedule) (server : Server)
    (arrivals : List Arrival) : Dialogue Q A (List Response) := do
  let outcomes ← chain.runTogether goesFirst schedule (tasks server arrivals)
  return outcomes.filterMap (·.1)

end StakingGateway.Service.Lines
