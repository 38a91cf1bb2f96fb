import StakingGateway.Json.Record
import StakingGateway.Tool.Registry

/-!
Envelopes: the uniform outcome of a tool call, as a value, as JSON and as a line of text.
-/

namespace StakingGateway.Tool

structure Failure where
  message : String
  /-- What was being attempted. -/
  context : String
  /-- The stable code of the cause. -/
  kind : String
deriving Repr, DecidableEq

structure Envelope where
  success : Bool
  data : Option Json
  error : Option Failure
deriving Repr

namespace Failure

/-- The fields in the order in which they are written. -/
def fields (f : Failure) : List (String × Json) :=
  [("message", .string f.message), ("context", .string f.context), ("kind", .string f.kind)]

def record : Json.Record :=
  ⟨"EnvelopeError", [⟨"message", .text⟩, ⟨"context", .text⟩, ⟨"kind", .text⟩]⟩

def build (given : Json.Given) : Except Json.Fault Failure := do
  return ⟨← given.text "message", ← given.text "context", ← given.text "kind"⟩

def ofJson : Json → Except Json.Fault Failure :=
  record.decode build

end Failure

namespace Envelope

def ok (data : Json) : Envelope := ⟨true, some data, none⟩

def failure (cause : Error) (context : String) : Envelope :=
  ⟨false, none, some ⟨cause.message, context, cause.kind⟩⟩

/-- The fields in the order in which they are written; an absent side is left out. The error is
written by the given function. -/
def fieldsWith (write : List (String × Json) → Json) (e : Envelope) : List (String × Json) :=
  ("success", .bool e.success) ::
    ((e.data.map fun data => ("data", data)).toList ++
      (e.error.map fun error => ("error", write error.fields)).toList)

/-- The envelope as a value, with its fields in normal order. -/
def toJson (e : Envelope) : Json :=
  .obj (e.fieldsWith .obj)

/-- The envelope as a text, with its fields as they are written. -/
def wire (e : Envelope) : String :=
  (Json.object (e.fieldsWith .object)).render

def checkError : Json → Except Json.Fault Unit
  | .null => .ok ()
  | value => (Failure.ofJson value).map fun _ => ()

def record : Json.Record :=
  ⟨"ResponseEnvelope", [⟨"success", .truth⟩, ⟨"data", .any⟩, ⟨"error", .checked checkError⟩]⟩

def build (given : Json.Given) : Except Json.Fault Envelope := do
  let success ← given.truth "success"
  let data ← given.side "data"
  let error ← given.side "error"
  return ⟨success, data, ← error.mapM Failure.ofJson⟩

def ofJson : Json → Except Json.Fault Envelope :=
  record.decode build

def summary (e : Envelope) : String :=
  match e.error with
  | some error => s!"Error {error.context}: {error.message}"
  | none => "ok"

def toolResult (e : Envelope) : Json :=
  .obj [
    ("content", .array [.obj [("type", "text"), ("text", .string e.wire)]]),
    ("structuredContent", e.toJson),
    ("isError", .bool (!e.success))]

end Envelope

/-- The label under which the failure of a call is reported. -/
def Registry.operationOf (registry : Registry) (name : String) : String :=
  match registry.get? name with
  | some tool => tool.operation
  | none => s!"invoking tool '{name}'"

/-- Runs a tool and puts the outcome into an envelope; only a crash leaves none. -/
def Registry.call (registry : Registry) (context : Context) (name : String) (args : Json) :
    Chain.Program (Except String Envelope) := do
  match ← (registry.invoke context name args).run with
  | .ok data => return .ok (.ok data)
  | .error (.refused cause) => return .ok (.failure cause (registry.operationOf name))
  | .error (.crashed reason) => return .error reason

end StakingGateway.Tool
