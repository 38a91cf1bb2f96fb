import StakingGateway.Chain.Error

/-!
Why a tool call fails.
-/

namespace StakingGateway.Tool

structure Issue where
  field : String
  problem : String
deriving Repr, DecidableEq

def Issue.message (i : Issue) : String :=
  s!"'{i.field}' {i.problem}"

def issuesMessage (issues : List Issue) : String :=
  "invalid arguments: " ++ "; ".intercalate (issues.map Issue.message)

/-- An argument that is of the declared kind but cannot be read in the form that is needed. -/
structure ArgumentError where
  field : String
  reason : String
deriving Repr, DecidableEq

def ArgumentError.message (e : ArgumentError) : String :=
  s!"invalid value for '{e.field}': {e.reason}"

inductive Error where
  | duplicate (name : String)
  | unknown (name : String)
  | validation (issues : List Issue)
  | argument (cause : ArgumentError)
  /-- What the tool needs is not deployed on the network. -/
  | unavailable (reason : String)
  | chain (cause : Chain.Error)
  | approvalReverted (hash : TxHash)
  /-- A function failed, and so did the one that was tried in its place. -/
  | fallbackExhausted (primary fallback : String) (cause : Error)
deriving Repr

namespace Error

def message : Error → String
  | duplicate name => s!"tool '{name}' is already registered"
  | unknown name => s!"unknown tool '{name}'"
  | validation issues => issuesMessage issues
  | argument cause => cause.message
  | unavailable reason => reason
  | chain cause => cause.message
  | approvalReverted hash => s!"approval transaction {hash.text} reverted"
  | fallbackExhausted primary fallback cause =>
    s!"{fallback} failed after {primary} failed: {cause.message}"

def kind : Error → String
  | duplicate _ => "duplicate_tool"
  | unknown _ => "unknown_tool"
  | validation _ => "validation"
  | argument _ => "validation"
  | unavailable _ => "unavailable"
  | chain cause => cause.kind
  | approvalReverted _ => "approval_reverted"
  | fallbackExhausted .. => "fallback_exhausted"

end Error

end StakingGateway.Tool
