import StakingGateway.Chain.Program
import StakingGateway.Tool.Error

/-!
Actions: programs that may end early, either with an error that is reported to the caller or with
a crash.
-/

namespace StakingGateway.Tool

inductive Fault where
  | refused (cause : Error)
  | crashed (reason : String)
deriving Repr

abbrev Action := ExceptT Fault Chain.Program

namespace Action

open Chain Contract

def refuse {α : Type} (cause : Error) : Action α := throw (.refused cause)

def crash {α : Type} (reason : String) : Action α := throw (.crashed reason)

def ask (question : Question) : Action question.Answer :=
  ExceptT.lift (Dialogue.query question)

/-- Goes on with a result or ends with the error. -/
def ofChain {α : Type} : Except Chain.Error α → Action α
  | .ok value => pure value
  | .error e => refuse (.chain e)

def ofArgument {α : Type} : Except ArgumentError α → Action α
  | .ok value => pure value
  | .error e => refuse (.argument e)

def reader (identifier : String) : Action Network := do
  ofChain (← ask (.reader identifier))

def account (key identifier : String) : Action Account := do
  ofChain (← ask (.account key identifier))

def read (network : Network) (call : Call) : Action (List Abi.Token) := do
  ofChain (← ask (.read network call))

def simulate (network : Network) (sender : Address) (call : Call) : Action Unit := do
  ofChain (← ask (.simulate network sender call))

def write (account : Account) (call : Call) : Action TxHash := do
  ofChain (← ask (.write account call))

def receipt (network : Network) (hash : TxHash) : Action Receipt := do
  ofChain (← ask (.receipt network hash))

end Action

end StakingGateway.Tool
