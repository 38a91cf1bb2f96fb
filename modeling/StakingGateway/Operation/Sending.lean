import StakingGateway.Tool.Action

/-!
Transactions: every call is simulated as its signer before it is sent, and every transaction that
was sent is waited for.
-/

namespace StakingGateway.Operation

open Tool Chain Contract

/-- Simulates a call and, if it would succeed, sends it. -/
def submit (account : Account) (call : Call) : Action TxHash := do
  Action.simulate account.network account.address call
  Action.write account call

/-- Waits for a transaction. One that is part of a block but failed has a receipt too. -/
def confirm (account : Account) (hash : TxHash) : Action Receipt :=
  Action.receipt account.network hash

def submitAndConfirm (account : Account) (call : Call) : Action Receipt := do
  let hash ← submit account call
  confirm account hash

def approveCall (token spender : Address) (amount : Uint256) : Call :=
  { interface := .erc20
    target := token
    function := "approve"
    args := [.address spender, .uint amount] }

/-- Lets `spender` take an amount of a token; a failed approval ends the action. -/
def approve (account : Account) (token spender : Address) (amount : Uint256) :
    Action Receipt := do
  let receipt ← submitAndConfirm account (approveCall token spender amount)
  if !receipt.succeeded then
    Action.refuse (.approvalReverted receipt.hash)
  return receipt

structure Attempted (α : Type) where
  function : String
  value : α
deriving Repr, DecidableEq

/-- Tries `primary` and, if that is refused, `fallback` once. When both are refused, the error
names both and holds the second cause. -/
def withFallback {m : Type → Type} [Monad m] [MonadExceptOf Fault m] {α : Type}
    (primaryName : String) (primary : m α) (fallbackName : String) (fallback : m α) :
    m (Attempted α) :=
  tryCatch (do return ⟨primaryName, ← primary⟩) fun
    | .crashed reason => throw (.crashed reason)
    | .refused _ =>
      tryCatch (do return ⟨fallbackName, ← fallback⟩) fun
        | .crashed reason => throw (.crashed reason)
        | .refused cause =>
          throw (.refused (.fallbackExhausted primaryName fallbackName cause))

end StakingGateway.Operation
