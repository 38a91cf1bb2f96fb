import StakingGateway.Abi.Function

/-!
What can go wrong between a tool and a chain.
-/

namespace StakingGateway.Chain

inductive Error where
  | unsupportedNetwork (identifier : String)
  | invalidKey (reason : String)
  /-- No client can be built for the endpoint of a network. -/
  | badEndpoint (reason : String)
  | abi (function reason : String)
  /-- A read was not answered. -/
  | callFailed (function reason : String)
  /-- The rehearsal of a transaction reverted; nothing was sent. -/
  | simulationReverted (function reason : String)
  /-- A signed transaction could not be submitted. -/
  | notSubmitted (function reason : String)
  | noReceipt (hash reason : String)
  | receiptTimeout (hash : String) (seconds : Nat)
deriving Repr, DecidableEq

namespace Error

def kind : Error → String
  | unsupportedNetwork _ => "unsupported_network"
  | invalidKey _ => "invalid_key"
  | badEndpoint _ => "provider"
  | abi .. => "abi"
  | callFailed .. => "rpc"
  | simulationReverted .. => "simulation_reverted"
  | notSubmitted .. => "transaction_failed"
  | noReceipt .. => "receipt"
  | receiptTimeout .. => "receipt_timeout"

def message : Error → String
  | unsupportedNetwork identifier => s!"unsupported network: {identifier}"
  | invalidKey reason => s!"invalid private key: {reason}"
  | badEndpoint reason => s!"failed to create provider: {reason}"
  | abi function reason => s!"ABI error in {function}: {reason}"
  | callFailed function reason => s!"call to {function} failed: {reason}"
  | simulationReverted function reason => s!"simulation of {function} reverted: {reason}"
  | notSubmitted function reason => s!"failed to submit {function} transaction: {reason}"
  | noReceipt hash reason => s!"failed to fetch receipt for {hash}: {reason}"
  | receiptTimeout hash seconds => s!"transaction {hash} was not mined within {seconds}s"

def ofAbi (function : String) (e : Abi.Error) : Error :=
  abi function e.message

end Error

end StakingGateway.Chain
