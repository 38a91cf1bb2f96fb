import StakingGateway.Address
import StakingGateway.Text.Digits

/-!
The outcome of a transaction that is part of a block.
-/

namespace StakingGateway.Chain

inductive Status where
  | success
  | failed
deriving Repr, DecidableEq

def Status.text : Status → String
  | success => "success"
  | failed => "failed"

structure Receipt where
  hash : TxHash
  status : Status
  blockNumber : Option Nat
  gasUsed : Option Uint256
deriving Repr, DecidableEq

namespace Receipt

def succeeded (r : Receipt) : Bool := r.status = .success

def blockText (r : Receipt) : String :=
  match r.blockNumber with
  | some n => String.ofList (Text.digits n)
  | none => ""

/-- The gas, which counts as zero when it is not known. -/
def gasText (r : Receipt) : String :=
  match r.gasUsed with
  | some gas => gas.text
  | none => "0"

end Receipt

end StakingGateway.Chain
