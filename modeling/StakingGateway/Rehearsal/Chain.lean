import StakingGateway.Chain.Run
import StakingGateway.Rehearsal.Script

/-!
A rehearsed chain: it answers calls by the names of their functions from scripts, and numbers the
transactions that are sent to it.
-/

namespace StakingGateway.Rehearsal

open Contract

inductive Submission where
  | next
  | hash (hash : TxHash)
  | fails (cause : Chain.Error)
deriving Repr

structure ReceiptPlan where
  status : Chain.Status := .success
  blockNumber : Option Nat := none
  gasUsed : Option Uint256 := none
deriving Repr

def ReceiptPlan.usual : ReceiptPlan :=
  ⟨.success, some 19000000, some 85000⟩

structure Stage where
  reads : Script Chain.ReadAnswer := []
  simulations : Script (Except Chain.Error Unit) := []
  writes : Script Submission := []
  receipts : Script (Except Chain.Error ReceiptPlan) := []
  /-- The number of transactions that got the next hash. -/
  sent : Nat := 0
  /-- The function that was sent under each hash. -/
  functions : List (TxHash × String) := []

namespace Stage

def read (_ : Network) (call : Call) : StateM Stage Chain.ReadAnswer := fun s =>
  let (answer, reads) := s.reads.take call.function
  (answer.getD (.error (.callFailed call.function "function not found")),
    { s with reads := reads })

def simulate (_ : Network) (_ : Address) (call : Call) :
    StateM Stage (Except Chain.Error Unit) := fun s =>
  let (answer, simulations) := s.simulations.take call.function
  (answer.getD (.ok ()), { s with simulations := simulations })

def write (_ : Chain.Account) (call : Call) : StateM Stage (Except Chain.Error TxHash) := fun s =>
  let (answer, writes) := s.writes.take call.function
  let s := { s with writes := writes }
  match answer.getD .next with
  | .next =>
    let hash := TxHash.ofNat (s.sent + 1)
    (.ok hash,
      { s with sent := s.sent + 1, functions := (hash, call.function) :: s.functions })
  | .hash hash => (.ok hash, { s with functions := (hash, call.function) :: s.functions })
  | .fails cause => (.error cause, s)

def receipt (_ : Network) (hash : TxHash) :
    StateM Stage (Except Chain.Error Chain.Receipt) := fun s =>
  let (answer, receipts) := s.receipts.take ((s.functions.lookup hash).getD "")
  let s := { s with receipts := receipts }
  ((answer.getD (.ok .usual)).map fun plan =>
    ⟨hash, plan.status, plan.blockNumber, plan.gasUsed⟩, s)

end Stage

/-- The rehearsed chain, which reaches every network. -/
def chain : Chain (StateM Stage) where
  reach _ := .ok ()
  read := Stage.read
  simulate := Stage.simulate
  write := Stage.write
  receipt := Stage.receipt

end StakingGateway.Rehearsal
