import StakingGateway.Chain.Run
import StakingGateway.Node.Session

/-!
A chain behind nodes: every read, simulation, submission and receipt is a short session of the
client of its network.
-/

namespace StakingGateway.Node

open Contract

/-- How long receipts are waited for and how often they are looked for, in milliseconds. -/
structure Timing where
  receiptTimeout : Nat
  pollInterval : Nat
deriving Repr

def Message.ofCall (sender : Option Address) (call : Call) : Except Chain.Error Message :=
  call.calldata.map fun data => ⟨sender, call.target, data, call.value⟩

def read (client : Client) (call : Call) : Session Chain.ReadAnswer :=
  match Message.ofCall none call with
  | .error e => return .error e
  | .ok message =>
    ask client (.call message) (fun e => .callFailed call.function e.message) fun data =>
      return call.decodeOutput data

def simulate (client : Client) (sender : Address) (call : Call) :
    Session (Except Chain.Error Unit) :=
  match Message.ofCall (some sender) call with
  | .error e => return .error e
  | .ok message =>
    ask client (.call message) (fun e => .simulationReverted call.function e.reason) fun _ =>
      return .ok ()

/-- The transaction of a draft, signed by the sender for the network of the client. -/
def Draft.sign (client : Client) (sender : Address) (draft : Draft) (gas : Uint256) :
    Transaction :=
  { sender := sender
    target := draft.message.target
    data := draft.message.data
    value := draft.message.value.getD 0
    nonce := draft.nonce
    gasPrice := draft.gasPrice
    gas := gas
    chainId := client.network.chainId }

def write (client : Client) (sender : Address) (call : Call) :
    Session (Except Chain.Error TxHash) :=
  match Message.ofCall (some sender) call with
  | .error e => return .error e
  | .ok message =>
    let failure (e : Error) : Chain.Error := .notSubmitted call.function e.message
    ask client (.transactionCount sender) failure fun nonce =>
      ask client .gasPrice failure fun gasPrice =>
        let draft : Draft := ⟨message, nonce, gasPrice⟩
        ask client (.estimateGas draft) failure fun gas =>
          ask client (.submit (draft.sign client sender gas)) failure fun hash =>
            return .ok hash

/-- The receipt that is reported for a transaction. Only the status one is a success. -/
def Receipt.report (r : Receipt) (hash : TxHash) : Chain.Receipt :=
  { hash := hash
    status := if r.status = some 1 then .success else .failed
    blockNumber := r.blockNumber
    gasUsed := r.gasUsed }

def eagerLooks : Nat := 128

/-- A bound on the looks after the first one. It counts only where there is no interval between
them; with any other interval the deadline comes first. -/
def Timing.furtherLooks (timing : Timing) : Nat := max timing.receiptTimeout eagerLooks

/-- Looks for a receipt once; `missing` follows when there is none yet. -/
def look (client : Client) (hash : TxHash)
    (missing : Session (Except Chain.Error Chain.Receipt)) :
    Session (Except Chain.Error Chain.Receipt) :=
  ask client (.receipt hash) (fun e => .noReceipt hash.text e.message) fun
    | some receipt => return .ok (receipt.report hash)
    | none => missing

def giveUp (timing : Timing) (hash : TxHash) (deadline : Ticket) :
    Session (Except Chain.Error Chain.Receipt) := do
  wait deadline
  return .error (.receiptTimeout hash.text (timing.receiptTimeout / 1000))

/-- Waits and looks again, up to `looks` times, as long as the ticket for the next look is not behind
the deadline. At the time of the deadline itself there is a look. -/
def lookAgain (timing : Timing) (client : Client) (hash : TxHash) (deadline : Ticket) :
    (looks : Nat) → (next : Ticket) → Session (Except Chain.Error Chain.Receipt)
  | 0, _ => giveUp timing hash deadline
  | looks + 1, next =>
    if deadline.time < next.time then giveUp timing hash deadline
    else do
      wait (deadline.earlier next)
      look client hash do
        lookAgain timing client hash deadline looks (← timer timing.pollInterval)

/-- Waits for a receipt; the deadline is set once the first look has found none. -/
def awaitReceipt (timing : Timing) (client : Client) (hash : TxHash) :
    Session (Except Chain.Error Chain.Receipt) :=
  look client hash do
    let next ← timer timing.pollInterval
    let deadline ← timer timing.receiptTimeout
    lookAgain timing client hash deadline timing.furtherLooks next

/-- The chain behind nodes. The client of a network is built for the endpoint of the network, the
public one unless another is given. -/
def chain (reach : Network → Except Chain.Error Unit) (timing : Timing)
    (endpoint : Network → String := Network.publicEndpoint) : Chain Session where
  reach := reach
  read network := read ⟨network, endpoint network⟩
  simulate network := simulate ⟨network, endpoint network⟩
  write account := write ⟨account.network, endpoint account.network⟩ account.address
  receipt network := awaitReceipt timing ⟨network, endpoint network⟩

end StakingGateway.Node
