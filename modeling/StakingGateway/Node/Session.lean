import StakingGateway.Chain.Dialogue
import StakingGateway.Chain.Error
import StakingGateway.Network
import StakingGateway.Node.Answer

/-!
Sessions: dialogues with nodes and with a clock. A timer gives a ticket at once, and only waiting
for a ticket takes time, so that sessions beside each other go on in the order of their tickets.
-/

namespace StakingGateway.Node

/-- An appointment: its time in milliseconds, and its rank among all appointments made. -/
structure Ticket where
  time : Nat
  rank : Nat
deriving Repr, DecidableEq

namespace Ticket

def isBefore (a b : Ticket) : Bool :=
  a.time < b.time || (a.time = b.time && a.rank < b.rank)

def earlier (a b : Ticket) : Ticket :=
  if b.isBefore a then b else a

end Ticket

/-- A client of a network. It sends every question to the node at its URL. -/
structure Client where
  network : Network
  url : String
deriving Repr, DecidableEq

inductive Step where
  | ask (client : Client) (question : Question)
  | timer (delay : Nat)
  | wait (ticket : Ticket)
deriving Repr

abbrev Step.Answer : Step → Type
  | ask .. => Reply
  | timer _ => Ticket
  | wait _ => Unit

/-- A session goes on until it waits; of two that wait, the one with the earlier ticket goes on. -/
def Step.goesFirst : Step → Step → Bool
  | wait a, wait b => a.isBefore b
  | wait _, _ => false
  | _, _ => true

abbrev Session := Dialogue Step Step.Answer

def timer (delay : Nat) : Session Ticket := Dialogue.query (Step.timer delay)

def wait (ticket : Ticket) : Session Unit := Dialogue.query (Step.wait ticket)

/-- Asks the node of a client, and goes on with the result; a failure ends the session. -/
def ask {α : Type} (client : Client) (question : Question) (failure : Error → Chain.Error)
    (next : question.Result → Session (Except Chain.Error α)) :
    Session (Except Chain.Error α) :=
  .ask (.ask client question) fun reply =>
    match question.resultOf reply with
    | .ok result => next result
    | .error e => .done (.error (failure e))

/-- A question, with the client that asked it and so with the URL it went to. -/
structure Asked where
  client : Client
  question : Question
deriving Repr

/-- Nodes whose state is of type `σ`. -/
abbrev Nodes (σ : Type) := Client → Question → StateM σ Reply

/-- The state of the nodes, the time, and the number of appointments made. -/
structure World (σ : Type) where
  nodes : σ
  now : Nat := 0
  issued : Nat := 0

/-- What a step brings about; only questions to nodes are noted down. -/
def Nodes.respond {σ : Type} (nodes : Nodes σ) :
    (step : Step) → StateM (World σ) (step.Answer × List Asked)
  | .ask client question => fun world =>
    let (reply, state) := nodes client question world.nodes
    ((reply, [⟨client, question⟩]), { world with nodes := state })
  | .timer delay => fun world =>
    ((⟨world.now + delay, world.issued⟩, []), { world with issued := world.issued + 1 })
  | .wait ticket => fun world => (((), []), { world with now := max world.now ticket.time })

def Nodes.hold {σ α : Type} (nodes : Nodes σ) (session : Session α) (state : σ) :
    (α × List Asked) × σ :=
  let (outcome, world) := (Dialogue.hold nodes.respond session).run { nodes := state }
  (outcome, world.nodes)

end StakingGateway.Node
