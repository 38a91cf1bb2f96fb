import StakingGateway.Chain.Program
import StakingGateway.Crypto.SigningKey

/-!
Chains, and the run of a program over a chain. A chain says which networks it can reach and how
it answers calls; the resolution of identifiers and keys is the same for every chain.
-/

namespace StakingGateway

open Contract

/-- A chain whose answers are computed in `m`. -/
structure Chain (m : Type → Type) where
  /-- Can a client be built for the endpoint of the network? -/
  reach : Network → Except Chain.Error Unit
  read : Network → Call → m Chain.ReadAnswer
  simulate : Network → Address → Call → m (Except Chain.Error Unit)
  write : Chain.Account → Call → m (Except Chain.Error TxHash)
  receipt : Network → TxHash → m (Except Chain.Error Chain.Receipt)

namespace Chain

variable {m : Type → Type}

def openReader (chain : Chain m) (identifier : String) : Except Error Network :=
  match Network.resolve? identifier with
  | none => .error (.unsupportedNetwork identifier)
  | some network => (chain.reach network).map fun _ => network

/-- The account of a key on a network; the network is looked at first. -/
def openAccount (chain : Chain m) (key identifier : String) : Except Error Account :=
  match chain.openReader identifier with
  | .error e => .error e
  | .ok network =>
    match Crypto.SigningKey.ofText key with
    | .error e => .error (.invalidKey e.message)
    | .ok signer => .ok ⟨network, signer.address⟩

/-- The order in which a number of reads that are under way together are answered. -/
abbrev Schedule := Nat → List Nat

def inOrder : Schedule := List.range

variable [Monad m]

/-- Answers reads one after the other until one is decisive. -/
def readInOrder (chain : Chain m) (network : Network) (calls : List Call)
    (decisive : Call → ReadAnswer → Bool) :
    (order : List Nat) → (answers : List (Nat × ReadAnswer)) → m (Gathered × List Event)
  | [], answers =>
    return (.all ((List.range calls.length).filterMap fun i => answers.lookup i), [])
  | i :: order, answers =>
    match calls[i]? with
    | none => readInOrder chain network calls decisive order answers
    | some call => do
      let answer ← chain.read network call
      let event := Event.read network call answer
      if decisive call answer then return (.stopped call answer, [event])
      else
        let (gathered, events) ←
          readInOrder chain network calls decisive order ((i, answer) :: answers)
        return (gathered, event :: events)

def respond (chain : Chain m) (schedule : Schedule) :
    (question : Question) → m (question.Answer × List Event)
  | .reader identifier =>
    let answer := chain.openReader identifier
    return (answer, [.reader identifier answer])
  | .account key identifier =>
    let answer := chain.openAccount key identifier
    return (answer, [.account key identifier answer])
  | .read network call => do
    let answer ← chain.read network call
    return (answer, [.read network call answer])
  | .readAll network calls decisive =>
    chain.readInOrder network calls decisive (schedule calls.length) []
  | .simulate network sender call => do
    let answer ← chain.simulate network sender call
    return (answer, [.simulate network sender call answer])
  | .write account call => do
    let answer ← chain.write account call
    return (answer, [.write account call answer])
  | .receipt network hash => do
    let answer ← chain.receipt network hash
    return (answer, [.receipt network hash answer])

def run {α : Type} (chain : Chain m) (schedule : Schedule) (program : Program α) :
    m (α × List Event) :=
  program.hold (chain.respond schedule)

/-- Runs programs beside each other over a chain that holds dialogues itself. -/
def runTogether {Q : Type} {A : Q → Type} {α : Type} (goesFirst : Q → Q → Bool)
    (chain : Chain (Dialogue Q A)) (schedule : Schedule) (programs : List (Program α)) :
    Dialogue Q A (List (α × List Event)) :=
  Dialogue.together goesFirst (programs.map (chain.run schedule))

end Chain

end StakingGateway
