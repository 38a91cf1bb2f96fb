import StakingGateway.Tool.Action

/-!
Reads of single results: firm ones, which a tool cannot do without, and others that give way to
zero or to nothing when they fail.
-/

namespace StakingGateway.Operation

open Tool Chain Contract

def uintOf (call : Call) (answer : ReadAnswer) : Except Chain.Error Uint256 :=
  answer.bind fun tokens => uintAt tokens 0 call.function

def addressOf (call : Call) (answer : ReadAnswer) : Except Chain.Error Address :=
  answer.bind fun tokens => addressAt tokens 0 call.function

def uintOrZero (call : Call) (answer : ReadAnswer) : Uint256 :=
  match uintOf call answer with
  | .ok value => value
  | .error _ => 0

def addressOrNone (call : Call) (answer : ReadAnswer) : Option Address :=
  (addressOf call answer).toOption

/-- A number that the tool cannot do without. -/
def readUint (network : Network) (call : Call) : Action Uint256 := do
  Action.ofChain (uintOf call (← Action.ask (.read network call)))

def readUintOrZero (network : Network) (call : Call) : Action Uint256 := do
  return uintOrZero call (← Action.ask (.read network call))

/-- The answer at a place among the answers to reads that were under way together. -/
def answerAt (answers : List ReadAnswer) (index : Nat) (call : Call) : ReadAnswer :=
  answers.getD index (.error (.callFailed call.function "no answer"))

/-- All answers to reads, none of which ends the others. -/
def readTogether (network : Network) (calls : List Call) : Action (List ReadAnswer) := do
  match ← Action.ask (.readAll network calls fun _ _ => false) with
  | .all answers => return answers
  | .stopped _ answer => return [answer]

/-- Numbers that the tool cannot do without; the first one that cannot be read ends the others. -/
def readUints (network : Network) (calls : List Call) : Action (List Uint256) := do
  let decisive (call : Call) (answer : ReadAnswer) : Bool := !(uintOf call answer).isOk
  match ← Action.ask (.readAll network calls decisive) with
  | .all answers =>
    (calls.zip answers).mapM fun (call, answer) => Action.ofChain (uintOf call answer)
  | .stopped call answer => return [← Action.ofChain (uintOf call answer)]

end StakingGateway.Operation
