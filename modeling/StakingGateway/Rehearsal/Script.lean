/-!
Scripts: answers laid down in advance, in a queue for every key. Each use takes the first answer
of the queue, and the last one stays.
-/

namespace StakingGateway.Rehearsal

abbrev Script (α : Type) := List (String × List α)

namespace Script

variable {α : Type}

/-- What is left of a queue after a use. -/
def afterUse : List α → List α
  | [] => []
  | [last] => [last]
  | _ :: rest => rest

/-- The next answer under a key, and the script after its use. -/
def take (key : String) (script : Script α) : Option α × Script α :=
  match script.lookup key with
  | none => (none, script)
  | some queue =>
    (queue.head?,
      script.map fun entry => if entry.1 = key then (key, afterUse queue) else entry)

def set (script : Script α) (key : String) (queue : List α) : Script α :=
  (key, queue) :: script.filter (·.1 ≠ key)

def update (script changes : Script α) : Script α :=
  changes.foldl (fun script entry => script.set entry.1 entry.2) script

end Script

end StakingGateway.Rehearsal
