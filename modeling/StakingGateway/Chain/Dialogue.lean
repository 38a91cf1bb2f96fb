/-!
Dialogues: computations that ask questions and go on with the answers. What answers, and what
becomes of the world meanwhile, is fixed only when a dialogue is held.
-/

namespace StakingGateway

/-- A dialogue with questions `Q`, whose answers have the type that `A` gives. -/
inductive Dialogue (Q : Type) (A : Q → Type) (α : Type) where
  | done (value : α)
  | ask (question : Q) (next : A question → Dialogue Q A α)

namespace Dialogue

variable {Q : Type} {A : Q → Type} {α β : Type}

def bind : Dialogue Q A α → (α → Dialogue Q A β) → Dialogue Q A β
  | done value, f => f value
  | ask question next, f => ask question fun answer => (next answer).bind f

instance : Monad (Dialogue Q A) where
  pure := done
  bind := bind

def query (question : Q) : Dialogue Q A (A question) :=
  ask question done

@[simp]
theorem done_bind (value : α) (f : α → Dialogue Q A β) : (done value).bind f = f value := rfl

@[simp]
theorem ask_bind (question : Q) (next : A question → Dialogue Q A α) (f : α → Dialogue Q A β) :
    (ask question next).bind f = ask question fun answer => (next answer).bind f := rfl

theorem bind_done (d : Dialogue Q A α) : d.bind done = d := by
  induction d with
  | done value => rfl
  | ask question next ih => simp [ih]

theorem bind_assoc {γ : Type} (d : Dialogue Q A α) (f : α → Dialogue Q A β)
    (g : β → Dialogue Q A γ) : (d.bind f).bind g = d.bind fun value => (f value).bind g := by
  induction d with
  | done value => rfl
  | ask question next ih => simp [ih]

instance : LawfulMonad (Dialogue Q A) :=
  LawfulMonad.mk' _ bind_done (fun _ _ => rfl) bind_assoc

/-- Holds a dialogue: its questions are answered in turn, and what is noted down with the answers
is kept in order. -/
def hold {m : Type → Type} [Monad m] {ε : Type}
    (respond : (question : Q) → m (A question × List ε)) :
    Dialogue Q A α → m (α × List ε)
  | done value => return (value, [])
  | ask question next => do
    let (answer, events) ← respond question
    let (value, others) ← (next answer).hold respond
    return (value, events ++ others)

theorem hold_bind {m : Type → Type} [Monad m] [LawfulMonad m] {ε : Type}
    (respond : (question : Q) → m (A question × List ε))
    (d : Dialogue Q A α) (f : α → Dialogue Q A β) :
    (d.bind f).hold respond = do
      let (value, events) ← d.hold respond
      let (result, others) ← (f value).hold respond
      return (result, events ++ others) := by
  induction d with
  | done value => simp [hold]
  | ask question next ih => simp [hold, ih, List.append_assoc]

/-- Goes on while the left dialogue stands at a question; `onward` is what becomes of both once
that question is answered. -/
def besideAsk (goesFirst : Q → Q → Bool) (question : Q) (next : A question → Dialogue Q A α)
    (onward : A question → Dialogue Q A β → Dialogue Q A (α × β)) :
    Dialogue Q A β → Dialogue Q A (α × β)
  | done right => (ask question next).bind fun left => done (left, right)
  | ask other more =>
    if goesFirst question other then
      ask question fun answer => onward answer (ask other more)
    else
      ask other fun answer => besideAsk goesFirst question next onward (more answer)

/-- Two dialogues beside each other. Where both have a question, `goesFirst` says whether that of
the left one is asked before that of the right one. -/
def beside (goesFirst : Q → Q → Bool) :
    Dialogue Q A α → Dialogue Q A β → Dialogue Q A (α × β)
  | done left, other => other.bind fun right => done (left, right)
  | ask question next, other =>
    besideAsk goesFirst question next (fun answer right => beside goesFirst (next answer) right)
      other

def together (goesFirst : Q → Q → Bool) : List (Dialogue Q A α) → Dialogue Q A (List α)
  | [] => done []
  | first :: rest =>
    (beside goesFirst first (together goesFirst rest)).bind fun (value, others) =>
      done (value :: others)

end Dialogue

end StakingGateway
