import StakingGateway.Node.Client

/-!
# Sessions held with nodes

What a session comes to in a world, and the questions that the nodes are asked meanwhile, one step
after the other.
-/

namespace StakingGateway.Node

/-- The result of a session that is held in a world, and the questions of it. -/
def Nodes.hear {σ α : Type} (nodes : Nodes σ) (session : Session α) (world : World σ) :
    α × List Asked :=
  (Dialogue.hold nodes.respond session world).1

def behind {α : Type} (asked : Asked) (heard : α × List Asked) : α × List Asked :=
  (heard.1, asked :: heard.2)

variable {σ α : Type} {nodes : Nodes σ} {world : World σ}

theorem hold_eq_hear (session : Session α) (state : σ) :
    (nodes.hold session state).1 = nodes.hear session { nodes := state } := rfl

theorem hear_ask (client : Client) (question : Question) (next : Reply → Session α) :
    nodes.hear (.ask (.ask client question) next) world =
      behind ⟨client, question⟩
        (nodes.hear (next (nodes client question world.nodes).1)
          { world with nodes := (nodes client question world.nodes).2 }) := rfl

/-- A question is answered, and the session goes on, or it is not, and that ends the session. -/
theorem hear_ask_cases (client : Client) (question : Question) (failure : Error → Chain.Error)
    (next : question.Result → Session (Except Chain.Error α)) :
    (∃ result later, question.resultOf (nodes client question world.nodes).1 = .ok result ∧
      nodes.hear (ask client question failure next) world =
        behind ⟨client, question⟩ (nodes.hear (next result) later)) ∨
    ∃ e, question.resultOf (nodes client question world.nodes).1 = .error e ∧
      nodes.hear (ask client question failure next) world =
        (.error (failure e), [⟨client, question⟩]) := by
  rw [ask, hear_ask]
  cases question.resultOf (nodes client question world.nodes).1 with
  | ok result => exact .inl ⟨result, _, rfl, rfl⟩
  | error e => exact .inr ⟨e, rfl, rfl⟩

theorem hear_wait_bind (ticket : Ticket) (f : Unit → Session α) :
    nodes.hear (wait ticket >>= f) world =
      nodes.hear (f ()) { world with now := max world.now ticket.time } := rfl

theorem hear_timer_bind (delay : Nat) (f : Ticket → Session α) :
    nodes.hear (timer delay >>= f) world =
      nodes.hear (f ⟨world.now + delay, world.issued⟩)
        { world with issued := world.issued + 1 } := rfl

end StakingGateway.Node
