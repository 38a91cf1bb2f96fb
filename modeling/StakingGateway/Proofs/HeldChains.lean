import StakingGateway.Chain.Run
import StakingGateway.Proofs.HeldSessions

/-!
# Chains behind nodes as chains with a state

A chain whose answers are sessions has the world as its state once the nodes are given: each session
is held before the next one begins. A program that is run over the chain and then held comes to what
it comes to over the chain with the state.
-/

namespace StakingGateway

open Node Contract

variable {σ α β : Type}

/-- What a session comes to, without the questions to the nodes. -/
def Node.Nodes.outcome (nodes : Nodes σ) (session : Session α) : StateM (World σ) α :=
  fun world => ((Dialogue.hold nodes.respond session world).1.1,
    (Dialogue.hold nodes.respond session world).2)

/-- The chain whose sessions are held with the nodes at once. -/
def Chain.heldBy (chain : Chain Session) (nodes : Nodes σ) : Chain (StateM (World σ)) where
  reach := chain.reach
  read network call := nodes.outcome (chain.read network call)
  simulate network sender call := nodes.outcome (chain.simulate network sender call)
  write account call := nodes.outcome (chain.write account call)
  receipt network hash := nodes.outcome (chain.receipt network hash)

namespace Chain

variable (nodes : Nodes σ) (chain : Chain Session)

theorem outcome_bind (session : Session α) (f : α → Session β) :
    nodes.outcome (session >>= f) =
      nodes.outcome session >>= fun value => nodes.outcome (f value) := by
  funext world
  exact congrArg (fun held => (held.1.1, held.2))
    (congrFun (Dialogue.hold_bind nodes.respond session f) world)

theorem outcome_readInOrder (network : Network) (calls : List Call)
    (decisive : Call → ReadAnswer → Bool) (order : List Nat) (answers : List (Nat × ReadAnswer)) :
    nodes.outcome (chain.readInOrder network calls decisive order answers) =
      (chain.heldBy nodes).readInOrder network calls decisive order answers := by
  induction order generalizing answers with
  | nil => rfl
  | cons i order ih =>
      rw [readInOrder, readInOrder]
      cases calls[i]? with
      | none => exact ih answers
      | some call =>
          refine (outcome_bind nodes _ _).trans (congrArg _ (funext fun answer => ?_))
          simp only
          split
          · rfl
          · refine (outcome_bind nodes _ _).trans ?_
            rw [ih]
            rfl

theorem openReader_heldBy (identifier : String) :
    (chain.heldBy nodes).openReader identifier = chain.openReader identifier := by
  simp only [openReader, heldBy]

theorem openAccount_heldBy (key identifier : String) :
    (chain.heldBy nodes).openAccount key identifier = chain.openAccount key identifier := by
  simp only [openAccount, openReader_heldBy]

theorem outcome_respond (schedule : Schedule) (question : Question) :
    nodes.outcome (chain.respond schedule question) =
      (chain.heldBy nodes).respond schedule question := by
  cases question with
  | reader identifier =>
      have hanswer := chain.openReader_heldBy nodes identifier
      simp only [respond, hanswer]
      rfl
  | account key identifier =>
      have hanswer := chain.openAccount_heldBy nodes key identifier
      simp only [respond, hanswer]
      rfl
  | read network call =>
      exact outcome_bind nodes (chain.read network call) fun answer =>
        pure (answer, [Event.read network call answer])
  | readAll network calls decisive =>
      exact chain.outcome_readInOrder nodes network calls decisive (schedule calls.length) []
  | simulate network sender call =>
      exact outcome_bind nodes (chain.simulate network sender call) fun answer =>
        pure (answer, [Event.simulate network sender call answer])
  | write account call =>
      exact outcome_bind nodes (chain.write account call) fun answer =>
        pure (answer, [Event.write account call answer])
  | receipt network hash =>
      exact outcome_bind nodes (chain.receipt network hash) fun answer =>
        pure (answer, [Event.receipt network hash answer])

theorem outcome_run (schedule : Schedule) (program : Program α) :
    nodes.outcome (chain.run schedule program) = (chain.heldBy nodes).run schedule program := by
  induction program with
  | done value => rfl
  | ask question next ih =>
      refine (outcome_bind nodes _ _).trans ?_
      rw [outcome_respond]
      refine congrArg _ (funext fun answered => ?_)
      refine (outcome_bind nodes _ _).trans ?_
      exact congrArg (· >>= fun held => pure (held.1, answered.2 ++ held.2)) (ih answered.1)

theorem hold_run (schedule : Schedule) (program : Program α) (state : σ) :
    (nodes.hold (chain.run schedule program) state).1.1 =
      ((chain.heldBy nodes).run schedule program { nodes := state }).1 :=
  congrArg Prod.fst (congrFun (chain.outcome_run nodes schedule program) { nodes := state })

end Chain

end StakingGateway
