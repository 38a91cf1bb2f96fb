import StakingGateway.Proofs.ReportedErrors

/-!
# Tools that cannot crash

An action is crash-free if it ends with a value or a reported error whatever is answered. All tools
of the catalogue are, and a call of a crash-free tool ends in an envelope.
-/

namespace StakingGateway.Tool

open Chain Contract

def CrashFree {α : Type} (x : Action α) : Prop :=
  ∀ result events, x.Course result events → ∀ reason, result ≠ .error (.crashed reason)

theorem crashFree_of_orderly {α : Type} {x : Action α} (hx : Orderly x) : CrashFree x := by
  rintro result events h reason rfl
  obtain ⟨cause, hfault, -⟩ := hx _ _ h
  cases hfault

namespace Registry

def CrashFree (registry : Registry) : Prop :=
  ∀ tool ∈ registry.tools, ∀ context args, Tool.CrashFree (tool.run context args)

variable {registry : Registry} {context : Context} {name : String} {args : Json}
  {events : List Event}

theorem CrashFree.invoke (h : registry.CrashFree) :
    Tool.CrashFree (registry.invoke context name args) := by
  intro result events hcourse reason
  rcases course_invoke hcourse with
    ⟨-, cause, rfl⟩ | ⟨tool, accepted, hget, -, hrun⟩
  · exact fun hcrash => nomatch hcrash
  · exact h tool (List.mem_of_find?_eq_some hget) context accepted _ _ hrun reason

/-- Every course of a call ends in an envelope: data, or an error under the label of the call. -/
theorem CrashFree.envelope (h : registry.CrashFree) {outcome : Except String Envelope}
    (hcourse : (registry.call context name args).Course Recorded outcome events) :
    (∃ data, outcome = .ok (.ok data)) ∨
      ∃ cause, outcome = .ok (.failure cause (registry.operationOf name)) := by
  obtain ⟨result, hinvoke, rfl⟩ := course_call hcourse
  rcases result with (cause | reason) | data
  · exact Or.inr ⟨cause, rfl⟩
  · exact absurd rfl (h.invoke _ _ hinvoke reason)
  · exact Or.inl ⟨data, rfl⟩

end Registry

end StakingGateway.Tool

namespace StakingGateway.Operation

open Tool Chain

theorem crashFree_registry : registry.CrashFree := by
  intro tool htool context args
  exact crashFree_of_orderly (orderly_of_mem context args (mem_catalogue htool))

/-- A call ends in an envelope whatever its arguments are and whatever the chain answers, and every
step of the calculations in it has a result. -/
theorem calls_never_crash {σ : Type} (chain : Chain (StateM σ)) (schedule : Schedule) (state : σ)
    (context : Context) (name : String) (args : Json) :
    ((∃ data, (callOver chain schedule state context name args).1 = .ok (.ok data)) ∨
        ∃ cause, (callOver chain schedule state context name args).1 =
          .ok (.failure cause (registry.operationOf name))) ∧
      Amount.Calculable :=
  ⟨crashFree_registry.envelope
    (chain.course_run schedule (registry.call context name args) state), Amount.calculable⟩

end StakingGateway.Operation
