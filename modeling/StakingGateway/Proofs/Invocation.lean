import Mathlib.Data.List.Nodup
import StakingGateway.Chain.Run
import StakingGateway.Operation.Catalogue
import StakingGateway.Proofs.Course
import StakingGateway.Proofs.RegistryOrder
import StakingGateway.Proofs.Validation
import StakingGateway.Tool.Envelope

/-!
# Tool calls over a chain

A chain with a state can answer every question in any way that depends on what happened before. A
tool call over such a chain takes one of the courses of the tool, and the answers in its
interactions are answers of the chain.
-/

namespace StakingGateway

namespace Chain

variable {α σ : Type} (chain : Chain (StateM σ)) (schedule : Schedule)

def NamesReceipt (network : Network) (hash : TxHash) : Prop :=
  ∀ s receipt, (chain.receipt network hash s).1 = .ok receipt → receipt.hash = hash

def Gives : Event → Prop
  | .reader identifier answer => answer = chain.openReader identifier
  | .account key identifier answer => answer = chain.openAccount key identifier
  | .read network call answer => ∃ s, (chain.read network call s).1 = answer
  | .simulate network sender call answer => ∃ s, (chain.simulate network sender call s).1 = answer
  | .write account call answer => ∃ s, (chain.write account call s).1 = answer
  | .receipt network hash answer => ∃ s, (chain.receipt network hash s).1 = answer

theorem events_readInOrder_cons {network : Network} {calls : List Contract.Call}
    {decisive : Contract.Call → ReadAnswer → Bool} {i : Nat} {order : List Nat}
    {answers : List (Nat × ReadAnswer)} {s : σ} {call : Contract.Call}
    (hcall : calls[i]? = some call) :
    (chain.readInOrder network calls decisive (i :: order) answers s).1.2 =
      .read network call (chain.read network call s).1 ::
        if decisive call (chain.read network call s).1 then []
        else (chain.readInOrder network calls decisive order
          ((i, (chain.read network call s).1) :: answers) (chain.read network call s).2).1.2 := by
  rw [readInOrder]
  simp only [hcall, bind, StateT.bind]
  obtain ⟨answer, s'⟩ := chain.read network call s
  cases hdecisive : decisive call answer <;> simp only [hdecisive] <;> rfl

theorem events_readInOrder (network : Network) (calls : List Contract.Call)
    (decisive : Contract.Call → ReadAnswer → Bool) (order : List Nat)
    (answers : List (Nat × ReadAnswer)) (s : σ) :
    ∀ event ∈ (chain.readInOrder network calls decisive order answers s).1.2,
      (∃ call ∈ calls, ∃ answer, event = .read network call answer) ∧ chain.Gives event := by
  induction order generalizing answers s with
  | nil =>
      intro event hevent
      cases hevent
  | cons i order ih =>
      intro event hevent
      cases hcall : calls[i]? with
      | none =>
          rw [readInOrder] at hevent
          simp only [hcall] at hevent
          exact ih answers s event hevent
      | some call =>
          rw [events_readInOrder_cons chain hcall] at hevent
          rcases List.mem_cons.mp hevent with rfl | hrest
          · exact ⟨⟨call, List.mem_of_getElem? hcall, _, rfl⟩, s, rfl⟩
          · split at hrest
            · cases hrest
            · exact ih _ _ event hrest

theorem recorded_respond (question : Question) (s : σ) :
    Recorded question (chain.respond schedule question s).1.1
      (chain.respond schedule question s).1.2 := by
  cases question with
  | readAll network calls decisive =>
      intro event hevent
      exact (chain.events_readInOrder network calls decisive (schedule calls.length) [] s
        event hevent).1
  | reader identifier =>
      have hrespond : chain.respond schedule (.reader identifier) s =
          ((chain.openReader identifier, [.reader identifier (chain.openReader identifier)]), s) :=
        rfl
      rw [hrespond]
      generalize chain.openReader identifier = answer
      rfl
  | account key identifier =>
      have hrespond : chain.respond schedule (.account key identifier) s =
          ((chain.openAccount key identifier,
            [.account key identifier (chain.openAccount key identifier)]), s) := rfl
      rw [hrespond]
      generalize chain.openAccount key identifier = answer
      rfl
  | read _ _ | simulate _ _ _ | write _ _ | receipt _ _ => rfl

theorem gives_respond (question : Question) (s : σ) :
    ∀ event ∈ (chain.respond schedule question s).1.2, chain.Gives event := by
  cases question with
  | readAll network calls decisive =>
      intro event hevent
      exact (chain.events_readInOrder network calls decisive (schedule calls.length) [] s
        event hevent).2
  | reader _ | account _ _ =>
      intro event hevent
      rcases List.mem_singleton.mp hevent with rfl
      rfl
  | read _ _ | simulate _ _ _ | write _ _ | receipt _ _ =>
      intro event hevent
      rcases List.mem_singleton.mp hevent with rfl
      exact ⟨s, rfl⟩

theorem course_run (program : Program α) (s : σ) :
    program.Course Recorded (chain.run schedule program s).1.1
      (chain.run schedule program s).1.2 :=
  Dialogue.course_hold (chain.recorded_respond schedule) program s

theorem gives_of_mem_run (program : Program α) (s : σ) :
    ∀ event ∈ (chain.run schedule program s).1.2, chain.Gives event :=
  Dialogue.forall_of_course (Dialogue.course_hold (chain.gives_respond schedule) program s)

end Chain

namespace Tool

open Chain

/-- What a caller sees of the result of an action. -/
def Envelope.ofResult (operation : String) : Except Fault Json → Except String Envelope
  | .ok data => .ok (.ok data)
  | .error (.refused cause) => .ok (.failure cause operation)
  | .error (.crashed reason) => .error reason

theorem Envelope.eq_ok_of_ofResult {label : String} {result : Except Fault Json} {data : Json}
    (h : Envelope.ofResult label result = .ok (.ok data)) : result = .ok data := by
  rcases result with (cause | reason) | other
  · have hsuccess := congrArg success (Except.ok.inj h)
    cases hsuccess
  · cases h
  · have hdata := congrArg Envelope.data (Except.ok.inj h)
    rw [Option.some.inj hdata]

namespace Registry

theorem mem_of_mem_registerAll {registry : Registry} {tools : List Tool} {tool : Tool}
    (h : tool ∈ (registry.registerAll tools).1.tools) : tool ∈ registry.tools ∨ tool ∈ tools := by
  induction tools generalizing registry with
  | nil => exact Or.inl h
  | cons head rest ih =>
      rcases registry.register_cases head with ⟨htaken, -⟩ | ⟨-, larger, hregister, hextends⟩
      · rw [registerAll_cons_of_contains htaken] at h
        exact Or.inl h
      · rw [registerAll_cons_of_ok hregister] at h
        rcases ih h with hplaced | hrest
        · rcases List.mem_cons.mp (hextends.perm.mem_iff.mp hplaced) with rfl | hold
          · exact Or.inr List.mem_cons_self
          · exact Or.inl hold
        · exact Or.inr (List.mem_cons_of_mem _ hrest)

variable {registry : Registry} {context : Context} {name : String} {args : Json}
  {events : List Event}

theorem course_invoke_unregistered {result : Except Fault Json} (hget : registry.get? name = none)
    (h : (registry.invoke context name args).Course result events) :
    result = .error (.refused (.unknown name)) ∧ events = [] := by
  unfold invoke at h
  rw [hget] at h
  exact Action.course_throw.mp h

/-- A registered tool runs on the arguments that its parameters accept. -/
theorem course_invoke_registered {tool : Tool} {result : Except Fault Json}
    (hget : registry.get? name = some tool)
    (h : (registry.invoke context name args).Course result events) :
    (∃ issues, validate tool.params args = .error issues ∧
        result = .error (.refused (.validation issues)) ∧ events = []) ∨
      ∃ accepted, validate tool.params args = .ok accepted ∧
        (tool.run context accepted).Course result events := by
  unfold invoke at h
  simp only [hget] at h
  cases hvalid : validate tool.params args with
  | error issues =>
      rw [hvalid] at h
      exact Or.inl ⟨issues, rfl, Action.course_throw.mp h⟩
  | ok accepted =>
      rw [hvalid] at h
      exact Or.inr ⟨accepted, rfl, h⟩

theorem course_invoke {result : Except Fault Json}
    (h : (registry.invoke context name args).Course result events) :
    (events = [] ∧ ∃ cause, result = .error (.refused cause)) ∨
      ∃ tool accepted, registry.get? name = some tool ∧ validate tool.params args = .ok accepted ∧
        (tool.run context accepted).Course result events := by
  cases hget : registry.get? name with
  | none =>
      obtain ⟨hresult, hevents⟩ := course_invoke_unregistered hget h
      exact Or.inl ⟨hevents, _, hresult⟩
  | some tool =>
      rcases course_invoke_registered hget h with
        ⟨issues, -, hresult, hevents⟩ | ⟨accepted, hvalid, hcourse⟩
      · exact Or.inl ⟨hevents, _, hresult⟩
      · exact Or.inr ⟨tool, accepted, rfl, hvalid, hcourse⟩

theorem course_call {reply : (question : Question) → question.Answer → List Event → Prop}
    {outcome : Except String Envelope}
    (h : (registry.call context name args).Course reply outcome events) :
    ∃ result, Dialogue.Course reply (registry.invoke context name args).run result events ∧
      outcome = Envelope.ofResult (registry.operationOf name) result := by
  obtain ⟨result, before, after, hinvoke, hresult, rfl⟩ := Dialogue.course_bind.mp h
  refine ⟨result, ?_, ?_⟩ <;>
    rcases result with (cause | reason) | data <;> obtain ⟨rfl, rfl⟩ := hresult
  all_goals first | rfl | rwa [List.append_nil]

end Registry

end Tool

namespace Operation

open Tool Chain

theorem catalogue_names : (catalogue.map (·.name)).Nodup := by decide +kernel

theorem eq_of_name_eq {tool other : Tool} (htool : tool ∈ catalogue) (hother : other ∈ catalogue)
    (h : tool.name = other.name) : tool = other :=
  List.inj_on_of_nodup_map catalogue_names htool hother h

theorem mem_catalogue {tool : Tool} (h : tool ∈ registry.tools) : tool ∈ catalogue := by
  rcases Registry.mem_of_mem_registerAll h with hempty | hmem
  · cases hempty
  · exact hmem

theorem mem_catalogue_of_get? {name : String} {tool : Tool} (h : registry.get? name = some tool) :
    tool ∈ catalogue ∧ tool.name = name :=
  ⟨mem_catalogue (List.mem_of_find?_eq_some h), by simpa using List.find?_some h⟩

variable {σ : Type} (chain : Chain (StateM σ)) (schedule : Schedule) (state : σ)
  (context : Context) (name : String) (args : Json)

/-- What a caller sees of a tool call over a chain, and the interactions of the call in order. -/
def callOver : Except String Envelope × List Event :=
  (chain.run schedule (registry.call context name args) state).1

/-- A tool call is refused before anything happens, or takes a course of the tool of that name. -/
theorem course_callOver :
    ((callOver chain schedule state context name args).2 = [] ∧
        ∃ cause label,
          (callOver chain schedule state context name args).1 = .ok (.failure cause label)) ∨
      ∃ tool ∈ catalogue, tool.name = name ∧ ∃ accepted result,
        validate tool.params args = .ok accepted ∧
        (tool.run context accepted).Course result
          (callOver chain schedule state context name args).2 ∧
        (callOver chain schedule state context name args).1 =
          Envelope.ofResult tool.operation result := by
  obtain ⟨result, hinvoke, houtcome⟩ :=
    Registry.course_call (chain.course_run schedule (registry.call context name args) state)
  rcases Registry.course_invoke hinvoke with
    ⟨hevents, cause, rfl⟩ | ⟨tool, accepted, hget, hvalid, hcourse⟩
  · exact Or.inl ⟨hevents, cause, _, houtcome⟩
  · obtain ⟨hmem, hname⟩ := mem_catalogue_of_get? hget
    refine Or.inr ⟨tool, hmem, hname, accepted, result, hvalid, hcourse, ?_⟩
    rw [callOver, houtcome, Registry.operationOf, hget]

variable {chain schedule state context name args} in
/-- Only a success has data. -/
theorem callOver_eq_ok_of_data {data : Json}
    (h : (callOver chain schedule state context name args).1.toOption.bind (·.data) = some data) :
    (callOver chain schedule state context name args).1 = .ok (.ok data) := by
  obtain ⟨result, -, houtcome⟩ :=
    Registry.course_call (chain.course_run schedule (registry.call context name args) state)
  change (callOver chain schedule state context name args).1 = _ at houtcome
  rw [houtcome] at h ⊢
  rcases result with (cause | reason) | other
  · cases h
  · cases h
  · obtain rfl : other = data := Option.some.inj h
    rfl

theorem gives_of_mem_callOver :
    ∀ event ∈ (callOver chain schedule state context name args).2, chain.Gives event :=
  chain.gives_of_mem_run schedule _ state

end Operation

end StakingGateway
