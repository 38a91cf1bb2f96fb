import StakingGateway.Tool.Action

/-!
# Courses

A dialogue is fixed up to the answers that it gets. `Dialogue.Course` relates it to every result
that it can have and to the notes that are taken on the way there. For the programs of the gateway
the notes are the interactions with a chain, and any answer is possible: what is proved of all
courses of an action holds over every chain.
-/

namespace StakingGateway

namespace Dialogue

variable {Q : Type} {A : Q → Type} {α β ε σ : Type}

/-- The dialogue can end with this result after these notes, when `reply` says how a question may be
answered and what is noted down with the answer. -/
def Course (reply : (question : Q) → A question → List ε → Prop) :
    Dialogue Q A α → α → List ε → Prop
  | done value, result, notes => result = value ∧ notes = []
  | ask question next, result, notes =>
    ∃ answer first rest, reply question answer first ∧ (next answer).Course reply result rest ∧
      notes = first ++ rest

variable {reply : (question : Q) → A question → List ε → Prop}

theorem course_bind {d : Dialogue Q A α} {f : α → Dialogue Q A β} {result : β} {notes : List ε} :
    (d.bind f).Course reply result notes ↔
      ∃ value before after, d.Course reply value before ∧ (f value).Course reply result after ∧
        notes = before ++ after := by
  induction d generalizing notes with
  | done value =>
      constructor
      · intro h
        exact ⟨value, [], notes, ⟨rfl, rfl⟩, h, rfl⟩
      · rintro ⟨_, _, after, ⟨rfl, rfl⟩, h, rfl⟩
        exact h
  | ask question next ih =>
      simp only [ask_bind, Course, ih]
      constructor
      · rintro ⟨answer, first, rest, hreply, ⟨value, before, after, hd, hf, rfl⟩, rfl⟩
        exact ⟨value, first ++ before, after, ⟨answer, first, before, hreply, hd, rfl⟩, hf,
          (List.append_assoc ..).symm⟩
      · rintro ⟨value, _, after, ⟨answer, first, before, hreply, hd, rfl⟩, hf, rfl⟩
        exact ⟨answer, first, before ++ after, hreply, ⟨value, before, after, hd, hf, rfl⟩,
          List.append_assoc ..⟩

/-- A dialogue that is held over a state takes one of its courses. -/
theorem course_hold {respond : (question : Q) → StateM σ (A question × List ε)}
    (hrespond : ∀ question s, reply question (respond question s).1.1 (respond question s).1.2)
    (d : Dialogue Q A α) (s : σ) :
    d.Course reply (d.hold respond s).1.1 (d.hold respond s).1.2 := by
  induction d generalizing s with
  | done value => exact ⟨rfl, rfl⟩
  | ask question next ih =>
      have hnext := ih (respond question s).1.1 (respond question s).2
      exact ⟨(respond question s).1.1, (respond question s).1.2, _, hrespond question s, hnext, rfl⟩

theorem forall_of_course {P : ε → Prop} {d : Dialogue Q A α} {result : α} {notes : List ε}
    (h : d.Course (fun _ _ notes => ∀ note ∈ notes, P note) result notes) :
    ∀ note ∈ notes, P note := by
  induction d generalizing notes with
  | done value =>
      obtain ⟨-, rfl⟩ := h
      simp
  | ask question next ih =>
      obtain ⟨answer, first, rest, hfirst, hrest, rfl⟩ := h
      exact List.forall_mem_append.mpr ⟨hfirst, ih answer hrest⟩

end Dialogue

namespace Chain

def Recorded : (question : Question) → question.Answer → List Event → Prop
  | .reader identifier, answer, events => events = [.reader identifier answer]
  | .account key identifier, answer, events => events = [.account key identifier answer]
  | .read network call, answer, events => events = [.read network call answer]
  | .readAll network calls _, _, events =>
    ∀ event ∈ events, ∃ call ∈ calls, ∃ answer, event = .read network call answer
  | .simulate network sender call, answer, events =>
    events = [.simulate network sender call answer]
  | .write account call, answer, events => events = [.write account call answer]
  | .receipt network hash, answer, events => events = [.receipt network hash answer]

def Event.isReading : Event → Bool
  | .reader .. | .read .. => true
  | _ => false

/-- An interaction before or between transactions: a client is made or a call is read. -/
def Event.isPreparation : Event → Bool
  | .reader .. | .account .. | .read .. => true
  | _ => false

theorem Event.isPreparation_of_isReading {event : Event} (h : event.isReading = true) :
    event.isPreparation = true := by
  cases event <;> first | rfl | cases h

end Chain

namespace Tool

open Chain Contract

def Fault.ofChain (e : Chain.Error) : Fault := .refused (.chain e)

namespace Action

variable {α β : Type}

/-- The action can end with this result, or this fault, after these interactions. -/
def Course (x : Action α) (result : Except Fault α) (events : List Event) : Prop :=
  Dialogue.Course Recorded x.run result events

variable {events : List Event}

theorem course_pure {value : α} {result : Except Fault α} :
    Course (pure value) result events ↔ result = .ok value ∧ events = [] :=
  Iff.rfl

theorem course_throw {fault : Fault} {result : Except Fault α} :
    Course (throw fault) result events ↔ result = .error fault ∧ events = [] :=
  Iff.rfl

theorem course_ask {question : Question} {result : Except Fault question.Answer} :
    Course (ask question) result events ↔
      ∃ answer, Recorded question answer events ∧ result = .ok answer := by
  constructor
  · rintro ⟨answer, first, _, hreply, ⟨rfl, rfl⟩, rfl⟩
    exact ⟨answer, by rwa [List.append_nil], rfl⟩
  · rintro ⟨answer, hreply, rfl⟩
    exact ⟨answer, events, [], hreply, ⟨rfl, rfl⟩, (List.append_nil events).symm⟩

theorem course_bind {x : Action α} {f : α → Action β} {result : Except Fault β} :
    Course (x >>= f) result events ↔
      (∃ fault, Course x (.error fault) events ∧ result = .error fault) ∨
      ∃ value before after, Course x (.ok value) before ∧ Course (f value) result after ∧
        events = before ++ after := by
  have hbind : Course (x >>= f) result events ↔
      (Dialogue.bind x.run (ExceptT.bindCont f)).Course Recorded result events := Iff.rfl
  rw [hbind, Dialogue.course_bind]
  constructor
  · rintro ⟨fault | value, before, after, hx, hf, rfl⟩
    · obtain ⟨rfl, rfl⟩ := hf
      exact Or.inl ⟨fault, by rwa [List.append_nil], rfl⟩
    · exact Or.inr ⟨value, before, after, hx, hf, rfl⟩
  · rintro (⟨fault, hx, rfl⟩ | ⟨value, before, after, hx, hf, rfl⟩)
    · exact ⟨.error fault, events, [], hx, ⟨rfl, rfl⟩, (List.append_nil events).symm⟩
    · exact ⟨.ok value, before, after, hx, hf, rfl⟩

/-- A handler goes on behind a dialogue where that ends with a fault. -/
theorem run_tryCatch (x : Action α) (handler : Fault → Action α) :
    (tryCatch x handler).run = Dialogue.bind x.run fun
      | .ok value => (pure value : Action α).run
      | .error fault => (handler fault).run := by
  refine congrArg (Dialogue.bind x.run) (funext fun outcome => ?_)
  cases outcome <;> rfl

theorem course_tryCatch {x : Action α} {handler : Fault → Action α} {result : Except Fault α} :
    Course (tryCatch x handler) result events ↔
      (∃ value, Course x (.ok value) events ∧ result = .ok value) ∨
      ∃ fault before after, Course x (.error fault) before ∧
        Course (handler fault) result after ∧ events = before ++ after := by
  rw [Course, run_tryCatch, Dialogue.course_bind]
  constructor
  · rintro ⟨fault | value, before, after, hx, hf, rfl⟩
    · exact Or.inr ⟨fault, before, after, hx, hf, rfl⟩
    · obtain ⟨rfl, rfl⟩ := hf
      exact Or.inl ⟨value, by rwa [List.append_nil], rfl⟩
  · rintro (⟨value, hx, rfl⟩ | ⟨fault, before, after, hx, hf, rfl⟩)
    · exact ⟨.ok value, events, [], hx, ⟨rfl, rfl⟩, (List.append_nil events).symm⟩
    · exact ⟨.error fault, before, after, hx, hf, rfl⟩

theorem course_ofChain {answer : Except Chain.Error α} {result : Except Fault α} :
    Course (ofChain answer) result events ↔
      result = answer.mapError Fault.ofChain ∧ events = [] := by
  cases answer <;> exact Iff.rfl

theorem course_ofArgument {argument : Except ArgumentError α} {result : Except Fault α} :
    Course (ofArgument argument) result events ↔
      result = argument.mapError (fun e => .refused (.argument e)) ∧ events = [] := by
  cases argument <;> exact Iff.rfl

theorem course_ask_bind {question : Question} {f : question.Answer → Action β}
    {result : Except Fault β} :
    Course (ask question >>= f) result events ↔
      ∃ answer before after, Recorded question answer before ∧ Course (f answer) result after ∧
        events = before ++ after := by
  rw [course_bind]
  constructor
  · rintro (⟨fault, hask, -⟩ | ⟨answer, before, after, hask, hf, rfl⟩)
    · obtain ⟨answer, -, hanswer⟩ := course_ask.mp hask
      cases hanswer
    · obtain ⟨answer', hreply, hanswer⟩ := course_ask.mp hask
      cases hanswer
      exact ⟨answer, before, after, hreply, hf, rfl⟩
  · rintro ⟨answer, before, after, hreply, hf, rfl⟩
    exact Or.inr ⟨answer, before, after, course_ask.mpr ⟨answer, hreply, rfl⟩, hf, rfl⟩

theorem course_ask_ofChain (question : Question) (f : question.Answer → Except Chain.Error α)
    {result : Except Fault α} :
    Course (ask question >>= fun answer => ofChain (f answer)) result events ↔
      ∃ answer, Recorded question answer events ∧ result = (f answer).mapError Fault.ofChain := by
  rw [course_ask_bind]
  constructor
  · rintro ⟨answer, before, after, hreply, hf, rfl⟩
    obtain ⟨rfl, rfl⟩ := course_ofChain.mp hf
    exact ⟨answer, by rwa [List.append_nil], rfl⟩
  · rintro ⟨answer, hreply, rfl⟩
    exact ⟨answer, events, [], hreply, course_ofChain.mpr ⟨rfl, rfl⟩, (List.append_nil events).symm⟩

theorem course_reader {identifier : String} {result : Except Fault Network} :
    Course (reader identifier) result events ↔
      ∃ answer, events = [.reader identifier answer] ∧ result = answer.mapError Fault.ofChain :=
  course_ask_ofChain (.reader identifier) id

theorem course_account {key identifier : String} {result : Except Fault Account} :
    Course (account key identifier) result events ↔
      ∃ answer, events = [.account key identifier answer] ∧
        result = answer.mapError Fault.ofChain :=
  course_ask_ofChain (.account key identifier) id

theorem course_read {network : Network} {call : Call} {result : Except Fault (List Abi.Token)} :
    Course (read network call) result events ↔
      ∃ answer, events = [.read network call answer] ∧
        result = answer.mapError Fault.ofChain :=
  course_ask_ofChain (.read network call) id

theorem course_simulate {network : Network} {sender : Address} {call : Call}
    {result : Except Fault Unit} :
    Course (simulate network sender call) result events ↔
      ∃ answer, events = [.simulate network sender call answer] ∧
        result = answer.mapError Fault.ofChain :=
  course_ask_ofChain (.simulate network sender call) id

theorem course_write {account : Account} {call : Call} {result : Except Fault TxHash} :
    Course (write account call) result events ↔
      ∃ answer, events = [.write account call answer] ∧
        result = answer.mapError Fault.ofChain :=
  course_ask_ofChain (.write account call) id

theorem course_receipt {network : Network} {hash : TxHash} {result : Except Fault Receipt} :
    Course (receipt network hash) result events ↔
      ∃ answer, events = [.receipt network hash answer] ∧
        result = answer.mapError Fault.ofChain :=
  course_ask_ofChain (.receipt network hash) id

end Action

end Tool

end StakingGateway
