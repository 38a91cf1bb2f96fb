import Mathlib.Data.List.Forall2
import StakingGateway.Chain.Run
import StakingGateway.Proofs.Course

/-!
# Dialogues beside each other

`together` mixes the questions of many dialogues in an order that `goesFirst` picks. Whatever that
order and the answers are, each dialogue gets a result that it can have on its own, and the results
stand in the order of the dialogues. A program over a chain that holds dialogues itself keeps to the
courses of the program.
-/

namespace StakingGateway

namespace Dialogue

variable {Q : Type} {A : Q → Type} {α β ε : Type}

/-- The dialogue can end with this result, whatever may answer its questions. -/
inductive Ends : Dialogue Q A α → α → Prop
  | done (value : α) : Ends (.done value) value
  | ask {question : Q} {next : A question → Dialogue Q A α} {result : α} (answer : A question)
      (h : Ends (next answer) result) : Ends (.ask question next) result

theorem ends_done {value result : α} :
    (done value : Dialogue Q A α).Ends result ↔ result = value := by
  constructor
  · rintro ⟨⟩
    rfl
  · rintro rfl
    exact .done result

theorem ends_ask {question : Q} {next : A question → Dialogue Q A α} {result : α} :
    (ask question next).Ends result ↔ ∃ answer, (next answer).Ends result := by
  constructor
  · rintro (_ | ⟨answer, h⟩)
    exact ⟨answer, h⟩
  · rintro ⟨answer, h⟩
    exact .ask answer h

theorem ends_bind {d : Dialogue Q A α} {f : α → Dialogue Q A β} {result : β} :
    (d.bind f).Ends result ↔ ∃ value, d.Ends value ∧ (f value).Ends result := by
  induction d with
  | done value => simp [ends_done]
  | ask question next ih =>
      simp only [ask_bind, ends_ask, ih]
      constructor
      · rintro ⟨answer, value, hvalue, hresult⟩
        exact ⟨value, ⟨answer, hvalue⟩, hresult⟩
      · rintro ⟨value, ⟨answer, hvalue⟩, hresult⟩
        exact ⟨answer, value, hvalue, hresult⟩

theorem ends_bind_pure {d : Dialogue Q A α} {f : α → β} {result : β} :
    (d.bind fun value => done (f value)).Ends result ↔
      ∃ value, d.Ends value ∧ result = f value := by
  simp only [ends_bind, ends_done]

/-- However a dialogue is held over a state, it ends with a result that it can have. -/
theorem ends_hold {σ : Type} (respond : (question : Q) → StateM σ (A question × List ε))
    (d : Dialogue Q A α) (s : σ) : d.Ends (d.hold respond s).1.1 := by
  induction d generalizing s with
  | done value => exact .done value
  | ask question next ih =>
      exact .ask (respond question s).1.1
        (ih (respond question s).1.1 (respond question s).2)

theorem ends_besideAsk {goesFirst : Q → Q → Bool} {question : Q}
    {next : A question → Dialogue Q A α}
    {onward : A question → Dialogue Q A β → Dialogue Q A (α × β)}
    (honward : ∀ answer right result, (onward answer right).Ends result →
      (next answer).Ends result.1 ∧ right.Ends result.2)
    (right : Dialogue Q A β) {result : α × β}
    (h : (besideAsk goesFirst question next onward right).Ends result) :
    (ask question next).Ends result.1 ∧ right.Ends result.2 := by
  induction right with
  | done value =>
      obtain ⟨left, hleft, rfl⟩ := ends_bind_pure.mp h
      exact ⟨hleft, .done value⟩
  | ask other more ih =>
      rw [besideAsk] at h
      by_cases hfirst : goesFirst question other = true
      · rw [if_pos hfirst] at h
        obtain ⟨answer, hanswer⟩ := ends_ask.mp h
        obtain ⟨hleft, hright⟩ := honward answer _ result hanswer
        exact ⟨.ask answer hleft, hright⟩
      · rw [if_neg hfirst] at h
        obtain ⟨answer, hanswer⟩ := ends_ask.mp h
        obtain ⟨hleft, hright⟩ := ih answer hanswer
        exact ⟨hleft, .ask answer hright⟩

theorem ends_beside {goesFirst : Q → Q → Bool} (left : Dialogue Q A α) (right : Dialogue Q A β)
    {result : α × β} (h : (beside goesFirst left right).Ends result) :
    left.Ends result.1 ∧ right.Ends result.2 := by
  induction left generalizing right result with
  | done value =>
      obtain ⟨other, hother, rfl⟩ := ends_bind_pure.mp h
      exact ⟨.done value, hother⟩
  | ask question next ih =>
      exact ends_besideAsk (fun answer right _ hresult => ih answer right hresult) right h

theorem ends_together {goesFirst : Q → Q → Bool} (ds : List (Dialogue Q A α)) {results : List α}
    (h : (together goesFirst ds).Ends results) : List.Forall₂ Ends ds results := by
  induction ds generalizing results with
  | nil =>
      obtain rfl := ends_done.mp h
      exact .nil
  | cons d rest ih =>
      obtain ⟨⟨value, others⟩, hbeside, rfl⟩ := ends_bind_pure.mp h
      obtain ⟨hvalue, hothers⟩ := ends_beside d _ hbeside
      exact .cons hvalue (ih hothers)

/-- Held by dialogues, a dialogue takes one of its courses. -/
theorem course_of_ends_hold {P : Type} {B : P → Type}
    {reply : (question : P) → B question → List ε → Prop}
    {respond : (question : P) → Dialogue Q A (B question × List ε)}
    (hrespond : ∀ question given, (respond question).Ends given →
      reply question given.1 given.2)
    (d : Dialogue P B α) {result : α} {notes : List ε}
    (h : (d.hold respond).Ends (result, notes)) : d.Course reply result notes := by
  induction d generalizing notes with
  | done value =>
      obtain ⟨rfl, rfl⟩ := Prod.mk.inj (ends_done.mp h)
      exact ⟨rfl, rfl⟩
  | ask question next ih =>
      obtain ⟨⟨answer, first⟩, hanswer, hnext⟩ := ends_bind.mp h
      obtain ⟨⟨value, rest⟩, hrest, hresult⟩ := ends_bind_pure.mp hnext
      obtain ⟨rfl, rfl⟩ := Prod.mk.inj hresult
      exact ⟨answer, first, rest, hrespond question _ hanswer, ih answer hrest, rfl⟩

end Dialogue

namespace Chain

variable {Q : Type} {A : Q → Type} {α : Type} (chain : Chain (Dialogue Q A))

theorem recorded_of_ends_readInOrder {network : Network} {calls : List Contract.Call}
    {decisive : Contract.Call → ReadAnswer → Bool} {order : List Nat}
    {answers : List (Nat × ReadAnswer)} {given : Gathered × List Event}
    (h : (chain.readInOrder network calls decisive order answers).Ends given) :
    ∀ event ∈ given.2, ∃ call ∈ calls, ∃ answer, event = .read network call answer := by
  induction order generalizing answers given with
  | nil =>
      obtain rfl := Dialogue.ends_done.mp h
      simp
  | cons i order ih =>
      rw [readInOrder] at h
      cases hcall : calls[i]? with
      | none =>
          simp only [hcall] at h
          exact ih h
      | some call =>
          simp only [hcall] at h
          have hmem := List.mem_of_getElem? hcall
          obtain ⟨answer, -, hrest⟩ := Dialogue.ends_bind.mp h
          by_cases hdecisive : decisive call answer = true
          · rw [if_pos hdecisive] at hrest
            obtain rfl := Dialogue.ends_done.mp hrest
            intro event hevent
            exact ⟨call, hmem, answer, List.mem_singleton.mp hevent⟩
          · rw [if_neg hdecisive] at hrest
            obtain ⟨⟨gathered, events⟩, hgathered, rfl⟩ := Dialogue.ends_bind_pure.mp hrest
            exact List.forall_mem_cons.mpr ⟨⟨call, hmem, answer, rfl⟩, ih hgathered⟩

theorem recorded_of_ends_respond {schedule : Schedule} {question : Question}
    {given : question.Answer × List Event}
    (h : (chain.respond schedule question).Ends given) :
    Recorded question given.1 given.2 := by
  cases question with
  | reader identifier =>
      obtain ⟨answer, hgiven⟩ : ∃ answer, given = (answer, [.reader identifier answer]) :=
        ⟨_, Dialogue.ends_done.mp h⟩
      rw [hgiven]
      rfl
  | account key identifier =>
      obtain ⟨answer, hgiven⟩ : ∃ answer, given = (answer, [.account key identifier answer]) :=
        ⟨_, Dialogue.ends_done.mp h⟩
      rw [hgiven]
      rfl
  | readAll network calls decisive => exact chain.recorded_of_ends_readInOrder h
  | read network call =>
      obtain ⟨answer, -, rfl⟩ := Dialogue.ends_bind_pure.mp h
      rfl
  | simulate network sender call =>
      obtain ⟨answer, -, rfl⟩ := Dialogue.ends_bind_pure.mp h
      rfl
  | write account call =>
      obtain ⟨answer, -, rfl⟩ := Dialogue.ends_bind_pure.mp h
      rfl
  | receipt network hash =>
      obtain ⟨answer, -, rfl⟩ := Dialogue.ends_bind_pure.mp h
      rfl

/-- Programs that run beside each other take courses of their own. -/
theorem courses_runTogether {goesFirst : Q → Q → Bool} {schedule : Schedule}
    {programs : List (Program α)} {outcomes : List (α × List Event)}
    (h : (chain.runTogether goesFirst schedule programs).Ends outcomes) :
    List.Forall₂ (fun program outcome => program.Course Recorded outcome.1 outcome.2)
      programs outcomes := by
  have hends := Dialogue.ends_together _ h
  rw [List.forall₂_map_left_iff] at hends
  refine hends.imp fun program outcome houtcome => ?_
  exact Dialogue.course_of_ends_hold
    (fun _ _ hgiven => chain.recorded_of_ends_respond hgiven) program houtcome

end Chain

end StakingGateway
