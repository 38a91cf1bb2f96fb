import Mathlib.Data.List.Range
import StakingGateway.Operation.Pool
import StakingGateway.Operation.Reading
import StakingGateway.Proofs.Invocation

/-!
# Reads that are under way together

A schedule decides in which order such reads are answered, and an answer that is decisive ends the
others. `Gathering` says what comes out of that whatever the schedule is: every answer stands at the
place of its call, or one of the reads stopped the rest. The rules behind it compute the result of
an action that does nothing but read, over a chain with a state.
-/

namespace StakingGateway

namespace Chain

open Contract

/-- Every read is answered once. -/
def Schedule.Complete (schedule : Schedule) : Prop := ∀ n, (schedule n).Perm (List.range n)

theorem complete_inOrder : Schedule.Complete inOrder := fun _ => List.Perm.refl _

def lastFirst : Schedule := fun n => (List.range n).reverse

theorem complete_lastFirst : Schedule.Complete lastFirst := fun _ => List.reverse_perm _

/-- What reads of some calls can come to, and the interactions on the way. -/
inductive Gathering (network : Network) (calls : List Call) (decisive : Call → ReadAnswer → Bool) :
    Gathered → List Event → Prop
  | all {answers : List ReadAnswer} {events : List Event} (hlength : answers.length = calls.length)
      (hevents : events.Perm (List.zipWith (Event.read network) calls answers))
      (hcalm : ∀ pair ∈ calls.zip answers, decisive pair.1 pair.2 = false) :
      Gathering network calls decisive (.all answers) events
  | stopped {call : Call} {answer : ReadAnswer} {events : List Event} (hcall : call ∈ calls)
      (hevent : .read network call answer ∈ events) (hdecisive : decisive call answer = true) :
      Gathering network calls decisive (.stopped call answer) events

theorem lookup_graph (given : Nat → ReadAnswer) {i : Nat} {places : List Nat} (h : i ∈ places) :
    (places.map fun i => (i, given i)).lookup i = some (given i) := by
  induction places with
  | nil => cases h
  | cons place rest ih =>
      rw [List.map_cons, List.lookup_cons]
      by_cases heq : i = place
      · rw [heq, beq_self_eq_true]
      · have hne : (i == place) = false := by simpa using heq
        rw [hne]
        exact ih ((List.mem_cons.mp h).resolve_left heq)

theorem filterMap_range_getElem? {α β γ : Type} (f : α → β → γ) (given : Nat → β) (xs : List α) :
    ((List.range xs.length).filterMap fun i => xs[i]?.map fun x => f x (given i)) =
      List.zipWith f xs ((List.range xs.length).map given) := by
  induction xs generalizing given with
  | nil => rfl
  | cons x xs ih =>
      have hrest := ih fun i => given (i + 1)
      rw [List.length_cons, List.range_succ_eq_map, List.map_cons, List.map_map,
        List.zipWith_cons_cons, List.filterMap_cons, List.filterMap_map]
      exact congrArg (f x (given 0) :: ·) hrest

variable {σ : Type} (chain : Chain (StateM σ)) {network : Network} {calls : List Call}
  {decisive : Call → ReadAnswer → Bool}

theorem readInOrder_cons {i : Nat} {order : List Nat} {answers : List (Nat × ReadAnswer)} {s : σ}
    {call : Call} (hcall : calls[i]? = some call) :
    (chain.readInOrder network calls decisive (i :: order) answers s).1 =
      if decisive call (chain.read network call s).1 then
        (.stopped call (chain.read network call s).1,
          [.read network call (chain.read network call s).1])
      else
        ((chain.readInOrder network calls decisive order
            ((i, (chain.read network call s).1) :: answers) (chain.read network call s).2).1.1,
          .read network call (chain.read network call s).1 ::
            (chain.readInOrder network calls decisive order
              ((i, (chain.read network call s).1) :: answers)
              (chain.read network call s).2).1.2) := by
  rw [readInOrder]
  simp only [hcall, bind, StateT.bind]
  obtain ⟨answer, s'⟩ := chain.read network call s
  cases hdecisive : decisive call answer <;> simp only [hdecisive] <;> rfl

/-- How far reads came: all of some places are answered, beside the answers that were there before,
or one answer was decisive. -/
inductive Progress (network : Network) (calls : List Call) (decisive : Call → ReadAnswer → Bool)
    (order : List Nat) (answers : List (Nat × ReadAnswer)) : Gathered → List Event → Prop
  | answered {gathered : Gathered} {events : List Event} (given : Nat → ReadAnswer)
      (hcalm : ∀ i ∈ order, ∀ call, calls[i]? = some call → decisive call (given i) = false)
      (hgathered : gathered = .all ((List.range calls.length).filterMap fun i =>
        ((order.reverse.map fun i => (i, given i)) ++ answers).lookup i))
      (hevents : events =
        order.filterMap fun i => calls[i]?.map fun call => .read network call (given i)) :
      Progress network calls decisive order answers gathered events
  | stopped {call : Call} {answer : ReadAnswer} {events : List Event} (hcall : call ∈ calls)
      (hevent : .read network call answer ∈ events) (hdecisive : decisive call answer = true) :
      Progress network calls decisive order answers (.stopped call answer) events

theorem progress_readInOrder {order : List Nat} (horder : order.Nodup)
    (hplaces : ∀ i ∈ order, i < calls.length) (answers : List (Nat × ReadAnswer)) (s : σ) :
    Progress network calls decisive order answers
      (chain.readInOrder network calls decisive order answers s).1.1
      (chain.readInOrder network calls decisive order answers s).1.2 := by
  induction order generalizing answers s with
  | nil => exact .answered (fun _ => .ok []) (by simp) rfl rfl
  | cons i order ih =>
      obtain ⟨hfresh, horder⟩ := List.nodup_cons.mp horder
      obtain ⟨hi, hplaces⟩ := List.forall_mem_cons.mp hplaces
      have hcall : calls[i]? = some calls[i] := List.getElem?_eq_getElem hi
      rw [readInOrder_cons chain hcall]
      generalize chain.read network calls[i] s = step
      obtain ⟨answer, s'⟩ := step
      by_cases hdecisive : decisive calls[i] answer = true
      · rw [if_pos hdecisive]
        exact .stopped (List.getElem_mem hi) List.mem_cons_self hdecisive
      · rw [if_neg hdecisive]
        have hrest := ih horder hplaces ((i, answer) :: answers) s'
        generalize chain.readInOrder network calls decisive order ((i, answer) :: answers) s' = run
          at hrest ⊢
        obtain ⟨⟨gathered, events⟩, s''⟩ := run
        cases hrest with
        | stopped hmem hevent hstops =>
            exact .stopped hmem (List.mem_cons_of_mem _ hevent) hstops
        | answered given hcalm hgathered hevents =>
            -- The place that was read first gets its own answer; the others keep theirs.
            have hother : ∀ j ∈ order, Function.update given i answer j = given j := by
              intro j hj
              refine Function.update_of_ne (fun heq => hfresh ?_) _ _
              rwa [← heq]
            refine .answered (Function.update given i answer) ?_ ?_ ?_
            · refine List.forall_mem_cons.mpr ⟨fun call hsome => ?_, fun j hj call hsome => ?_⟩
              · rw [Function.update_self]
                rw [← Option.some.inj (hcall.symm.trans hsome)]
                exact Bool.not_eq_true _ |>.mp hdecisive
              · rw [hother j hj]
                exact hcalm j hj call hsome
            · have hgraph : (order.reverse.map fun j => (j, Function.update given i answer j)) =
                  order.reverse.map fun j => (j, given j) :=
                List.map_congr_left fun j hj => by rw [hother j (List.mem_reverse.mp hj)]
              rw [hgathered, List.reverse_cons, List.map_append, hgraph, List.map_singleton,
                Function.update_self, List.append_assoc, List.singleton_append]
            · have hevents' : (order.filterMap fun j => calls[j]?.map fun call =>
                  Event.read network call (Function.update given i answer j)) = events :=
                (List.filterMap_congr fun j hj => by rw [hother j hj]).trans hevents.symm
              rw [List.filterMap_cons, hcall, hevents', Function.update_self]
              rfl

/-- Under a schedule that answers every read once, no read is lost and no answer changes place. -/
theorem gathering_readInOrder {order : List Nat} (horder : order.Perm (List.range calls.length))
    (s : σ) :
    Gathering network calls decisive (chain.readInOrder network calls decisive order [] s).1.1
      (chain.readInOrder network calls decisive order [] s).1.2 := by
  have hplaces : ∀ i ∈ order, i < calls.length := fun i hi =>
    List.mem_range.mp (horder.mem_iff.mp hi)
  have horder' : order.Nodup := horder.nodup_iff.mpr List.nodup_range
  have hprogress : Progress network calls decisive order []
      (chain.readInOrder network calls decisive order [] s).1.1
      (chain.readInOrder network calls decisive order [] s).1.2 :=
    chain.progress_readInOrder horder' hplaces [] s
  generalize chain.readInOrder network calls decisive order [] s = run at hprogress ⊢
  obtain ⟨⟨gathered, events⟩, s'⟩ := run
  cases hprogress with
  | stopped hcall hevent hdecisive => exact .stopped hcall hevent hdecisive
  | answered given hcalm hgathered hevents =>
      have hall : ((List.range calls.length).filterMap fun i =>
          ((order.reverse.map fun i => (i, given i)) ++ []).lookup i) =
          (List.range calls.length).map given := by
        rw [List.append_nil]
        refine (List.filterMap_congr fun i hi => ?_).trans
          (congrFun List.filterMap_eq_map _)
        exact lookup_graph given (List.mem_reverse.mpr (horder.mem_iff.mpr hi))
      obtain rfl := hgathered
      obtain rfl := hevents
      rw [hall]
      refine .all (by simp) ?_ ?_
      · rw [← filterMap_range_getElem?]
        exact horder.filterMap _
      · intro pair hpair
        obtain ⟨i, hi, hpair⟩ := List.mem_iff_getElem.mp hpair
        have hlength : i < calls.length := by simpa using hi
        obtain rfl : pair = (calls[i], given i) := by simpa using hpair.symm
        exact hcalm i (horder.mem_iff.mpr (List.mem_range.mpr hlength)) _
          (List.getElem?_eq_getElem hlength)

/-! ## Chains that reads do not move -/

inductive ReadsTo (start : σ) : σ → Prop
  | start : ReadsTo start start
  | read {s : σ} (network : Network) (call : Call) (h : ReadsTo start s) :
      ReadsTo start (chain.read network call s).2

/-- The answer to a read does not depend on the reads before it. -/
def Steady (start : σ) : Prop :=
  ∀ s, chain.ReadsTo start s → ∀ network call,
    (chain.read network call s).1 = (chain.read network call start).1

/-- A chain that answers the reads of a function with these results, always, and nothing else. -/
def answering (results : String → ReadAnswer) : Chain (StateM Unit) where
  reach _ := .ok ()
  read _ call := pure (results call.function)
  simulate _ _ call := pure (.error (.simulationReverted call.function "read-only"))
  write _ call := pure (.error (.notSubmitted call.function "read-only"))
  receipt _ hash := pure (.error (.noReceipt hash.text "read-only"))

theorem steady_answering (results : String → ReadAnswer) (start : Unit) :
    (answering results).Steady start := fun _ _ _ _ => rfl

/-- Every read among some interactions has the answer that belongs to its call. -/
def AnsweredBy (answer : Network → Call → ReadAnswer) (events : List Event) : Prop :=
  ∀ network call given, .read network call given ∈ events → given = answer network call

theorem AnsweredBy.of_cons {answer : Network → Call → ReadAnswer} {event : Event}
    {events : List Event} (h : AnsweredBy answer (event :: events)) : AnsweredBy answer events :=
  fun network call given hgiven => h network call given (List.mem_cons_of_mem _ hgiven)

theorem Steady.answeredBy {start : σ} (hsteady : chain.Steady start) (order : List Nat)
    (answers : List (Nat × ReadAnswer)) {s : σ} (hs : chain.ReadsTo start s) :
    AnsweredBy (fun network call => (chain.read network call start).1)
      (chain.readInOrder network calls decisive order answers s).1.2 := by
  induction order generalizing answers s with
  | nil =>
      intro _ _ _ hevent
      cases hevent
  | cons i order ih =>
      intro place asked given hevent
      cases hcall : calls[i]? with
      | none =>
          rw [readInOrder] at hevent
          simp only [hcall] at hevent
          exact ih answers hs _ _ _ hevent
      | some call =>
          rw [events_readInOrder_cons chain hcall, hsteady s hs] at hevent
          rcases List.mem_cons.mp hevent with hfirst | hrest
          · obtain ⟨rfl, rfl, rfl⟩ := Event.read.inj hfirst
            rfl
          · split at hrest
            · cases hrest
            · exact ih _ (hs.read network call) _ _ _ hrest

variable {gathered : Gathered} {events : List Event} {answer : Network → Call → ReadAnswer}

theorem AnsweredBy.eq_map {answers : List ReadAnswer} (hlength : answers.length = calls.length)
    (h : AnsweredBy answer (List.zipWith (Event.read network) calls answers)) :
    answers = calls.map (answer network) := by
  induction calls generalizing answers with
  | nil => exact List.length_eq_zero_iff.mp hlength
  | cons call calls ih =>
      obtain ⟨first, rest, rfl⟩ : ∃ first rest, answers = first :: rest :=
        List.exists_cons_of_length_eq_add_one hlength
      rw [List.map_cons, ← h network call first List.mem_cons_self,
        ← ih (Nat.succ.inj hlength) h.of_cons]

/-- When every call has an answer of its own, the reads come to these answers, or to one of them
that is decisive. -/
theorem Gathering.of_answeredBy (h : Gathering network calls decisive gathered events)
    (hanswer : AnsweredBy answer events) :
    (gathered = .all (calls.map (answer network)) ∧
        ∀ call ∈ calls, decisive call (answer network call) = false) ∨
      ∃ call ∈ calls, gathered = .stopped call (answer network call) ∧
        decisive call (answer network call) = true := by
  cases h with
  | @all answers _ hlength hevents hcalm =>
      have hanswers : answers = calls.map (answer network) :=
        AnsweredBy.eq_map hlength fun place call given hgiven =>
          hanswer place call given (hevents.mem_iff.mpr hgiven)
      rw [hanswers] at hcalm ⊢
      refine Or.inl ⟨rfl, fun call hcall => ?_⟩
      refine hcalm (call, answer network call) ?_
      rw [← List.map_prod_left_eq_zip]
      exact List.mem_map_of_mem hcall
  | @stopped call given _ hcall hevent hdecisive =>
      obtain rfl := hanswer network call given hevent
      exact Or.inr ⟨call, hcall, rfl, hdecisive⟩

end Chain

/-! ## The result of a reading action -/

namespace Tool.Action

open Chain Contract Operation

variable {σ α β : Type} {chain : Chain (StateM σ)} {schedule : Schedule} {s s' : σ}
  {result : Except Fault β} {events : List Event}

/-- Over the chain, from this state, the action has this result after these interactions. -/
def Yields (chain : Chain (StateM σ)) (schedule : Schedule) (s : σ) (x : Action α)
    (result : Except Fault α) (events : List Event) : Prop :=
  (chain.run schedule x.run s).1 = (result, events)

theorem yields_ofArgument {argument : Except ArgumentError α} {value : α} {f : α → Action β}
    (hargument : argument = .ok value) (h : Yields chain schedule s (f value) result events) :
    Yields chain schedule s (ofArgument argument >>= f) result events := by
  subst hargument
  exact h

theorem yields_ask {question : Question} {f : question.Answer → Action β} {answer : question.Answer}
    {first rest : List Event} (hrespond : chain.respond schedule question s = ((answer, first), s'))
    (h : Yields chain schedule s' (f answer) result rest) :
    Yields chain schedule s (ask question >>= f) result (first ++ rest) := by
  have hask : (ask question >>= f).run = Dialogue.ask question fun answer => (f answer).run := rfl
  unfold Yields at h ⊢
  unfold Chain.run at h ⊢
  rw [hask, Dialogue.hold]
  simp only [bind, StateT.bind, hrespond]
  generalize Dialogue.hold (chain.respond schedule) (f answer).run s' = outcome at h
  obtain ⟨⟨value, events⟩, s''⟩ := outcome
  cases h
  rfl

theorem yields_reader {identifier : String} {network : Network} {f : Network → Action β}
    (hreader : chain.openReader identifier = .ok network)
    (h : Yields chain schedule s (f network) result events) :
    Yields chain schedule s (reader identifier >>= f) result
      (.reader identifier (.ok network) :: events) := by
  have hassoc : reader identifier >>= f =
      ask (.reader identifier) >>= fun answer => ofChain answer >>= f := bind_assoc _ _ _
  have hrespond : chain.respond schedule (.reader identifier) s =
      ((.ok network, [.reader identifier (.ok network)]), s) := by
    rw [← hreader]
    rfl
  rw [hassoc]
  exact yields_ask hrespond h

/-- The answers that were gathered, as an action sees them that none of them ends. -/
def answersOf : Gathered → List ReadAnswer
  | .all answers => answers
  | .stopped _ answer => [answer]

theorem yields_gather {network : Network} {calls : List Call}
    {decisive : Call → ReadAnswer → Bool} {f : Gathered → Action β} {gathered : Gathered}
    (hread : chain.readInOrder network calls decisive (schedule calls.length) [] s =
      ((gathered, events), s'))
    (h : (f gathered).run = .done result) :
    Yields chain schedule s (ask (.readAll network calls decisive) >>= f) result events := by
  have hrest : Yields chain schedule s' (f gathered) result [] := by
    unfold Yields
    rw [h]
    rfl
  rw [← List.append_nil events]
  exact yields_ask hread hrest

theorem yields_readTogether {network : Network} {calls : List Call}
    {f : List ReadAnswer → Action β} {gathered : Gathered}
    (hread : chain.readInOrder network calls (fun _ _ => false) (schedule calls.length) [] s =
      ((gathered, events), s'))
    (h : (f (answersOf gathered)).run = .done result) :
    Yields chain schedule s (readTogether network calls >>= f) result events := by
  have hassoc : readTogether network calls >>= f =
      ask (.readAll network calls fun _ _ => false) >>= fun gathered => f (answersOf gathered) := by
    refine (bind_assoc _ _ _).trans (congrArg _ (funext fun gathered => ?_))
    cases gathered <;> rfl
  rw [hassoc]
  exact yields_gather hread h

def numbersOf (calls : List Call) : Gathered → Except Chain.Error (List Uint256)
  | .all answers => (calls.zip answers).mapM fun pair => uintOf pair.1 pair.2
  | .stopped call answer => (uintOf call answer).map fun number => [number]

/-- The end of `readUints`, behind the reads. -/
def numbersFrom (calls : List Call) : Gathered → Action (List Uint256)
  | .all answers => (calls.zip answers).mapM fun pair => ofChain (uintOf pair.1 pair.2)
  | .stopped call answer => do return [← ofChain (uintOf call answer)]

theorem run_bind_done {x : Action α} {f : α → Action β} {outcome : Except Fault α}
    {next : α → Except Fault β} (hx : x.run = .done outcome)
    (hf : ∀ value, (f value).run = .done (next value)) :
    (x >>= f).run = .done (outcome.bind next) := by
  have hbind : (x >>= f).run = Dialogue.bind x.run (ExceptT.bindCont f) := rfl
  rw [hbind, hx]
  cases outcome with
  | error fault => rfl
  | ok value => exact hf value

theorem run_bind_pure {x : Action α} {outcome : Except Fault α} (h : x.run = .done outcome)
    (f : α → β) : (x >>= fun value => pure (f value) : Action β).run = .done (outcome.map f) := by
  have hbind : (x >>= fun value => pure (f value)).run =
      .done (outcome.bind fun value => .ok (f value)) := run_bind_done h fun _ => rfl
  rw [hbind]
  cases outcome <;> rfl

theorem run_ofChain (answer : Except Chain.Error α) :
    (ofChain answer).run = .done (answer.mapError Fault.ofChain) := by
  cases answer <;> rfl

theorem run_bind_ofChain {answer : Except Chain.Error α} {f : α → Action β}
    {next : α → Except Chain.Error β}
    (hf : ∀ value, (f value).run = .done ((next value).mapError Fault.ofChain)) :
    (ofChain answer >>= f).run = .done ((answer.bind next).mapError Fault.ofChain) := by
  cases answer with
  | error e => rfl
  | ok value => exact hf value

theorem run_ofOverflow (outcome : Except Amount.Overflow α) :
    (ofOverflow outcome).run = .done (outcome.mapError fun e => .crashed e.message) := by
  cases outcome <;> rfl

theorem run_map_ofChain {x : Action α} {answer : Except Chain.Error α}
    (h : x.run = .done (answer.mapError Fault.ofChain)) (f : α → β) :
    (x >>= fun value => pure (f value) : Action β).run =
      .done ((answer.map f).mapError Fault.ofChain) := by
  rw [run_bind_pure h]
  cases answer <;> rfl

theorem run_mapM_ofChain (pairs : List (Call × ReadAnswer)) :
    (pairs.mapM fun pair => ofChain (uintOf pair.1 pair.2)).run =
      .done ((pairs.mapM fun pair => uintOf pair.1 pair.2).mapError Fault.ofChain) := by
  induction pairs with
  | nil => rfl
  | cons pair pairs ih =>
      rw [List.mapM_cons, List.mapM_cons]
      exact run_bind_ofChain fun number => run_map_ofChain ih (number :: ·)

theorem run_numbersFrom (calls : List Call) (gathered : Gathered) :
    (numbersFrom calls gathered).run =
      .done ((numbersOf calls gathered).mapError Fault.ofChain) := by
  cases gathered with
  | all answers => exact run_mapM_ofChain (calls.zip answers)
  | stopped call answer =>
      exact run_map_ofChain (run_ofChain (uintOf call answer)) fun number => [number]

theorem yields_readUints {network : Network} {calls : List Call} {report : List Uint256 → β}
    {gathered : Gathered}
    (hread : chain.readInOrder network calls (fun call answer => !(uintOf call answer).isOk)
      (schedule calls.length) [] s = ((gathered, events), s')) :
    Yields chain schedule s (readUints network calls >>= fun numbers => pure (report numbers))
      (((numbersOf calls gathered).map report).mapError Fault.ofChain) events := by
  have hassoc : (readUints network calls >>= fun numbers => pure (report numbers)) =
      ask (.readAll network calls fun call answer => !(uintOf call answer).isOk) >>= fun gathered =>
        numbersFrom calls gathered >>= fun numbers => pure (report numbers) := by
    refine (bind_assoc _ _ _).trans (congrArg _ (funext fun gathered => ?_))
    cases gathered <;> rfl
  rw [hassoc]
  exact yields_gather hread (run_map_ofChain (run_numbersFrom calls gathered) report)

end Tool.Action

end StakingGateway
