import StakingGateway.Chain.Run
import StakingGateway.Operation.Reading
import StakingGateway.Operation.Sending
import StakingGateway.Proofs.Course

/-!
# Runs in step

Two programs are in step when they ask the same questions, but for the arguments and the native
values of calls, as long as they get the same answers. A chain that looks at neither cannot tell
them apart: over it their interactions are the same in turn, and they end alike. The rules follow
the building blocks of actions.
-/

namespace StakingGateway

namespace Contract

/-- The call without its arguments and its native value. -/
def Call.bare (c : Call) : Call := { c with args := [], value := none }

theorem Call.function_eq_of_bare {c d : Call} (h : c.bare = d.bare) : c.function = d.function := by
  have hfunction : c.bare.function = d.bare.function := congrArg function h
  exact hfunction

end Contract

open Contract

namespace Chain

def Event.bare : Event → Event
  | .read network call answer => .read network call.bare answer
  | .simulate network sender call answer => .simulate network sender call.bare answer
  | .write signer call answer => .write signer call.bare answer
  | .reader identifier answer => .reader identifier answer
  | .account key identifier answer => .account key identifier answer
  | .receipt network hash answer => .receipt network hash answer

def Matching {α β σ : Type} (alike : σ → σ → Prop) (R : α → β → Prop) (one : α × σ)
    (two : β × σ) : Prop :=
  R one.1 two.1 ∧ alike one.2 two.2

/-- From states that are alike, calls that differ in arguments and native values only are answered
alike: neither these nor those of earlier calls are looked at. -/
structure Blind {σ : Type} (chain : Chain (StateM σ)) (alike : σ → σ → Prop) : Prop where
  read : ∀ network {c d s t}, c.bare = d.bare → alike s t →
    Matching alike Eq (chain.read network c s) (chain.read network d t)
  simulate : ∀ network sender {c d s t}, c.bare = d.bare → alike s t →
    Matching alike Eq (chain.simulate network sender c s) (chain.simulate network sender d t)
  write : ∀ account {c d s t}, c.bare = d.bare → alike s t →
    Matching alike Eq (chain.write account c s) (chain.write account d t)
  receipt : ∀ network hash {s t}, alike s t →
    Matching alike Eq (chain.receipt network hash s) (chain.receipt network hash t)

/-- The same questions, but for arguments and native values, and their answers side by side. -/
inductive Question.Like : (left right : Question) → (left.Answer → right.Answer → Prop) → Prop
  | same (question : Question) : Like question question Eq
  | read {network : Network} {call other : Call} (h : call.bare = other.bare) :
      Like (.read network call) (.read network other) Eq
  | simulate {network : Network} {sender : Address} {call other : Call}
      (h : call.bare = other.bare) :
      Like (.simulate network sender call) (.simulate network sender other) Eq
  | write {account : Account} {call other : Call} (h : call.bare = other.bare) :
      Like (.write account call) (.write account other) Eq

variable {α β γ δ : Type}

/-- With the same answers, both programs ask like questions and end with results that are
related. -/
inductive Program.InStep (R : α → β → Prop) : Program α → Program β → Prop
  | done {left : α} {right : β} (h : R left right) : InStep R (.done left) (.done right)
  | ask {left right : Question} {same : left.Answer → right.Answer → Prop}
      {next : left.Answer → Program α} {onward : right.Answer → Program β}
      (hlike : left.Like right same)
      (h : ∀ answer other, same answer other → InStep R (next answer) (onward other)) :
      InStep R (.ask left next) (.ask right onward)

variable {R : α → β → Prop} {S : γ → δ → Prop} {left : Program α} {right : Program β}

theorem Program.InStep.bind (h : Program.InStep R left right) {f : α → Program γ}
    {g : β → Program δ} (hfg : ∀ a b, R a b → Program.InStep S (f a) (g b)) :
    Program.InStep S (Dialogue.bind left f) (Dialogue.bind right g) := by
  induction h with
  | done hresult => exact hfg _ _ hresult
  | ask hlike _ ih => exact .ask hlike ih

theorem Program.InStep.mono {T : α → β → Prop} (h : Program.InStep R left right)
    (hRT : ∀ a b, R a b → T a b) : Program.InStep T left right := by
  induction h with
  | done hresult => exact .done (hRT _ _ hresult)
  | ask hlike _ ih => exact .ask hlike ih

theorem Program.inStep_refl (program : Program α) : Program.InStep Eq program program := by
  induction program with
  | done value => exact .done rfl
  | ask question next ih =>
      refine .ask (.same question) ?_
      rintro answer _ rfl
      exact ih answer

/-! ## Over a blind chain -/

section Run

variable {σ : Type} {chain : Chain (StateM σ)} {alike : σ → σ → Prop} {s t : σ}

theorem matching_pure {a : α} {b : β} (hresult : R a b) (h : alike s t) :
    Matching alike R ((pure a : StateM σ α) s) ((pure b : StateM σ β) t) :=
  ⟨hresult, h⟩

theorem matching_bind {x : StateM σ α} {y : StateM σ β} {f : α → StateM σ γ} {g : β → StateM σ δ}
    (h : Matching alike R (x s) (y t))
    (hfg : ∀ a b, R a b → ∀ {s t}, alike s t → Matching alike S (f a s) (g b t)) :
    Matching alike S ((x >>= f) s) ((y >>= g) t) :=
  hfg _ _ h.1 h.2

theorem matching_of_eq {one two : α × σ} (h : one = two) : Matching Eq Eq one two :=
  ⟨congrArg Prod.fst h, congrArg Prod.snd h⟩

/-- Answers that belong together, and the same interactions but for arguments and native values. -/
def NotedAlike (same : α → β → Prop) (one : α × List Event) (two : β × List Event) : Prop :=
  same one.1 two.1 ∧ one.2.map Event.bare = two.2.map Event.bare

theorem matching_noted {x y : StateM σ α} {event other : α → Event}
    (h : Matching alike Eq (x s) (y t))
    (hbare : ∀ answer, (event answer).bare = (other answer).bare) :
    Matching alike (NotedAlike Eq)
      ((do let answer ← x; return (answer, [event answer]) : StateM σ (α × List Event)) s)
      ((do let answer ← y; return (answer, [other answer]) : StateM σ (α × List Event)) t) := by
  refine matching_bind h ?_
  rintro answer _ rfl s t h
  exact matching_pure ⟨rfl, congrArg ([·]) (hbare answer)⟩ h

theorem Blind.readInOrder (hblind : chain.Blind alike) (network : Network) (calls : List Call)
    (decisive : Call → ReadAnswer → Bool) (order : List Nat) (answers : List (Nat × ReadAnswer))
    (h : alike s t) :
    Matching alike Eq (chain.readInOrder network calls decisive order answers s)
      (chain.readInOrder network calls decisive order answers t) := by
  induction order generalizing answers s t with
  | nil => exact matching_pure rfl h
  | cons i order ih =>
      rw [Chain.readInOrder]
      cases calls[i]? with
      | none => exact ih answers h
      | some call =>
          refine matching_bind (hblind.read network rfl h) ?_
          rintro answer _ rfl s t h
          cases decisive call answer with
          | true => exact matching_pure rfl h
          | false =>
              refine matching_bind (ih _ h) ?_
              rintro gathered _ rfl s t h
              exact matching_pure rfl h

theorem Blind.respond (hblind : chain.Blind alike) (schedule : Schedule) {one two : Question}
    {same : one.Answer → two.Answer → Prop} (hlike : one.Like two same) (h : alike s t) :
    Matching alike (NotedAlike same) (chain.respond schedule one s)
      (chain.respond schedule two t) := by
  cases hlike with
  | same =>
      cases one with
      | reader _ | account _ _ => exact matching_pure ⟨rfl, rfl⟩ h
      | read network call => exact matching_noted (hblind.read network rfl h) fun _ => rfl
      | readAll network calls decisive =>
          obtain ⟨hgathered, hstate⟩ :=
            hblind.readInOrder network calls decisive (schedule calls.length) [] h
          exact ⟨⟨congrArg Prod.fst hgathered, congrArg (·.2.map Event.bare) hgathered⟩, hstate⟩
      | simulate network sender call =>
          exact matching_noted (hblind.simulate network sender rfl h) fun _ => rfl
      | write account call => exact matching_noted (hblind.write account rfl h) fun _ => rfl
      | receipt network hash => exact matching_noted (hblind.receipt network hash h) fun _ => rfl
  | read hcall =>
      refine matching_noted (hblind.read _ hcall h) fun answer => ?_
      rw [Event.bare, Event.bare, hcall]
  | simulate hcall =>
      refine matching_noted (hblind.simulate _ _ hcall h) fun answer => ?_
      rw [Event.bare, Event.bare, hcall]
  | write hcall =>
      refine matching_noted (hblind.write _ hcall h) fun answer => ?_
      rw [Event.bare, Event.bare, hcall]

/-- Programs in step go through the same interactions over a blind chain, and end alike. -/
theorem Blind.run (hblind : chain.Blind alike) (schedule : Schedule)
    (hprograms : Program.InStep R left right) (h : alike s t) :
    Matching alike (NotedAlike R) (chain.run schedule left s) (chain.run schedule right t) := by
  induction hprograms generalizing s t with
  | done hresult => exact matching_pure ⟨hresult, rfl⟩ h
  | ask hlike _ ih =>
      refine matching_bind (hblind.respond schedule hlike h) ?_
      rintro ⟨answer, events⟩ ⟨other, others⟩ ⟨hsame, hevents⟩ s t h
      refine matching_bind (ih _ _ hsame h) ?_
      rintro ⟨result, rest⟩ ⟨last, remaining⟩ ⟨hresult, hrest⟩ s t h
      have happend : (events ++ rest).map Event.bare = (others ++ remaining).map Event.bare := by
        rw [List.map_append, List.map_append]
        exact congr (congrArg (· ++ ·) hevents) hrest
      exact matching_pure ⟨hresult, happend⟩ h

end Run

end Chain

namespace Tool

open Chain

variable {α β γ δ : Type} {R : α → β → Prop} {S : γ → δ → Prop}

inductive SameEnd (R : α → β → Prop) : Except Fault α → Except Fault β → Prop
  | ok {left : α} {right : β} (h : R left right) : SameEnd R (.ok left) (.ok right)
  | error (fault : Fault) : SameEnd R (.error fault) (.error fault)

namespace Action

def InStep (R : α → β → Prop) (left : Action α) (right : Action β) : Prop :=
  Program.InStep (SameEnd R) left.run right.run

/-! ## Building blocks -/

theorem inStep_pure {left : α} {right : β} (h : R left right) :
    InStep R (pure left) (pure right) :=
  .done (.ok h)

theorem inStep_bind {left : Action α} {right : Action β} {f : α → Action γ} {g : β → Action δ}
    (h : InStep R left right) (hfg : ∀ a b, R a b → InStep S (f a) (g b)) :
    InStep S (left >>= f) (right >>= g) := by
  refine Program.InStep.bind h fun outcome other hsame => ?_
  cases hsame with
  | ok hresult => exact hfg _ _ hresult
  | error fault => exact .done (.error fault)

theorem inStep_refl (x : Action α) : InStep Eq x x := by
  refine (Program.inStep_refl x.run).mono ?_
  rintro (fault | value) _ rfl
  · exact .error fault
  · exact .ok rfl

/-- Both go on from steps that end with the same value. -/
theorem inStep_next {x y : Action α} {f : α → Action γ} {g : α → Action δ} (hxy : InStep Eq x y)
    (h : ∀ value, InStep S (f value) (g value)) : InStep S (x >>= f) (y >>= g) := by
  refine inStep_bind hxy ?_
  rintro value _ rfl
  exact h value

theorem inStep_step {x : Action α} {f : α → Action γ} {g : α → Action δ}
    (h : ∀ value, InStep S (f value) (g value)) : InStep S (x >>= f) (x >>= g) :=
  inStep_next (inStep_refl x) h

theorem inStep_tryCatch {x y : Action α} {handler : Fault → Action α} (hxy : InStep Eq x y) :
    InStep Eq (tryCatch x handler) (tryCatch y handler) := by
  rw [InStep, run_tryCatch, run_tryCatch]
  refine Program.InStep.bind hxy fun outcome other hsame => ?_
  cases hsame with
  | ok h => exact inStep_pure h
  | error fault => exact inStep_refl (handler fault)

theorem inStep_argument {left right : Except ArgumentError α} {f : α → Action γ}
    {g : α → Action δ} (h : left = right) (hfg : ∀ value, InStep S (f value) (g value)) :
    InStep S (ofArgument left >>= f) (ofArgument right >>= g) := by
  rw [h]
  exact inStep_step hfg

theorem inStep_given {left right : Except ArgumentError α} {first second : α}
    {f g : α → Action γ} {T : γ → γ → Prop} (hleft : left = .ok first) (hright : right = .ok second)
    (h : InStep T (f first) (g second)) :
    InStep T (ofArgument left >>= f) (ofArgument right >>= g) := by
  rw [hleft, hright]
  exact h

theorem inStep_ask {left right : Question} {same : left.Answer → right.Answer → Prop}
    (h : left.Like right same) : InStep same (ask left) (ask right) :=
  .ask h fun _ _ hsame => .done (.ok hsame)

/-- Like questions, with something made of the answers at once. -/
theorem inStep_ask_ofChain {left right : Question} {same : left.Answer → right.Answer → Prop}
    {f : left.Answer → Except Chain.Error α} {g : right.Answer → Except Chain.Error α}
    (h : left.Like right same) (hfg : ∀ answer other, same answer other → f answer = g other) :
    InStep Eq (ask left >>= fun answer => ofChain (f answer))
      (ask right >>= fun answer => ofChain (g answer)) := by
  refine inStep_bind (inStep_ask h) fun answer other hsame => ?_
  rw [hfg answer other hsame]
  exact inStep_refl _

end Action

end Tool

namespace Operation

open Tool Chain Action

variable {call other : Call}

theorem inStep_simulate (network : Network) (sender : Address) (h : call.bare = other.bare) :
    InStep Eq (Action.simulate network sender call) (Action.simulate network sender other) :=
  inStep_ask_ofChain (.simulate h) fun _ _ hsame => hsame

theorem inStep_write (account : Account) (h : call.bare = other.bare) :
    InStep Eq (Action.write account call) (Action.write account other) :=
  inStep_ask_ofChain (.write h) fun _ _ hsame => hsame

theorem uintOf_congr (h : call.bare = other.bare) (answer : ReadAnswer) :
    uintOf call answer = uintOf other answer := by
  rw [uintOf, uintOf, Call.function_eq_of_bare h]

theorem inStep_readUint (network : Network) (h : call.bare = other.bare) :
    InStep Eq (readUint network call) (readUint network other) := by
  refine inStep_ask_ofChain (.read h) ?_
  rintro answer _ rfl
  exact uintOf_congr h answer

theorem inStep_readUintOrZero (network : Network) (h : call.bare = other.bare) :
    InStep Eq (readUintOrZero network call) (readUintOrZero network other) := by
  refine inStep_bind (inStep_ask (.read h)) ?_
  rintro answer _ rfl
  rw [uintOrZero, uintOrZero, uintOf_congr h]
  exact inStep_refl _

theorem inStep_submit (account : Account) (h : call.bare = other.bare) :
    InStep Eq (submit account call) (submit account other) :=
  inStep_next (inStep_simulate account.network account.address h) fun _ => inStep_write account h

theorem inStep_submitAndConfirm (account : Account) (h : call.bare = other.bare) :
    InStep Eq (submitAndConfirm account call) (submitAndConfirm account other) :=
  inStep_next (inStep_submit account h) fun hash => inStep_refl (confirm account hash)

theorem inStep_approve (account : Account) (token spender : Address) (amount other : Uint256) :
    InStep Eq (approve account token spender amount) (approve account token spender other) :=
  inStep_next (inStep_submitAndConfirm account rfl) fun _ => inStep_refl _

theorem inStep_withFallback {α : Type} {x y : Action α} (hxy : InStep Eq x y)
    (primaryName fallbackName : String) (fallback : Action α) :
    InStep Eq (withFallback primaryName x fallbackName fallback)
      (withFallback primaryName y fallbackName fallback) :=
  inStep_tryCatch (inStep_next hxy fun _ => inStep_refl _)

end Operation

end StakingGateway
