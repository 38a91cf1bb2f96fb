import StakingGateway.Operation.Catalogue
import StakingGateway.Proofs.CallEncoding
import StakingGateway.Proofs.ReadReports

/-!
# How tools use the interfaces of contracts

Every call that a tool makes names a function of its interface and brings the arguments that this
declares. Of the results of a read, only declared ones are looked at: answers that agree in these
are one and the same to the tool. What a tool reports as an encoding error is therefore the error of
an answer, or there was an answer without a declared result. The rules follow the building blocks of
the tools.
-/

namespace StakingGateway

namespace Contract

open Chain

/-- Results that agree in all that the function of the call declares. -/
structure Call.SameOutputs (c : Call) (left right : List Abi.Token) : Prop where
  uints : ∀ i, c.DeclaresUint i → uintAt left i c.function = uintAt right i c.function
  addresses : ∀ i, c.DeclaresAddress i → addressAt left i c.function = addressAt right i c.function

inductive Call.Alike (c : Call) : ReadAnswer → ReadAnswer → Prop
  | error (e : Chain.Error) : Alike c (.error e) (.error e)
  | ok {left right : List Abi.Token} (h : c.SameOutputs left right) : Alike c (.ok left) (.ok right)

/-- The answer is this error, or it lacks a declared result. -/
def Call.Tells (c : Call) (answer : ReadAnswer) (e : Chain.Error) : Prop :=
  answer = .error e ∨ ∃ tokens, answer = .ok tokens ∧ ¬ c.Readable tokens

end Contract

namespace Chain

open Contract

inductive AllAlike : List Call → List ReadAnswer → List ReadAnswer → Prop
  | nil : AllAlike [] [] []
  | cons {c : Call} {calls : List Call} {left right : ReadAnswer} {lefts rights : List ReadAnswer}
      (h : c.Alike left right) (hrest : AllAlike calls lefts rights) :
      AllAlike (c :: calls) (left :: lefts) (right :: rights)

def SomeTells (calls : List Call) (answers : List ReadAnswer) (e : Error) : Prop :=
  ∃ pair ∈ calls.zip answers, pair.1.Tells pair.2 e

namespace Question

def calls : Question → List Call
  | read _ c => [c]
  | readAll _ calls _ => calls
  | simulate _ _ c => [c]
  | write _ c => [c]
  | reader _ | account .. | receipt .. => []

/-- Reads under way together come to an answer for each of them, or to one that is decisive. -/
def Admits : (question : Question) → question.Answer → Prop
  | readAll _ calls _, .all answers => answers.length = calls.length
  | readAll _ calls decisive, .stopped c answer => c ∈ calls ∧ decisive c answer = true
  | reader _, _ | account .., _ | read .., _ | simulate .., _ | write .., _ | receipt .., _ => True

/-- Answers that differ at most in what no function declares. -/
def Alike : (question : Question) → question.Answer → question.Answer → Prop
  | read _ c, left, right => c.Alike left right
  | readAll _ calls _, .all lefts, .all rights => AllAlike calls lefts rights
  | readAll .., .stopped c left, .stopped d right => c = d ∧ c.Alike left right
  | readAll .., .all _, .stopped .. | readAll .., .stopped .., .all _ => False
  | reader _, left, right | account .., left, right | simulate .., left, right
  | write .., left, right | receipt .., left, right => left = right

def Tells : (question : Question) → question.Answer → Error → Prop
  | read _ c, answer, e => c.Tells answer e
  | readAll _ calls _, .all answers, e => SomeTells calls answers e
  | readAll .., .stopped c answer, e => c.Tells answer e
  | reader _, answer, e | account .., answer, e | simulate .., answer, e
  | write .., answer, e | receipt .., answer, e => answer = .error e

/-- A question whose calls fit, and answers that are alike are handled in one way. -/
structure Handled {β : Type} (question : Question) (next : question.Answer → β) : Prop where
  fits : ∀ c ∈ question.calls, c.Fits
  decisive : ∀ network calls decisive, question = .readAll network calls decisive →
    ∀ c ∈ calls, ∀ left right, c.Alike left right → decisive c left = decisive c right
  blind : ∀ left right, question.Admits left → question.Admits right →
    question.Alike left right → next left = next right

end Question

end Chain

namespace Tool

open Chain Contract

variable {α β : Type}

/-- Whatever the answers are, all questions are handled, and an encoding error at the end was told
before the program or by an answer. -/
def Faithful (told : Chain.Error → Prop) : Program (Except Fault α) → Prop
  | .done result => ∀ e, result = .error (.refused (.chain e)) → e.kind = "abi" → told e
  | .ask question next => question.Handled next ∧
    ∀ answer, question.Admits answer →
      Faithful (fun e => told e ∨ question.Tells answer e) (next answer)

/-- The action keeps to the interfaces: nothing needs to be told before it. -/
def KeepsToInterfaces (x : Action α) : Prop := ∀ told, Faithful told x.run

theorem Faithful.mono {told told' : Chain.Error → Prop} {d : Program (Except Fault α)}
    (h : Faithful told d) (htold : ∀ e, told e → told' e) : Faithful told' d := by
  induction d generalizing told told' with
  | done result => exact fun e hresult hkind => htold e (h e hresult hkind)
  | ask question next ih =>
      exact ⟨h.1, fun answer hanswer => ih answer (h.2 answer hanswer) fun e => Or.imp_left (htold e)⟩

theorem faithful_bind {told : Chain.Error → Prop} {d : Program (Except Fault α)}
    {k : Except Fault α → Program (Except Fault β)} (hd : Faithful told d)
    (hk : ∀ result told', (∀ e, told e → told' e) → Faithful told' (.done result) →
      Faithful told' (k result)) : Faithful told (d.bind k) := by
  induction d generalizing told with
  | done result => exact hk result told (fun _ => id) hd
  | ask question next ih =>
      obtain ⟨⟨hfits, hdecisive, hblind⟩, hnext⟩ := hd
      refine ⟨⟨hfits, hdecisive, fun left right hleft hright halike => ?_⟩, fun answer hanswer => ?_⟩
      · exact congrArg (·.bind k) (hblind left right hleft hright halike)
      · refine ih answer (hnext answer hanswer) fun result told' htold => hk result told' ?_
        exact fun e he => htold e (.inl he)

/-! ## Building blocks -/

theorem keeps_pure (value : α) : KeepsToInterfaces (pure value) := fun _ _ h => nomatch h

theorem keeps_refuse {cause : Error} (h : ∀ e, cause ≠ .chain e) :
    KeepsToInterfaces (Action.refuse cause : Action α) := by
  intro told e hresult
  cases hresult
  exact absurd rfl (h e)

theorem keeps_crash (reason : String) : KeepsToInterfaces (Action.crash reason : Action α) :=
  fun _ _ h => nomatch h

theorem keeps_bind {x : Action α} {f : α → Action β} (hx : KeepsToInterfaces x)
    (hf : ∀ value, KeepsToInterfaces (f value)) : KeepsToInterfaces (x >>= f) := by
  refine fun told => faithful_bind (hx told) fun result told' _ hresult => ?_
  cases result with
  | ok value => exact hf value told'
  | error fault => exact fun e he => hresult e (congrArg Except.error (Except.error.inj he))

theorem keeps_tryCatch {x : Action α} {handler : Fault → Action α} (hx : KeepsToInterfaces x)
    (hhandler : ∀ fault, KeepsToInterfaces (handler fault)) :
    KeepsToInterfaces (tryCatch x handler) := by
  intro told
  rw [Action.run_tryCatch]
  refine faithful_bind (hx told) fun result told' _ _ => ?_
  cases result with
  | ok value => exact keeps_pure value told'
  | error fault => exact hhandler fault told'

theorem keeps_ofArgument (argument : Except ArgumentError α) :
    KeepsToInterfaces (Action.ofArgument argument) := by
  cases argument with
  | ok value => exact keeps_pure value
  | error e => exact keeps_refuse nofun

/-- A question, and what is made of its answer at once. -/
theorem keeps_ask_bind {question : Question} {f : question.Answer → Action α}
    (hhandled : question.Handled fun answer => (f answer).run)
    (hnext : ∀ answer, question.Admits answer → Faithful (question.Tells answer) (f answer).run) :
    KeepsToInterfaces (Action.ask question >>= f) := by
  intro told
  exact ⟨hhandled, fun answer hanswer => (hnext answer hanswer).mono fun e => Or.inr⟩

/-- A program that is over, with a result or an error of the chain. -/
theorem faithful_mapError {told : Chain.Error → Prop} {answer : Except Chain.Error α}
    (h : ∀ e, answer = .error e → told e) :
    Faithful told (.done (answer.mapError Fault.ofChain)) := by
  cases answer with
  | ok value => exact nofun
  | error e =>
      rintro _ ⟨⟩ _
      exact h e rfl

theorem faithful_ofChain {told : Chain.Error → Prop} {answer : Except Chain.Error α}
    (h : ∀ e, answer = .error e → told e) : Faithful told (Action.ofChain answer).run := by
  rw [Action.run_ofChain]
  exact faithful_mapError h

/-- A question whose answer is a result or the error that ends the action. -/
theorem keeps_ask_ofChain {question : Question} {f : question.Answer → Except Chain.Error α}
    (hhandled : question.Handled f)
    (htold : ∀ answer e, question.Admits answer → f answer = .error e → question.Tells answer e) :
    KeepsToInterfaces (Action.ask question >>= fun answer => Action.ofChain (f answer)) := by
  refine keeps_ask_bind ⟨hhandled.fits, hhandled.decisive, ?_⟩ fun answer hanswer => ?_
  · exact fun left right hleft hright halike =>
      congrArg (fun answer => (Action.ofChain answer).run)
        (hhandled.blind left right hleft hright halike)
  · exact faithful_ofChain fun e herror => htold answer e hanswer herror

theorem keeps_reader (identifier : String) : KeepsToInterfaces (Action.reader identifier) :=
  keeps_ask_ofChain ⟨nofun, nofun, fun _ _ _ _ h => h⟩ fun _ _ _ h => h

theorem keeps_account (key identifier : String) :
    KeepsToInterfaces (Action.account key identifier) :=
  keeps_ask_ofChain ⟨nofun, nofun, fun _ _ _ _ h => h⟩ fun _ _ _ h => h

theorem keeps_receipt (network : Network) (hash : TxHash) :
    KeepsToInterfaces (Action.receipt network hash) :=
  keeps_ask_ofChain ⟨nofun, nofun, fun _ _ _ _ h => h⟩ fun _ _ _ h => h

theorem keeps_simulate (network : Network) (sender : Address) {c : Call} (h : c.Fits) :
    KeepsToInterfaces (Action.simulate network sender c) :=
  keeps_ask_ofChain ⟨List.forall_mem_singleton.mpr h, nofun, fun _ _ _ _ h => h⟩ fun _ _ _ h => h

theorem keeps_write (account : Account) {c : Call} (h : c.Fits) :
    KeepsToInterfaces (Action.write account c) :=
  keeps_ask_ofChain ⟨List.forall_mem_singleton.mpr h, nofun, fun _ _ _ _ h => h⟩ fun _ _ _ h => h

end Tool

namespace Operation

open Tool Chain Contract

variable {α : Type} {c : Call} {left right answer : ReadAnswer} {e : Chain.Error}

structure FitsUint (c : Call) : Prop where
  fits : c.Fits
  declared : c.DeclaresUint 0

structure FitsAddress (c : Call) : Prop where
  fits : c.Fits
  declared : c.DeclaresAddress 0

theorem fitsUint_of_function {f : Abi.Function} (hf : c.interface.function c.function = .ok f)
    (hargs : Abi.OfKinds f.inputs c.args) (hresult : f.outputs[0]? = some .uint256) :
    FitsUint c :=
  ⟨⟨f, hf, hargs⟩, f, hf, .uint256, List.mem_cons_self, hresult⟩

theorem fitsAddress_of_function {f : Abi.Function} (hf : c.interface.function c.function = .ok f)
    (hargs : Abi.OfKinds f.inputs c.args) (hresult : f.outputs[0]? = some .address) :
    FitsAddress c :=
  ⟨⟨f, hf, hargs⟩, f, hf, .address, List.mem_cons_self, hresult⟩

theorem FitsUint.uintOf_eq (h : FitsUint c) (halike : c.Alike left right) :
    uintOf c left = uintOf c right := by
  cases halike with
  | error e => rfl
  | ok hsame => exact hsame.uints 0 h.declared

theorem FitsUint.uintOrZero_eq (h : FitsUint c) (halike : c.Alike left right) :
    uintOrZero c left = uintOrZero c right := by
  rw [uintOrZero, uintOrZero, h.uintOf_eq halike]

theorem FitsAddress.addressOf_eq (h : FitsAddress c) (halike : c.Alike left right) :
    addressOf c left = addressOf c right := by
  cases halike with
  | error e => rfl
  | ok hsame => exact hsame.addresses 0 h.declared

theorem FitsAddress.addressOrNone_eq (h : FitsAddress c) (halike : c.Alike left right) :
    addressOrNone c left = addressOrNone c right := by
  rw [addressOrNone, addressOrNone, h.addressOf_eq halike]

/-- A declared number cannot be missing unless the answer is no result of the call. -/
theorem FitsUint.tells (h : FitsUint c) (herror : uintOf c answer = .error e) :
    c.Tells answer e := by
  cases answer with
  | error cause =>
      cases herror
      exact .inl rfl
  | ok tokens =>
      refine .inr ⟨tokens, rfl, fun hreadable => ?_⟩
      obtain ⟨value, hvalue⟩ := hreadable.uints 0 h.declared
      cases hvalue.symm.trans herror

theorem FitsAddress.tells (h : FitsAddress c) (herror : addressOf c answer = .error e) :
    c.Tells answer e := by
  cases answer with
  | error cause =>
      cases herror
      exact .inl rfl
  | ok tokens =>
      refine .inr ⟨tokens, rfl, fun hreadable => ?_⟩
      obtain ⟨value, hvalue⟩ := hreadable.addresses 0 h.declared
      cases hvalue.symm.trans herror

theorem keeps_ofOverflow (outcome : Except Amount.Overflow α) :
    KeepsToInterfaces (ofOverflow outcome) := by
  cases outcome with
  | ok value => exact keeps_pure value
  | error e => exact keeps_crash _

section Reads

variable (network : Network)

theorem handled_read (hfits : c.Fits) {β : Type} {f : ReadAnswer → β}
    (hf : ∀ left right, c.Alike left right → f left = f right) :
    (Question.read network c).Handled f :=
  ⟨List.forall_mem_singleton.mpr hfits, nofun, fun left right _ _ => hf left right⟩

theorem keeps_readUint (h : FitsUint c) : KeepsToInterfaces (readUint network c) :=
  keeps_ask_ofChain (handled_read network h.fits fun _ _ => h.uintOf_eq) fun _ _ _ => h.tells

theorem keeps_readUintOrZero (h : FitsUint c) : KeepsToInterfaces (readUintOrZero network c) := by
  refine keeps_ask_bind (handled_read network h.fits fun left right halike => ?_) fun _ _ =>
    keeps_pure _ _
  rw [h.uintOrZero_eq halike]

theorem keeps_readAddress (h : FitsAddress c) :
    KeepsToInterfaces (Action.ask (.read network c) >>= fun answer =>
      Action.ofChain (addressOf c answer)) :=
  keeps_ask_ofChain (handled_read network h.fits fun _ _ => h.addressOf_eq) fun _ _ _ => h.tells

/-- The results of a call of which only the first address is looked at. -/
theorem keeps_read_addressAt (h : FitsAddress c) {f : Address → Action α}
    (hf : ∀ address, KeepsToInterfaces (f address)) :
    KeepsToInterfaces (Action.read network c >>= fun tokens =>
      Action.ofChain (addressAt tokens 0 c.function) >>= f) := by
  have hread : (Action.read network c >>= fun tokens =>
      Action.ofChain (addressAt tokens 0 c.function) >>= f) =
      (Action.ask (.read network c) >>= fun answer => Action.ofChain (addressOf c answer)) >>= f := by
    refine (bind_assoc _ _ _).trans (Eq.trans ?_ (bind_assoc _ _ _).symm)
    refine congrArg _ (funext fun answer => ?_)
    cases answer <;> rfl
  rw [hread]
  exact keeps_bind (keeps_readAddress network h) hf

variable {calls : List Call}

theorem handled_readAll {β : Type} {decisive : Call → ReadAnswer → Bool} {f : Gathered → β}
    (hfits : ∀ c ∈ calls, c.Fits)
    (hdecisive : ∀ c ∈ calls, ∀ left right, c.Alike left right →
      decisive c left = decisive c right)
    (hall : ∀ lefts rights, AllAlike calls lefts rights → f (.all lefts) = f (.all rights))
    (hstopped : ∀ c ∈ calls, ∀ left right, decisive c left = true → c.Alike left right →
      f (.stopped c left) = f (.stopped c right)) :
    (Question.readAll network calls decisive).Handled f where
  fits := hfits
  decisive := by
    rintro _ _ _ ⟨⟩
    exact hdecisive
  blind := by
    rintro (lefts | ⟨c, left⟩) (rights | ⟨d, right⟩) hleft hright halike
    · exact hall lefts rights halike
    · cases halike
    · cases halike
    · obtain ⟨rfl, halike⟩ := halike
      exact hstopped c hleft.1 left right hleft.2 halike

/-- Reads none of which ends the others, and what is made of their answers. -/
theorem keeps_readTogether_bind (hfits : ∀ c ∈ calls, c.Fits) {f : List ReadAnswer → Action α}
    (hblind : ∀ lefts rights, AllAlike calls lefts rights → (f lefts).run = (f rights).run)
    (hnext : ∀ answers, answers.length = calls.length →
      Faithful (SomeTells calls answers) (f answers).run) :
    KeepsToInterfaces (readTogether network calls >>= f) := by
  rw [readTogether, bind_assoc]
  refine keeps_ask_bind (handled_readAll network hfits (fun _ _ _ _ _ => rfl) hblind ?_) ?_
  · intro c _ left right hdecisive
    cases hdecisive
  · rintro (answers | ⟨c, answer⟩) hadmits
    · exact hnext answers hadmits
    · cases hadmits.2

theorem mapM_uintOf_eq {lefts rights : List ReadAnswer} (h : AllAlike calls lefts rights)
    (hfits : ∀ c ∈ calls, FitsUint c) :
    ((calls.zip lefts).mapM fun pair => uintOf pair.1 pair.2) =
      (calls.zip rights).mapM fun pair => uintOf pair.1 pair.2 := by
  induction h with
  | nil => rfl
  | cons halike _ ih =>
      obtain ⟨hfirst, hrest⟩ := List.forall_mem_cons.mp hfits
      simp only [List.zip_cons_cons, List.mapM_cons, hfirst.uintOf_eq halike, ih hrest]

/-- The first number that cannot be read is the error of all. -/
theorem exists_of_mapM_error {pairs : List (Call × ReadAnswer)}
    (h : (pairs.mapM fun pair => uintOf pair.1 pair.2) = .error e) :
    ∃ pair ∈ pairs, uintOf pair.1 pair.2 = .error e := by
  induction pairs with
  | nil => cases h
  | cons pair pairs ih =>
      rw [List.mapM_cons] at h
      cases hfirst : uintOf pair.1 pair.2 with
      | error cause =>
          rw [hfirst] at h
          cases h
          exact ⟨pair, List.mem_cons_self, hfirst⟩
      | ok number =>
          rw [hfirst] at h
          cases hrest : pairs.mapM fun pair => uintOf pair.1 pair.2 with
          | ok numbers =>
              simp only [hrest] at h
              cases h
          | error cause =>
              simp only [hrest] at h
              cases h
              obtain ⟨pair, hmem, herror⟩ := ih hrest
              exact ⟨pair, List.mem_cons_of_mem _ hmem, herror⟩

theorem keeps_readUints (h : ∀ c ∈ calls, FitsUint c) :
    KeepsToInterfaces (readUints network calls) := by
  have hnumbers : readUints network calls =
      Action.ask (.readAll network calls fun c answer => !(uintOf c answer).isOk) >>=
        Action.numbersFrom calls := by
    refine congrArg _ (funext fun gathered => ?_)
    cases gathered <;> rfl
  rw [hnumbers]
  refine keeps_ask_bind (handled_readAll network (fun c hc => (h c hc).fits) ?_ ?_ ?_) ?_
  · intro c hc left right halike
    rw [(h c hc).uintOf_eq halike]
  · intro lefts rights halike
    rw [Action.run_numbersFrom, Action.run_numbersFrom, Action.numbersOf, Action.numbersOf,
      mapM_uintOf_eq halike h]
  · intro c hc left right _ halike
    rw [Action.run_numbersFrom, Action.run_numbersFrom, Action.numbersOf, Action.numbersOf,
      (h c hc).uintOf_eq halike]
  · intro gathered hadmits
    rw [Action.run_numbersFrom]
    refine faithful_mapError fun e herror => ?_
    cases gathered with
    | all answers =>
        obtain ⟨pair, hpair, herror⟩ := exists_of_mapM_error herror
        exact ⟨pair, hpair, (h pair.1 (List.of_mem_zip hpair).1).tells herror⟩
    | stopped c answer =>
        refine (h c hadmits.1).tells ?_
        cases hnumber : uintOf c answer with
        | ok number =>
            rw [Action.numbersOf, hnumber] at herror
            cases herror
        | error cause =>
            rw [Action.numbersOf, hnumber] at herror
            cases herror
            rfl

end Reads

section Sends

variable (account : Account)

theorem keeps_requireToken (network : Network) (symbol missing : String) :
    KeepsToInterfaces (requireToken network symbol missing) := by
  unfold requireToken
  cases liquidToken? network symbol with
  | some token => exact keeps_pure token
  | none => exact keeps_refuse nofun

theorem keeps_submit (h : c.Fits) : KeepsToInterfaces (submit account c) :=
  keeps_bind (keeps_simulate _ _ h) fun _ => keeps_write account h

theorem keeps_submitAndConfirm (h : c.Fits) : KeepsToInterfaces (submitAndConfirm account c) :=
  keeps_bind (keeps_submit account h) fun _ => keeps_receipt _ _

theorem fits_approveCall (token spender : Address) (amount : Uint256) :
    (approveCall token spender amount).Fits :=
  ⟨_, rfl, .cons rfl (.cons rfl .nil)⟩

theorem keeps_approve (token spender : Address) (amount : Uint256) :
    KeepsToInterfaces (approve account token spender amount) := by
  refine keeps_bind (keeps_submitAndConfirm account (fits_approveCall ..)) fun receipt => ?_
  split
  · exact keeps_bind (keeps_refuse nofun) fun _ => keeps_pure receipt
  · exact keeps_pure receipt

theorem keeps_withFallback {primary fallback : Action α} (primaryName fallbackName : String)
    (hprimary : KeepsToInterfaces primary) (hfallback : KeepsToInterfaces fallback) :
    KeepsToInterfaces (withFallback primaryName primary fallbackName fallback) := by
  refine keeps_tryCatch (keeps_bind hprimary fun _ => keeps_pure _) fun fault => ?_
  cases fault with
  | crashed reason => exact keeps_crash reason
  | refused cause =>
      refine keeps_tryCatch (keeps_bind hfallback fun _ => keeps_pure _) fun fault => ?_
      cases fault with
      | crashed reason => exact keeps_crash reason
      | refused cause => exact keeps_refuse nofun

end Sends

/-! ## The tools -/

section Answers

variable {calls : List Call} {lefts rights : List ReadAnswer}

theorem alike_answerAt (h : AllAlike calls lefts rights) (i : Nat) (hi : calls[i]? = some c) :
    c.Alike (answerAt lefts i c) (answerAt rights i c) := by
  induction h generalizing i with
  | nil => cases hi
  | @cons first calls left right lefts rights halike _ ih =>
      cases i with
      | zero =>
          obtain rfl := Option.some.inj hi
          exact halike
      | succ i => exact ih i hi

/-- The answer at the place of a call tells what the answers tell. -/
theorem someTells_answerAt {answers : List ReadAnswer} (hlength : answers.length = calls.length)
    (i : Nat) (hi : calls[i]? = some c) (h : c.Tells (answerAt answers i c) e) :
    SomeTells calls answers e := by
  obtain ⟨hcalls, hcall⟩ := List.getElem?_eq_some_iff.mp hi
  have hanswers : i < answers.length := hlength ▸ hcalls
  have hat : answerAt answers i c = answers[i] := by
    rw [answerAt, List.getD_eq_getElem?_getD, List.getElem?_eq_getElem hanswers, Option.getD_some]
  rw [hat] at h
  have hi : i < (calls.zip answers).length := by
    rw [List.length_zip]
    exact Nat.lt_min.mpr ⟨hcalls, hanswers⟩
  refine ⟨(c, answers[i]), List.mem_iff_getElem.mpr ⟨i, hi, ?_⟩, h⟩
  rw [List.getElem_zip, hcall]

end Answers

variable (context : Context) (args : Args)

theorem keeps_stakingPosition : KeepsToInterfaces (stakingPosition.run context args) := by
  refine keeps_bind (keeps_ofArgument _) fun identifier => ?_
  refine keeps_bind (keeps_ofArgument _) fun contract => ?_
  refine keeps_bind (keeps_ofArgument _) fun user => ?_
  refine keeps_bind (keeps_ofArgument _) fun decimals => ?_
  refine keeps_bind (keeps_reader identifier) fun network => ?_
  have hbalance : FitsUint (stakingCall contract "balanceOf" [.address user]) :=
    fitsUint_of_function rfl (.cons rfl .nil) rfl
  have hearned : FitsUint (stakingCall contract "earned" [.address user]) :=
    fitsUint_of_function rfl (.cons rfl .nil) rfl
  have hsupply : FitsUint (stakingCall contract "totalSupply") :=
    fitsUint_of_function rfl .nil rfl
  have hstaking : FitsAddress (stakingCall contract "stakingToken") :=
    fitsAddress_of_function rfl .nil rfl
  have hrewards : FitsAddress (stakingCall contract "rewardsToken") :=
    fitsAddress_of_function rfl .nil rfl
  refine keeps_readTogether_bind network ?_ (fun lefts rights h => ?_) fun answers _ => ?_
  · simp [positionCalls, hbalance.fits, hearned.fits, hsupply.fits, hstaking.fits, hrewards.fits]
  · simp only [hbalance.uintOrZero_eq (alike_answerAt h 0 rfl),
      hearned.uintOrZero_eq (alike_answerAt h 1 rfl), hsupply.uintOrZero_eq (alike_answerAt h 2 rfl),
      hstaking.addressOrNone_eq (alike_answerAt h 3 rfl),
      hrewards.addressOrNone_eq (alike_answerAt h 4 rfl)]
  · exact keeps_bind (keeps_ofOverflow _) (fun _ => keeps_pure _) _

theorem keeps_stakeTokens : KeepsToInterfaces (stakeTokens.run context args) := by
  refine keeps_bind (keeps_ofArgument _) fun identifier => ?_
  refine keeps_bind (keeps_ofArgument _) fun contract => ?_
  refine keeps_bind (keeps_ofArgument _) fun amount => ?_
  refine keeps_bind (keeps_ofArgument _) fun key => ?_
  refine keeps_bind (keeps_reader identifier) fun network => ?_
  refine keeps_bind (keeps_account key identifier) fun account => ?_
  have hstake : (stakingCall contract "stake" [.uint amount]).Fits := ⟨_, rfl, .cons rfl .nil⟩
  exact keeps_bind (keeps_submitAndConfirm account hstake) fun receipt => keeps_pure _

theorem keeps_unstakeTokens : KeepsToInterfaces (unstakeTokens.run context args) := by
  refine keeps_bind (keeps_ofArgument _) fun identifier => ?_
  refine keeps_bind (keeps_ofArgument _) fun contract => ?_
  refine keeps_bind (keeps_ofArgument _) fun amount => ?_
  refine keeps_bind (keeps_ofArgument _) fun key => ?_
  refine keeps_bind (keeps_reader identifier) fun network => ?_
  refine keeps_bind (keeps_account key identifier) fun account => ?_
  have hunstake : (stakingCall contract "unstake" [.uint amount]).Fits := ⟨_, rfl, .cons rfl .nil⟩
  have hwithdraw : (stakingCall contract "withdraw").Fits := ⟨_, rfl, .nil⟩
  refine keeps_bind (keeps_withFallback _ _ (keeps_submit account hunstake)
    (keeps_submit account hwithdraw)) fun sent => ?_
  exact keeps_bind (keeps_receipt _ _) fun receipt => keeps_pure _

theorem keeps_claimRewards : KeepsToInterfaces (claimRewards.run context args) := by
  refine keeps_bind (keeps_ofArgument _) fun identifier => ?_
  refine keeps_bind (keeps_ofArgument _) fun contract => ?_
  refine keeps_bind (keeps_ofArgument _) fun key => ?_
  refine keeps_bind (keeps_reader identifier) fun network => ?_
  refine keeps_bind (keeps_account key identifier) fun account => ?_
  have hearned : FitsUint (stakingCall contract "earned" [.address account.address]) :=
    fitsUint_of_function rfl (.cons rfl .nil) rfl
  refine keeps_bind (keeps_readUintOrZero network hearned) fun pending => ?_
  have hclaim : (stakingCall contract "claimRewards").Fits := ⟨_, rfl, .nil⟩
  have hget : (stakingCall contract "getReward").Fits := ⟨_, rfl, .nil⟩
  split
  · exact keeps_pure _
  · refine keeps_bind (keeps_withFallback _ _ (keeps_submit account hclaim)
      (keeps_submit account hget)) fun sent => ?_
    exact keeps_bind (keeps_receipt _ _) fun receipt => keeps_pure _

theorem keeps_stakingRate : KeepsToInterfaces (stakingRate.run context args) := by
  refine keeps_bind (keeps_ofArgument _) fun identifier => ?_
  refine keeps_bind (keeps_ofArgument _) fun contract => ?_
  refine keeps_bind (keeps_reader identifier) fun network => ?_
  have hrate : FitsUint (stakingCall contract "rewardRate") := fitsUint_of_function rfl .nil rfl
  have hsupply : FitsUint (stakingCall contract "totalSupply") := fitsUint_of_function rfl .nil rfl
  refine keeps_readTogether_bind network ?_ (fun lefts rights h => ?_) fun answers _ => ?_
  · simp [hrate.fits, hsupply.fits]
  · simp only [hrate.uintOrZero_eq (alike_answerAt h 0 rfl),
      hsupply.uintOrZero_eq (alike_answerAt h 1 rfl)]
  · exact keeps_bind (keeps_ofOverflow _) (fun _ => keeps_pure _) _

theorem keeps_stakingDirectory : KeepsToInterfaces (stakingDirectory.run context args) := by
  refine keeps_bind (keeps_ofArgument _) fun identifier => ?_
  exact keeps_bind (keeps_reader identifier) fun network => keeps_pure _

theorem keeps_stakeEther : KeepsToInterfaces (stakeEther.run context args) := by
  refine keeps_bind (keeps_ofArgument _) fun identifier => ?_
  refine keeps_bind (keeps_ofArgument _) fun amount => ?_
  refine keeps_bind (keeps_ofArgument _) fun referral => ?_
  refine keeps_bind (keeps_ofArgument _) fun key => ?_
  refine keeps_bind (keeps_reader identifier) fun network => ?_
  refine keeps_bind (keeps_account key identifier) fun account => ?_
  refine keeps_bind (keeps_requireToken network _ _) fun steth => ?_
  have hbalance : FitsUint (stethCall steth "balanceOf" [.address account.address]) :=
    fitsUint_of_function rfl (.cons rfl .nil) rfl
  have hdeposit : (depositCall steth referral amount).Fits := ⟨_, rfl, .cons rfl .nil⟩
  refine keeps_bind (keeps_readUint network hbalance) fun before => ?_
  refine keeps_bind (keeps_submitAndConfirm account hdeposit) fun receipt => ?_
  exact keeps_bind (keeps_readUintOrZero network hbalance) fun after => keeps_pure _

theorem keeps_wrapSteth : KeepsToInterfaces (wrapSteth.run context args) := by
  refine keeps_bind (keeps_ofArgument _) fun identifier => ?_
  refine keeps_bind (keeps_ofArgument _) fun amount => ?_
  refine keeps_bind (keeps_ofArgument _) fun key => ?_
  refine keeps_bind (keeps_reader identifier) fun network => ?_
  refine keeps_bind (keeps_account key identifier) fun account => ?_
  refine keeps_bind (keeps_requireToken network _ _) fun wsteth => ?_
  have hwrap : (wstethCall wsteth "wrap" [.uint amount]).Fits := ⟨_, rfl, .cons rfl .nil⟩
  have hexpected : FitsUint (wstethCall wsteth "getWstETHByStETH" [.uint amount]) :=
    fitsUint_of_function rfl (.cons rfl .nil) rfl
  refine keeps_bind ?_ fun approval => ?_
  · cases liquidToken? network "stETH" with
    | none => exact keeps_pure none
    | some steth =>
        exact keeps_bind (keeps_approve account steth wsteth amount) fun _ => keeps_pure _
  · refine keeps_bind (keeps_submitAndConfirm account hwrap) fun receipt => ?_
    exact keeps_bind (keeps_readUintOrZero network hexpected) fun expected => keeps_pure _

theorem keeps_unwrapWsteth : KeepsToInterfaces (unwrapWsteth.run context args) := by
  refine keeps_bind (keeps_ofArgument _) fun identifier => ?_
  refine keeps_bind (keeps_ofArgument _) fun amount => ?_
  refine keeps_bind (keeps_ofArgument _) fun key => ?_
  refine keeps_bind (keeps_reader identifier) fun network => ?_
  refine keeps_bind (keeps_account key identifier) fun account => ?_
  refine keeps_bind (keeps_requireToken network _ _) fun wsteth => ?_
  have hexpected : FitsUint (wstethCall wsteth "getStETHByWstETH" [.uint amount]) :=
    fitsUint_of_function rfl (.cons rfl .nil) rfl
  have hunwrap : (wstethCall wsteth "unwrap" [.uint amount]).Fits := ⟨_, rfl, .cons rfl .nil⟩
  refine keeps_bind (keeps_readUint network hexpected) fun expected => ?_
  exact keeps_bind (keeps_submitAndConfirm account hunwrap) fun receipt => keeps_pure _

theorem keeps_lidoStats : KeepsToInterfaces (lidoStats.run context args) := by
  refine keeps_bind (keeps_ofArgument _) fun identifier => ?_
  refine keeps_bind (keeps_reader identifier) fun network => ?_
  refine keeps_bind (keeps_requireToken network _ _) fun steth => ?_
  refine keeps_bind (keeps_readUints network ?_) fun numbers => keeps_pure _
  have hpooled : FitsUint (stethCall steth "getTotalPooledEther") :=
    fitsUint_of_function rfl .nil rfl
  have hshares : FitsUint (stethCall steth "getTotalShares") := fitsUint_of_function rfl .nil rfl
  have hquote : ∀ token, FitsUint (wstethCall token "stEthPerToken") := fun _ =>
    fitsUint_of_function rfl .nil rfl
  cases liquidToken? network "wstETH" <;> simp [hpooled, hshares, hquote]

theorem keeps_liquidDirectory : KeepsToInterfaces (liquidDirectory.run context args) := by
  refine keeps_bind (keeps_ofArgument _) fun identifier => ?_
  exact keeps_bind (keeps_reader identifier) fun network => keeps_pure _

theorem keeps_stakePairTokens : KeepsToInterfaces (stakePairTokens.run context args) := by
  refine keeps_bind (keeps_ofArgument _) fun identifier => ?_
  refine keeps_bind (keeps_ofArgument _) fun farm => ?_
  refine keeps_bind (keeps_ofArgument _) fun pool => ?_
  refine keeps_bind (keeps_ofArgument _) fun amount => ?_
  refine keeps_bind (keeps_ofArgument _) fun key => ?_
  refine keeps_bind (keeps_reader identifier) fun network => ?_
  refine keeps_bind (keeps_account key identifier) fun account => ?_
  have hinfo : FitsAddress (farmCall farm "poolInfo" [poolToken pool]) :=
    fitsAddress_of_function rfl (.cons rfl .nil) rfl
  have hdeposit : (farmCall farm "deposit" [poolToken pool, .uint amount]).Fits :=
    ⟨_, rfl, .cons rfl (.cons rfl .nil)⟩
  refine keeps_read_addressAt network hinfo fun pairToken => ?_
  refine keeps_bind (keeps_approve account pairToken farm amount) fun approval => ?_
  exact keeps_bind (keeps_submitAndConfirm account hdeposit) fun receipt => keeps_pure _

theorem keeps_withdrawPairTokens : KeepsToInterfaces (withdrawPairTokens.run context args) := by
  refine keeps_bind (keeps_ofArgument _) fun identifier => ?_
  refine keeps_bind (keeps_ofArgument _) fun farm => ?_
  refine keeps_bind (keeps_ofArgument _) fun pool => ?_
  refine keeps_bind (keeps_ofArgument _) fun amount => ?_
  refine keeps_bind (keeps_ofArgument _) fun key => ?_
  refine keeps_bind (keeps_reader identifier) fun network => ?_
  refine keeps_bind (keeps_account key identifier) fun account => ?_
  have hwithdraw : (farmCall farm "withdraw" [poolToken pool, .uint amount]).Fits :=
    ⟨_, rfl, .cons rfl (.cons rfl .nil)⟩
  exact keeps_bind (keeps_submitAndConfirm account hwithdraw) fun receipt => keeps_pure _

section Farm

variable {identifier : String} {farm user : Address} {pool : Nat}

theorem fits_userInfo : (farmCall farm "userInfo" [poolToken pool, .address user]).Fits :=
  ⟨_, rfl, .cons rfl (.cons rfl .nil)⟩

theorem fits_poolInfo : (farmCall farm "poolInfo" [poolToken pool]).Fits :=
  ⟨_, rfl, .cons rfl .nil⟩

theorem declaresUint_userInfo {i : Nat} (hi : i < 2) :
    (farmCall farm "userInfo" [poolToken pool, .address user]).DeclaresUint i := by
  refine ⟨_, rfl, .uint256, List.mem_cons_self, ?_⟩
  obtain rfl | rfl : i = 0 ∨ i = 1 := by omega
  all_goals rfl

theorem declaresAddress_poolInfo : (farmCall farm "poolInfo" [poolToken pool]).DeclaresAddress 0 :=
  ⟨_, rfl, .address, List.mem_cons_self, rfl⟩

theorem declaresUint_poolInfo : (farmCall farm "poolInfo" [poolToken pool]).DeclaresUint 1 :=
  ⟨_, rfl, .uint256, List.mem_cons_self, rfl⟩

/-- Both answers about a farm are looked at in declared results only. -/
theorem farmResult_alike (pending : Uint256) {userLeft userRight poolLeft poolRight : ReadAnswer}
    (huser : (farmCall farm "userInfo" [poolToken pool, .address user]).Alike userLeft userRight)
    (hpool : (farmCall farm "poolInfo" [poolToken pool]).Alike poolLeft poolRight) :
    farmResult identifier farm pool user pending userLeft poolLeft =
      farmResult identifier farm pool user pending userRight poolRight := by
  cases huser with
  | error e => rfl
  | @ok left right huser =>
      have hstaked : uintAt left 0 "userInfo" = uintAt right 0 "userInfo" :=
        huser.uints 0 (declaresUint_userInfo (by decide))
      have hdebt : uintAt left 1 "userInfo" = uintAt right 1 "userInfo" :=
        huser.uints 1 (declaresUint_userInfo (by decide))
      cases hpool with
      | error e => rfl
      | @ok poolLeft poolRight hpool =>
          have htoken : addressAt poolLeft 0 "poolInfo" = addressAt poolRight 0 "poolInfo" :=
            hpool.addresses 0 declaresAddress_poolInfo
          have hpoints : uintAt poolLeft 1 "poolInfo" = uintAt poolRight 1 "poolInfo" :=
            hpool.uints 1 declaresUint_poolInfo
          simp only [farmResult, bind, Except.bind, hstaked, hdebt, htoken, hpoints]

/-- Where both answers have their declared results, there is a report. -/
theorem exists_farmResult (pending : Uint256) {userInfo poolInfo : List Abi.Token}
    (huser : (farmCall farm "userInfo" [poolToken pool, .address user]).Readable userInfo)
    (hpool : (farmCall farm "poolInfo" [poolToken pool]).Readable poolInfo) :
    ∃ report, farmResult identifier farm pool user pending (.ok userInfo) (.ok poolInfo) =
      .ok report := by
  obtain ⟨staked, hstaked⟩ := huser.uints 0 (declaresUint_userInfo (by decide))
  obtain ⟨debt, hdebt⟩ := huser.uints 1 (declaresUint_userInfo (by decide))
  obtain ⟨token, htoken⟩ := hpool.addresses 0 declaresAddress_poolInfo
  obtain ⟨points, hpoints⟩ := hpool.uints 1 declaresUint_poolInfo
  simp only [farmCall] at hstaked hdebt htoken hpoints
  exact ⟨_, by simp only [farmResult, bind, Except.bind, hstaked, hdebt, htoken, hpoints]; rfl⟩

theorem tells_of_farmResult {pending : Uint256} {userAnswer poolAnswer : ReadAnswer}
    (h : farmResult identifier farm pool user pending userAnswer poolAnswer = .error e) :
    (farmCall farm "userInfo" [poolToken pool, .address user]).Tells userAnswer e ∨
      (farmCall farm "poolInfo" [poolToken pool]).Tells poolAnswer e := by
  cases userAnswer with
  | error cause =>
      cases h
      exact .inl (.inl rfl)
  | ok userInfo =>
      cases poolAnswer with
      | error cause =>
          cases h
          exact .inr (.inl rfl)
      | ok poolInfo =>
          by_cases huser :
            (farmCall farm "userInfo" [poolToken pool, .address user]).Readable userInfo
          · refine .inr (.inr ⟨poolInfo, rfl, fun hpool => ?_⟩)
            obtain ⟨report, hreport⟩ := exists_farmResult pending huser hpool
            cases hreport.symm.trans h
          · exact .inl (.inr ⟨userInfo, rfl, huser⟩)

end Farm

theorem keeps_farmingPosition : KeepsToInterfaces (farmingPosition.run context args) := by
  refine keeps_bind (keeps_ofArgument _) fun identifier => ?_
  refine keeps_bind (keeps_ofArgument _) fun farm => ?_
  refine keeps_bind (keeps_ofArgument _) fun pool => ?_
  refine keeps_bind (keeps_ofArgument _) fun user => ?_
  refine keeps_bind (keeps_reader identifier) fun network => ?_
  have hpending : FitsUint (farmCall farm "pendingReward" [poolToken pool, .address user]) :=
    fitsUint_of_function rfl (.cons rfl (.cons rfl .nil)) rfl
  -- What is made of the answers is the result that the report has.
  have hrun := fun answers : List ReadAnswer =>
    let userCall := farmCall farm "userInfo" [poolToken pool, .address user]
    let poolCall := farmCall farm "poolInfo" [poolToken pool]
    let pendingCall := farmCall farm "pendingReward" [poolToken pool, .address user]
    @run_farmResult identifier farm pool user
      (uintOrZero pendingCall (answerAt answers 2 pendingCall))
      (answerAt answers 0 userCall) (answerAt answers 1 poolCall)
  refine keeps_readTogether_bind network ?_ (fun lefts rights h => ?_) fun answers hlength => ?_
  · simp [fits_userInfo, fits_poolInfo, hpending.fits]
  · refine (hrun lefts).trans (Eq.trans ?_ (hrun rights).symm)
    rw [hpending.uintOrZero_eq (alike_answerAt h 2 rfl),
      farmResult_alike _ (alike_answerAt h 0 rfl) (alike_answerAt h 1 rfl)]
  · refine Eq.subst (hrun answers).symm (faithful_mapError fun e herror => ?_)
    rcases tells_of_farmResult herror with htells | htells
    · exact someTells_answerAt hlength 0 rfl htells
    · exact someTells_answerAt hlength 1 rfl htells

theorem keeps_of_mem {tool : Tool} (htool : tool ∈ catalogue) :
    KeepsToInterfaces (tool.run context args) := by
  simp only [catalogue, List.mem_cons, List.not_mem_nil, or_false] at htool
  rcases htool with
    rfl | rfl | rfl | rfl | rfl | rfl | rfl | rfl | rfl | rfl | rfl | rfl | rfl | rfl
  · exact keeps_stakingPosition context args
  · exact keeps_stakeTokens context args
  · exact keeps_unstakeTokens context args
  · exact keeps_claimRewards context args
  · exact keeps_stakingRate context args
  · exact keeps_stakingDirectory context args
  · exact keeps_stakeEther context args
  · exact keeps_wrapSteth context args
  · exact keeps_unwrapWsteth context args
  · exact keeps_lidoStats context args
  · exact keeps_liquidDirectory context args
  · exact keeps_stakePairTokens context args
  · exact keeps_withdrawPairTokens context args
  · exact keeps_farmingPosition context args

theorem keeps_invoke (name : String) (args : Json) :
    KeepsToInterfaces (registry.invoke context name args) := by
  unfold Registry.invoke
  cases hget : registry.get? name with
  | none => exact keeps_refuse nofun
  | some tool =>
      have htool : tool ∈ catalogue := (mem_catalogue_of_get? hget).1
      cases hargs : validate tool.params args with
      | error issues =>
          simp only [hargs]
          exact keeps_refuse nofun
      | ok accepted =>
          simp only [hargs]
          exact keeps_of_mem context accepted htool

end Operation

end StakingGateway
