import StakingGateway.Node.Endpoint
import StakingGateway.Proofs.HeldChains
import StakingGateway.Proofs.InterfaceUse
import StakingGateway.Proofs.SentAsSimulated

/-!
# Encoding errors behind nodes

Tools keep to the interfaces of contracts over every chain. Where nodes answer, the data of every
call is there and what a node gives back is decoded before a tool sees it, so that only data that
cannot be decoded is left as a cause of an encoding error.
-/

namespace StakingGateway

namespace Chain

open Contract Tool

def Event.call? : Event → Option Call
  | .read _ c _ | .simulate _ _ c _ | .write _ c _ => some c
  | .reader .. | .account .. | .receipt .. => none

def Event.Fails : Event → Error → Prop
  | .reader _ answer, e => answer = .error e
  | .account _ _ answer, e => answer = .error e
  | .read _ _ answer, e => answer = .error e
  | .simulate _ _ _ answer, e => answer = .error e
  | .write _ _ answer, e => answer = .error e
  | .receipt _ _ answer, e => answer = .error e

/-- The answer in the interaction is this error, or it is a read that lacks a declared result. -/
def Event.Tells (event : Event) (e : Error) : Prop :=
  event.Fails e ∨ ∃ network c tokens, event = .read network c (.ok tokens) ∧ ¬ c.Readable tokens

structure Heard (question : Question) (answer : question.Answer) (events : List Event) : Prop where
  admits : question.Admits answer
  calls : ∀ event ∈ events, ∀ c, event.call? = some c → c ∈ question.calls
  told : ∀ e, question.Tells answer e → ∃ event ∈ events, event.Tells e

theorem tells_read {network : Network} {c : Call} {answer : ReadAnswer} {e : Error}
    (h : c.Tells answer e) : (Event.read network c answer).Tells e := by
  rcases h with rfl | ⟨tokens, rfl, hlacks⟩
  · exact .inl rfl
  · exact .inr ⟨network, c, tokens, rfl, hlacks⟩

section Respond

variable {σ : Type} (chain : Chain (StateM σ)) {schedule : Schedule}

theorem heard_singleton {question : Question} {answer : question.Answer} {event : Event}
    (hadmits : question.Admits answer) (hcall : ∀ c, event.call? = some c → c ∈ question.calls)
    (htold : ∀ e, question.Tells answer e → event.Tells e) : Heard question answer [event] where
  admits := hadmits
  calls := List.forall_mem_singleton.mpr hcall
  told e h := ⟨event, List.mem_cons_self, htold e h⟩

theorem heard_gathering {network : Network} {calls : List Call}
    {decisive : Call → ReadAnswer → Bool} {gathered : Gathered} {events : List Event}
    (h : Gathering network calls decisive gathered events)
    (hevents : ∀ event ∈ events, ∃ c ∈ calls, ∃ answer, event = .read network c answer) :
    Heard (.readAll network calls decisive) gathered events where
  admits := by
    cases h with
    | all hlength _ _ => exact hlength
    | stopped hcall _ hdecisive => exact ⟨hcall, hdecisive⟩
  calls event hevent c hc := by
    obtain ⟨d, hd, answer, rfl⟩ := hevents event hevent
    obtain rfl := Option.some.inj hc
    exact hd
  told e htells := by
    cases h with
    | all hlength hperm _ =>
        obtain ⟨⟨c, answer⟩, hpair, htells⟩ := htells
        refine ⟨.read network c answer, hperm.mem_iff.mpr ?_, tells_read htells⟩
        rw [← List.map_uncurry_zip_eq_zipWith]
        exact List.mem_map_of_mem hpair
    | stopped _ hevent _ => exact ⟨_, hevent, tells_read htells⟩

theorem heard_respond (hcomplete : schedule.Complete) (question : Question) (s : σ) :
    Heard question (chain.respond schedule question s).1.1
      (chain.respond schedule question s).1.2 := by
  cases question with
  | readAll network calls decisive =>
      exact heard_gathering (chain.gathering_readInOrder (hcomplete calls.length) s) fun event h =>
        (chain.events_readInOrder network calls decisive (schedule calls.length) [] s event h).1
  | read network c =>
      exact heard_singleton trivial (fun d hd => List.mem_singleton.mpr (Option.some.inj hd).symm)
        fun e => tells_read
  | simulate network sender c =>
      exact heard_singleton trivial (fun d hd => List.mem_singleton.mpr (Option.some.inj hd).symm)
        fun e => .inl
  | write account c =>
      exact heard_singleton trivial (fun d hd => List.mem_singleton.mpr (Option.some.inj hd).symm)
        fun e => .inl
  | reader identifier =>
      have hrespond : chain.respond schedule (.reader identifier) s =
          ((chain.openReader identifier, [.reader identifier (chain.openReader identifier)]), s) :=
        rfl
      rw [hrespond]
      generalize chain.openReader identifier = answer
      exact heard_singleton trivial nofun fun e => .inl
  | account key identifier =>
      have hrespond : chain.respond schedule (.account key identifier) s =
          ((chain.openAccount key identifier,
            [.account key identifier (chain.openAccount key identifier)]), s) := rfl
      rw [hrespond]
      generalize chain.openAccount key identifier = answer
      exact heard_singleton trivial nofun fun e => .inl
  | receipt network hash => exact heard_singleton trivial nofun fun e => .inl

end Respond

/-- A run of a faithful program: its calls fit, and an encoding error at the end was told. -/
theorem told_of_course {α : Type} {told : Error → Prop} {program : Program (Except Fault α)}
    (h : Faithful told program) {result : Except Fault α} {events : List Event}
    (hcourse : program.Course Heard result events) :
    (∀ event ∈ events, ∀ c, event.call? = some c → c.Fits) ∧
      ∀ e, result = .error (.refused (.chain e)) → e.kind = "abi" →
        told e ∨ ∃ event ∈ events, event.Tells e := by
  induction program generalizing told events with
  | done value =>
      obtain ⟨rfl, rfl⟩ := hcourse
      refine ⟨fun _ hevent => absurd hevent List.not_mem_nil, fun e hresult hkind => ?_⟩
      exact .inl (h e hresult hkind)
  | ask question next ih =>
      obtain ⟨answer, first, rest, hheard, hrest, rfl⟩ := hcourse
      obtain ⟨hhandled, hnext⟩ := h
      obtain ⟨hfits, htold⟩ := ih answer (hnext answer hheard.admits) hrest
      constructor
      · refine List.forall_mem_append.mpr ⟨fun event hevent c hc => ?_, hfits⟩
        exact hhandled.fits c (hheard.calls event hevent c hc)
      · intro e hresult hkind
        rcases htold e hresult hkind with (hbefore | hanswer) | ⟨event, hevent, htells⟩
        · exact .inl hbefore
        · obtain ⟨event, hevent, htells⟩ := hheard.told e hanswer
          exact .inr ⟨event, List.mem_append_left _ hevent, htells⟩
        · exact .inr ⟨event, List.mem_append_right _ hevent, htells⟩

end Chain

namespace Node

open Contract Settings

variable {σ : Type} {nodes : Nodes σ}

/-- A read of which the node has given back data that cannot be decoded. -/
inductive Undecodable (config : Config) (nodes : Nodes σ) : Chain.Event → Chain.Error → Prop
  | read {network : Network} {c : Call} {message : Message} {state : σ} {data : List UInt8}
      {e : Chain.Error} (hmessage : Message.ofCall none c = .ok message)
      (hgiven : (Question.call message).resultOf
        (nodes ⟨network, config.endpoint network⟩ (.call message) state).1 = .ok data)
      (hdecoded : c.decodeOutput data = .error e) :
      Undecodable config nodes (.read network c (.error e)) e

/-- However the nodes answer, the session does not end with an encoding error. -/
def NoAbiError {α : Type} : Session (Except Chain.Error α) → Prop
  | .done result => ∀ e, result = .error e → e.kind ≠ "abi"
  | .ask _ next => ∀ answer, NoAbiError (next answer)

variable {α : Type} {client : Client}

theorem NoAbiError.outcome {session : Session (Except Chain.Error α)} (h : NoAbiError session)
    {world : World σ} {e : Chain.Error} (he : (nodes.outcome session world).1 = .error e) :
    e.kind ≠ "abi" := by
  induction session generalizing world with
  | done result => exact h e he
  | ask step next ih => exact ih _ (h _) he

theorem noAbiError_ok (value : α) : NoAbiError (.done (.ok value)) := by
  rintro _ ⟨⟩

theorem noAbiError_ask {question : Question} {failure : Error → Chain.Error}
    {next : question.Result → Session (Except Chain.Error α)}
    (hfailure : ∀ e, (failure e).kind ≠ "abi") (hnext : ∀ result, NoAbiError (next result)) :
    NoAbiError (ask client question failure next) := by
  intro reply
  cases hresult : question.resultOf reply with
  | ok result =>
      simp only [hresult]
      exact hnext result
  | error cause =>
      simp only [hresult]
      rintro _ ⟨⟩
      exact hfailure cause

theorem noAbiError_simulate {sender : Address} {c : Call} (h : c.Fits) :
    NoAbiError (simulate client sender c) := by
  obtain ⟨data, hdata⟩ := calldata_of_fits h
  simp only [simulate, ofCall_of_calldata (some sender) hdata]
  exact noAbiError_ask (fun _ => by simp [Chain.Error.kind]) fun _ => noAbiError_ok ()

theorem noAbiError_write {sender : Address} {c : Call} (h : c.Fits) :
    NoAbiError (write client sender c) := by
  obtain ⟨data, hdata⟩ := calldata_of_fits h
  simp only [write, ofCall_of_calldata (some sender) hdata]
  have hfailure : ∀ e : Error, (Chain.Error.notSubmitted c.function e.message).kind ≠ "abi" :=
    fun _ => by simp [Chain.Error.kind]
  refine noAbiError_ask hfailure fun nonce => noAbiError_ask hfailure fun gasPrice => ?_
  exact noAbiError_ask hfailure fun gas => noAbiError_ask hfailure noAbiError_ok

section Receipts

variable {timing : Timing} {hash : TxHash}

theorem noAbiError_look {missing : Session (Except Chain.Error Chain.Receipt)}
    (hmissing : NoAbiError missing) : NoAbiError (look client hash missing) := by
  refine noAbiError_ask (fun _ => by simp [Chain.Error.kind]) fun found => ?_
  cases found with
  | none => exact hmissing
  | some receipt => exact noAbiError_ok (receipt.report hash)

theorem noAbiError_giveUp (deadline : Ticket) : NoAbiError (giveUp timing hash deadline) := by
  rintro _ _ ⟨⟩
  simp [Chain.Error.kind]

theorem noAbiError_lookAgain (deadline : Ticket) (looks : Nat) (next : Ticket) :
    NoAbiError (lookAgain timing client hash deadline looks next) := by
  -- Every further look waits under a ticket of its own.
  induction looks generalizing next with
  | zero => exact noAbiError_giveUp deadline
  | succ looks ih =>
      rw [lookAgain]
      split
      · exact noAbiError_giveUp deadline
      · exact fun _ => noAbiError_look ih

theorem noAbiError_awaitReceipt : NoAbiError (awaitReceipt timing client hash) :=
  noAbiError_look fun next deadline => noAbiError_lookAgain deadline _ next

end Receipts

/-- The outcome of a read of a call with data: what was given back is decoded. -/
theorem outcome_read (client : Client) {c : Call} (h : c.Fits) (world : World σ) :
    (∃ message data state, Message.ofCall none c = .ok message ∧
      (Question.call message).resultOf (nodes client (.call message) state).1 = .ok data ∧
      (nodes.outcome (read client c) world).1 = c.decodeOutput data) ∨
    ∃ reason, (nodes.outcome (read client c) world).1 = .error (.callFailed c.function reason) := by
  obtain ⟨data, hdata⟩ := calldata_of_fits h
  have hmessage := ofCall_of_calldata none hdata
  have houtcome : (nodes.outcome (read client c) world).1 =
      (nodes.hear (read client c) world).1 := rfl
  rw [houtcome]
  simp only [read, hmessage]
  rcases hear_ask_cases client (.call ⟨none, c.target, data, c.value⟩)
    (fun e => .callFailed c.function e.message) fun data => .done (c.decodeOutput data) with
    ⟨given, later, hgiven, hheard⟩ | ⟨e, -, hheard⟩
  · exact .inl ⟨_, given, world.nodes, rfl, hgiven, congrArg Prod.fst hheard⟩
  · exact .inr ⟨e.message, congrArg Prod.fst hheard⟩

theorem openReader_kind {config : Config} {identifier : String} {e : Chain.Error}
    (h : (configured config).openReader identifier = .error e) : e.kind ≠ "abi" := by
  unfold Chain.openReader at h
  cases hresolve : Network.resolve? identifier with
  | none =>
      rw [hresolve] at h
      obtain rfl := Except.error.inj h
      simp [Chain.Error.kind]
  | some network =>
      simp only [hresolve, configured, chain, reach] at h
      cases hcheck : Url.check (config.endpoint network) with
      | ok _ =>
          rw [hcheck] at h
          cases h
      | error cause =>
          rw [hcheck] at h
          obtain rfl := Except.error.inj h
          simp [Chain.Error.kind]

theorem openAccount_kind {config : Config} {key identifier : String} {e : Chain.Error}
    (h : (configured config).openAccount key identifier = .error e) : e.kind ≠ "abi" := by
  cases hreader : (configured config).openReader identifier with
  | error cause =>
      simp only [Chain.openAccount, hreader] at h
      obtain rfl := Except.error.inj h
      exact openReader_kind hreader
  | ok network =>
      obtain ⟨cause, -, rfl⟩ := Chain.openAccount_eq_error hreader h
      simp [Chain.Error.kind]

section Given

variable {config : Config} {event : Chain.Event} {e : Chain.Error}

/-- Behind nodes, only the data that a node gives back can be a cause of an encoding error. -/
theorem undecodable_of_gives (hgives : ((configured config).heldBy nodes).Gives event)
    (hfits : ∀ c, event.call? = some c → c.Fits) (hfails : event.Fails e) (hkind : e.kind = "abi") :
    Undecodable config nodes event e := by
  cases event with
  | reader identifier answer =>
      rw [Chain.Gives, Chain.openReader_heldBy] at hgives
      exact absurd hkind (openReader_kind (hgives.symm.trans hfails))
  | account key identifier answer =>
      rw [Chain.Gives, Chain.openAccount_heldBy] at hgives
      exact absurd hkind (openAccount_kind (hgives.symm.trans hfails))
  | read network c answer =>
      obtain ⟨world, hanswer⟩ := hgives
      obtain rfl : answer = .error e := hfails
      rcases outcome_read ⟨network, config.endpoint network⟩ (hfits c rfl) world with
        ⟨message, data, state, hmessage, hgiven, houtcome⟩ | ⟨reason, houtcome⟩
      · exact .read hmessage hgiven (houtcome.symm.trans hanswer)
      · cases houtcome.symm.trans hanswer
        simp [Chain.Error.kind] at hkind
  | simulate network sender c answer =>
      obtain ⟨world, hanswer⟩ := hgives
      exact absurd hkind ((noAbiError_simulate (hfits c rfl)).outcome (hanswer.trans hfails))
  | write account c answer =>
      obtain ⟨world, hanswer⟩ := hgives
      exact absurd hkind ((noAbiError_write (hfits c rfl)).outcome (hanswer.trans hfails))
  | receipt network hash answer =>
      obtain ⟨world, hanswer⟩ := hgives
      exact absurd hkind (noAbiError_awaitReceipt.outcome (hanswer.trans hfails))

/-- What was decoded has every declared result. -/
theorem readable_of_gives {network : Network} {c : Call} {tokens : List Abi.Token}
    (hgives : ((configured config).heldBy nodes).Gives (.read network c (.ok tokens)))
    (hfits : c.Fits) : c.Readable tokens := by
  obtain ⟨world, hanswer⟩ := hgives
  rcases outcome_read ⟨network, config.endpoint network⟩ hfits world with
    ⟨message, data, state, -, -, houtcome⟩ | ⟨reason, houtcome⟩
  · exact readable_of_decodeOutput (houtcome.symm.trans hanswer)
  · cases houtcome.symm.trans hanswer

theorem undecodable_of_tells (hgives : ((configured config).heldBy nodes).Gives event)
    (hfits : ∀ c, event.call? = some c → c.Fits) (htells : event.Tells e) (hkind : e.kind = "abi") :
    Undecodable config nodes event e := by
  rcases htells with hfails | ⟨network, c, tokens, rfl, hlacks⟩
  · exact undecodable_of_gives hgives hfits hfails hkind
  · exact absurd (readable_of_gives hgives (hfits c rfl)) hlacks

end Given

end Node

namespace Operation

open Tool Chain Contract Node Settings

theorem eq_chain_of_kind {cause : Tool.Error} (h : cause.kind = "abi") : ∃ e, cause = .chain e := by
  cases cause <;> first | exact ⟨_, rfl⟩ | simp [Tool.Error.kind] at h

/-- Every tool keeps to the interfaces of contracts, whatever the chain answers. A call that fits has
data, from which its arguments are recovered, and bytes that are decoded give all declared results.
So behind nodes an encoding error, in an interaction or in an envelope, is that of data which a node
gave back and which cannot be decoded. -/
theorem calls_match_interfaces (context : Context) (name : String) (args : Json) :
    KeepsToInterfaces (registry.invoke context name args) ∧
    (∀ c : Call, c.Fits → ∃ f words, c.Encoded f words) ∧
    (∀ (c : Call) data tokens, c.decodeOutput data = .ok tokens → c.Readable tokens) ∧
    ∀ (config : Config) (schedule : Schedule), schedule.Complete →
      ∀ {σ : Type} (nodes : Nodes σ) (state : σ),
        let program := registry.call context name args
        let held := (nodes.hold ((configured config).run schedule program) state).1.1
        (∀ event ∈ held.2, ∀ c, event.call? = some c → c.Fits) ∧
        (∀ event ∈ held.2, ∀ e, event.Fails e → e.kind = "abi" → Undecodable config nodes event e) ∧
        ∀ envelope error, held.1 = .ok envelope → envelope.error = some error →
          error.kind = "abi" →
          ∃ event ∈ held.2, ∃ e, Undecodable config nodes event e ∧ error.message = e.message := by
  have hkeeps := keeps_invoke context name args
  refine ⟨hkeeps, fun _ => encoded_of_fits, fun _ _ _ => readable_of_decodeOutput, ?_⟩
  intro config schedule hcomplete σ nodes state program held
  let chain := (configured config).heldBy nodes
  have hheld : held = (chain.run schedule program { nodes := state }).1 :=
    (configured config).hold_run nodes schedule program state
  have hcourse : program.Course Heard held.1 held.2 := by
    rw [hheld]
    exact Dialogue.course_hold (chain.heard_respond hcomplete) program _
  have hgives : ∀ event ∈ held.2, chain.Gives event := by
    rw [hheld]
    exact chain.gives_of_mem_run schedule program _
  obtain ⟨result, hinvoke, hresult⟩ := Registry.course_call hcourse
  obtain ⟨hfits, htold⟩ := told_of_course (hkeeps fun _ => False) hinvoke
  refine ⟨hfits, fun event hevent e hfails hkind => ?_, ?_⟩
  · exact undecodable_of_gives (hgives event hevent) (hfits event hevent) hfails hkind
  · intro envelope error henvelope herror hkind
    rw [hresult] at henvelope
    rcases result with (cause | reason) | data
    · cases henvelope
      cases herror
      obtain ⟨e, rfl⟩ := eq_chain_of_kind hkind
      obtain ⟨event, hevent, htells⟩ := (htold e rfl hkind).resolve_left id
      exact ⟨event, hevent, e,
        undecodable_of_tells (hgives event hevent) (hfits event hevent) htells hkind, rfl⟩
    · cases henvelope
    · cases henvelope
      cases herror

/-- Nodes that give back no data at all: the statistics end with the error of what cannot be
decoded. -/
theorem calls_match_interfaces_emptyData :
    let nodes : Nodes Unit := fun _ _ => pure (.result "0x")
    let program := registry.call {} "get_lido_stats" (.object [])
    let held := (nodes.hold ((configured {}).run inOrder program) ()).1.1
    Schedule.Complete inOrder ∧
    ∃ envelope error, held.1 = .ok envelope ∧ envelope.error = some error ∧ error.kind = "abi" ∧
      ∃ event ∈ held.2, ∃ e, Undecodable {} nodes event e ∧ error.message = e.message := by
  intro nodes program held
  have hkind : ((held.1.toOption.bind (·.error)).map (·.kind)) = some "abi" := by decide +kernel
  obtain ⟨error, hfound, herror⟩ := Option.map_eq_some_iff.mp hkind
  obtain ⟨envelope, henvelope, hside⟩ := Option.bind_eq_some_iff.mp hfound
  have hend : held.1 = .ok envelope := by
    cases houtcome : held.1 with
    | ok other =>
        rw [houtcome] at henvelope
        exact congrArg Except.ok (Option.some.inj henvelope)
    | error reason =>
        rw [houtcome] at henvelope
        cases henvelope
  have hmatch := (calls_match_interfaces {} "get_lido_stats" (.object [])).2.2.2 {} inOrder
    complete_inOrder nodes ()
  exact ⟨complete_inOrder, envelope, error, hend, hside, herror,
    hmatch.2.2 envelope error hend hside herror⟩

end Operation

end StakingGateway
