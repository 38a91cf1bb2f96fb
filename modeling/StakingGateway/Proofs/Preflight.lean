import StakingGateway.Proofs.Preparation
import StakingGateway.Proofs.SigningCalls
import StakingGateway.Rehearsal.Chain

/-!
# Calls that fail before the chain is touched

A call whose arguments are rejected, cannot be read or come without a key ends as a failure before
any client is made. One whose network, key or token does not exist ends before anything is read,
simulated, sent or waited for. The defects are read off the arguments as they are given, and any
number of them may come together; the kind of the failure is that of the first one.
-/

namespace StakingGateway

namespace Chain

def Event.isClient : Event → Bool
  | .reader .. | .account .. => true
  | _ => false

end Chain

namespace Operation

open Tool Chain Contract

/-! ## Defects of a call -/

section Defects

variable (preparation : Preparation) (context : Context) (args : Json)

def Rejected : Prop := ∃ issues, validate preparation.tool.params args = .error issues

/-- An argument is accepted, but cannot be read in the form in which the tool needs it. -/
def Unreadable : Prop :=
  ∃ accepted, validate preparation.tool.params args = .ok accepted ∧
    ∃ need ∈ preparation.needs, ¬ need.Met accepted

def Keyless : Prop := takesKey preparation.tool = true ∧ context.keyInUse args = none

def Unresolved : Prop := namedNetwork args = none

def Unusable : Prop :=
  takesKey preparation.tool = true ∧
    ∃ key e, context.keyInUse args = some key ∧ Crypto.SigningKey.ofText key = .error e

def Undeployed : Prop :=
  ∃ symbol network, preparation.token = some symbol ∧ namedNetwork args = some network ∧
    liquidToken? network symbol = none

structure Sound : Prop where
  accepted : ¬ Rejected preparation args
  readable : ¬ Unreadable preparation args
  keyed : ¬ Keyless preparation context args

end Defects

def Reached {m : Type → Type} (chain : Chain m) (args : Json) : Prop :=
  ∃ network, namedNetwork args = some network ∧ chain.reach network = .ok ()

def FailsAs (kind : String) (outcome : Except String Envelope) : Prop :=
  ∃ envelope failure, outcome = .ok envelope ∧ envelope.success = false ∧ envelope.data = none ∧
    envelope.error = some failure ∧ failure.kind = kind

/-- What the defects of a call mean for its outcome and its interactions. -/
structure FailsEarly {m : Type → Type} (chain : Chain m) (preparation : Preparation)
    (context : Context) (args : Json) (outcome : Except String Envelope) (events : List Event) :
    Prop where
  arguments :
    Rejected preparation args ∨ Unreadable preparation args ∨ Keyless preparation context args →
      FailsAs "validation" outcome ∧ events = []
  untouched :
    Unresolved args ∨ Unusable preparation context args ∨ Undeployed preparation args →
      (∃ kind, FailsAs kind outcome) ∧ ∀ event ∈ events, event.isClient = true
  network : Sound preparation context args → Unresolved args →
    FailsAs "unsupported_network" outcome
  key : Sound preparation context args → Reached chain args →
    Unusable preparation context args → FailsAs "invalid_key" outcome
  token : Sound preparation context args → Reached chain args →
    ¬ Unusable preparation context args → Undeployed preparation args →
    FailsAs "unavailable" outcome

theorem failsAs_refused (label : String) (cause : Tool.Error) :
    FailsAs cause.kind (Envelope.ofResult label (.error (.refused cause))) :=
  ⟨_, _, rfl, rfl, rfl, rfl, rfl⟩

/-! ## From accepted arguments to given ones -/

section Given

variable {tool : Tool} {context : Context} {args : Json} {accepted : Args}

theorem isText_choice (values : List String) : (ParamKind.choice values).IsText := by
  intro value h
  cases value <;> simp_all [ParamKind.accepts]

/-- Every tool has a parameter for the network, which takes a text and is optional. -/
theorem exists_networkParam (htool : tool ∈ catalogue) :
    ∃ p ∈ tool.params, p.name = "network" ∧ p.kind.IsText ∧
      p.default = some (.string defaultNetwork) := by
  have hmem : networkParam ∈ tool.params ∨ lidoNetworkParam ∈ tool.params := by
    simp only [catalogue, List.mem_cons, List.not_mem_nil, or_false] at htool
    rcases htool with
      rfl | rfl | rfl | rfl | rfl | rfl | rfl | rfl | rfl | rfl | rfl | rfl | rfl | rfl
    case inr.inr.inr.inr.inr.inr.inl => exact Or.inr List.mem_cons_self
    case inr.inr.inr.inr.inr.inr.inr.inr.inr.inl => exact Or.inr List.mem_cons_self
    all_goals exact Or.inl List.mem_cons_self
  rcases hmem with hmem | hmem
  · exact ⟨_, hmem, rfl, ParamKind.isText_string, rfl⟩
  · exact ⟨_, hmem, rfl, isText_choice _, rfl⟩

theorem namedNetwork_of_accepted (htool : tool ∈ catalogue)
    (hvalid : validate tool.params args = .ok accepted) {identifier : String}
    (h : accepted.text "network" = .ok identifier) :
    namedNetwork args = Network.resolve? identifier := by
  obtain ⟨p, hp, hname, hkind, hdefault⟩ := exists_networkParam htool
  have htext := text?_of_validate hvalid (param_names tool htool) hp hkind
  rw [hname, hdefault] at htext
  have hgiven : accepted.text? "network" =
      some (((Args.given args).text? "network").getD defaultNetwork) :=
    htext.trans Option.or_some
  rw [text_eq_ok_iff, hgiven] at h
  rw [namedNetwork, Option.some.inj h]

theorem signingKey_of_keyInUse (htool : tool ∈ catalogue) (hkey : takesKey tool = true)
    (hvalid : validate tool.params args = .ok accepted) {key : String}
    (h : context.keyInUse args = some key) : context.signingKey accepted = .ok key := by
  cases hsigning : context.signingKey accepted with
  | ok other =>
      have hother := keyInUse_of_signingKey htool hkey hvalid hsigning
      rw [Option.some.inj (h.symm.trans hother)]
  | error e =>
      have htext := text?_of_validate hvalid (param_names tool htool) (keyParam_mem htool hkey)
        ParamKind.isText_string
      have hgiven : accepted.text? Args.keyField = (Args.given args).text? Args.keyField :=
        htext.trans Option.or_none
      unfold Context.signingKey at hsigning
      unfold Context.keyInUse at h
      rw [← hgiven] at h
      cases htext : accepted.text? Args.keyField with
      | some text =>
          rw [htext] at hsigning
          cases hsigning
      | none =>
          rw [htext, Option.none_or] at h
          rw [htext, h] at hsigning
          cases hsigning

theorem keyless_of_signingKey (htool : tool ∈ catalogue) (hkey : takesKey tool = true)
    (hvalid : validate tool.params args = .ok accepted) {e : ArgumentError}
    (h : context.signingKey accepted = .error e) : context.keyInUse args = none := by
  cases hinUse : context.keyInUse args with
  | none => rfl
  | some key =>
      rw [signingKey_of_keyInUse htool hkey hvalid hinUse] at h
      cases h

end Given

/-! ## Tool calls -/

theorem get?_of_mem {tool : Tool} (h : tool ∈ catalogue) : registry.get? tool.name = some tool := by
  have hfound : ∀ tool ∈ catalogue, (registry.get? tool.name).isSome = true := by decide +kernel
  obtain ⟨other, hother⟩ := Option.isSome_iff_exists.mp (hfound tool h)
  obtain ⟨hmem, hname⟩ := mem_catalogue_of_get? hother
  rw [hother, eq_of_name_eq hmem h hname]

variable {σ : Type} (chain : Chain (StateM σ)) (schedule : Schedule) (state : σ)
  (context : Context) (args : Json)

theorem callOver_of_mem {tool : Tool} (htool : tool ∈ catalogue) :
    (∃ issues, validate tool.params args = .error issues ∧
        (callOver chain schedule state context tool.name args).1 =
          Envelope.ofResult tool.operation (.error (.refused (.validation issues))) ∧
        (callOver chain schedule state context tool.name args).2 = []) ∨
      ∃ accepted result, validate tool.params args = .ok accepted ∧
        (tool.run context accepted).Course result
          (callOver chain schedule state context tool.name args).2 ∧
        (callOver chain schedule state context tool.name args).1 =
          Envelope.ofResult tool.operation result := by
  have hget := get?_of_mem htool
  have hoperation : registry.operationOf tool.name = tool.operation := by
    rw [Registry.operationOf, hget]
  obtain ⟨result, hinvoke, houtcome⟩ :=
    Registry.course_call (chain.course_run schedule (registry.call context tool.name args) state)
  rw [hoperation] at houtcome
  rcases Registry.course_invoke_registered hget hinvoke with
    ⟨issues, hvalid, rfl, hevents⟩ | ⟨accepted, hvalid, hcourse⟩
  · exact Or.inl ⟨issues, hvalid, houtcome, hevents⟩
  · exact Or.inr ⟨accepted, result, hvalid, hcourse, houtcome⟩

variable {chain context args} {preparation : Preparation} {accepted : Args} {label : String}
  {events : List Event}

theorem FailsEarly.of_unsound {cause : Tool.Error} (hkind : cause.kind = "validation")
    (h : ¬ Sound preparation context args) :
    FailsEarly chain preparation context args (Envelope.ofResult label (.error (.refused cause)))
      [] := by
  have hfails := failsAs_refused label cause
  rw [hkind] at hfails
  refine ⟨fun _ => ⟨hfails, rfl⟩, fun _ => ⟨⟨_, hfails⟩, by simp⟩, ?_, ?_, ?_⟩
  · exact fun hsound _ => absurd hsound h
  · exact fun hsound _ _ => absurd hsound h
  · exact fun hsound _ _ _ => absurd hsound h

/-- Behind sound arguments a failure can only come from the network, the key or the token. -/
theorem FailsEarly.of_sound {outcome : Except String Envelope}
    (hsound : Sound preparation context args)
    (huntouched :
      Unresolved args ∨ Unusable preparation context args ∨ Undeployed preparation args →
        (∃ kind, FailsAs kind outcome) ∧ ∀ event ∈ events, event.isClient = true)
    (hnetwork : Unresolved args → FailsAs "unsupported_network" outcome)
    (hkey : Reached chain args → Unusable preparation context args → FailsAs "invalid_key" outcome)
    (htoken : Reached chain args → ¬ Unusable preparation context args →
      Undeployed preparation args → FailsAs "unavailable" outcome) :
    FailsEarly chain preparation context args outcome events := by
  refine ⟨?_, huntouched, fun _ => hnetwork, fun _ => hkey, fun _ => htoken⟩
  rintro (hrejected | hunreadable | hkeyless)
  · exact absurd hrejected hsound.accepted
  · exact absurd hunreadable hsound.readable
  · exact absurd hkeyless hsound.keyed

theorem Clients.isClient {key : Option String} {identifier : String} {network : Network}
    {clients : List Event} (h : Clients key identifier network clients) :
    ∀ event ∈ clients, event.isClient = true := by
  cases h <;> simp [Event.isClient]

theorem Clients.resolved {key : Option String} {identifier : String} {network : Network}
    {clients : List Event} (h : Clients key identifier network clients)
    (hgives : ∀ event ∈ clients, chain.Gives event) :
    chain.openReader identifier = .ok network ∧
      ∀ used, key = some used → ∃ signer, Crypto.SigningKey.ofText used = .ok signer := by
  cases h with
  | reading => exact ⟨(hgives _ List.mem_cons_self).symm, fun used hused => by cases hused⟩
  | @signing used identifier network account =>
      have haccount := hgives (.account used identifier (.ok account)) (by simp)
      obtain ⟨signer, -, hsigner, -⟩ := openAccount_eq_ok (Eq.symm haccount)
      refine ⟨(hgives _ List.mem_cons_self).symm, fun other hother => ⟨signer, ?_⟩⟩
      rwa [← Option.some.inj hother]

section Ready

variable {key : Option String} (htool : preparation.tool ∈ catalogue)
  (hvalid : validate preparation.tool.params args = .ok accepted)
  (hkeyed : Keyed context accepted (takesKey preparation.tool) key)

include hvalid in
theorem sound_of_keyed (hneeds : ∀ need ∈ preparation.needs, need.Met accepted)
    (hkeyless : ¬ Keyless preparation context args) : Sound preparation context args := by
  refine ⟨?_, ?_, hkeyless⟩
  · rintro ⟨issues, hissues⟩
    rw [hvalid] at hissues
    cases hissues
  · rintro ⟨other, hother, need, hneed, hunmet⟩
    obtain rfl : accepted = other := Except.ok.inj (hvalid.symm.trans hother)
    exact hunmet (hneeds need hneed)

include htool hvalid hkeyed in
theorem not_keyless : ¬ Keyless preparation context args := by
  rintro ⟨hsigns, hnone⟩
  cases key with
  | none =>
      have hkeyless : takesKey preparation.tool = false := hkeyed
      rw [hkeyless] at hsigns
      cases hsigns
  | some used =>
      have hinUse := keyInUse_of_signingKey htool hsigns hvalid hkeyed.2
      rw [hnone] at hinUse
      cases hinUse

include htool hvalid hkeyed in
theorem not_unusable
    (husable : ∀ used, key = some used → ∃ signer, Crypto.SigningKey.ofText used = .ok signer) :
    ¬ Unusable preparation context args := by
  rintro ⟨hsigns, given, e, hgiven, hbad⟩
  cases key with
  | none =>
      have hkeyless : takesKey preparation.tool = false := hkeyed
      rw [hkeyless] at hsigns
      cases hsigns
  | some used =>
      have hinUse := keyInUse_of_signingKey htool hsigns hvalid hkeyed.2
      obtain ⟨signer, hsigner⟩ := husable used rfl
      rw [Option.some.inj (hinUse.symm.trans hgiven), hbad] at hsigner
      cases hsigner

include htool hvalid hkeyed in
theorem failsEarly_of_opening {result : Except Fault Json}
    (hsound : Sound preparation context args)
    (hopening : Opening accepted key preparation.token result events)
    (hgives : ∀ event ∈ events, chain.Gives event) :
    FailsEarly chain preparation context args (Envelope.ofResult label result) events := by
  cases hopening with
  | @closed identifier e hidentifier =>
      have hnamed := namedNetwork_of_accepted htool hvalid hidentifier
      have hreader := hgives (.reader identifier (.error e)) List.mem_cons_self
      have hfails := failsAs_refused label (.chain e)
      have hunreached : ¬ Reached chain args := by
        rintro ⟨network, hnetwork, hreach⟩
        rw [hnamed] at hnetwork
        have hopened := Eq.trans hreader (openReader_of_reach hnetwork hreach)
        cases hopened
      refine .of_sound hsound (fun _ => ⟨⟨_, hfails⟩, by simp [Event.isClient]⟩) ?_
        (fun hreached => absurd hreached hunreached) (fun hreached => absurd hreached hunreached)
      intro hunresolved
      rw [Unresolved, hnamed] at hunresolved
      have hunsupported := Eq.trans hreader (openReader_of_unresolved hunresolved)
      cases hunsupported
      exact hfails
  | @locked identifier used network e hidentifier hused =>
      have hnamed := namedNetwork_of_accepted htool hvalid hidentifier
      have hreader := hgives (.reader identifier (.ok network)) List.mem_cons_self
      have haccount := hgives (.account used identifier (.error e)) (by simp)
      have hfails := failsAs_refused label (.chain e)
      obtain ⟨cause, hbad, rfl⟩ := openAccount_eq_error (Eq.symm hreader) (Eq.symm haccount)
      obtain rfl := hused
      have hunusable : Unusable preparation context args :=
        ⟨hkeyed.1, used, cause, keyInUse_of_signingKey htool hkeyed.1 hvalid hkeyed.2, hbad⟩
      refine .of_sound hsound (fun _ => ⟨⟨_, hfails⟩, by simp [Event.isClient]⟩) ?_
        (fun _ _ => hfails) (fun _ husable => absurd hunusable husable)
      intro hunresolved
      rw [Unresolved, hnamed, openReader_eq_ok (Eq.symm hreader)] at hunresolved
      cases hunresolved
  | @missing identifier symbol reason network clients hidentifier hclients hsymbol htoken =>
      have hnamed := namedNetwork_of_accepted htool hvalid hidentifier
      obtain ⟨hreader, husable⟩ := hclients.resolved hgives
      have hfails := failsAs_refused label (.unavailable reason)
      refine .of_sound hsound (fun _ => ⟨⟨_, hfails⟩, hclients.isClient⟩) ?_
        (fun _ hunusable => absurd hunusable (not_unusable htool hvalid hkeyed husable))
        (fun _ _ _ => hfails)
      intro hunresolved
      rw [Unresolved, hnamed, openReader_eq_ok hreader] at hunresolved
      cases hunresolved
  | @opened identifier network clients after result hidentifier hclients htoken =>
      have hnamed := namedNetwork_of_accepted htool hvalid hidentifier
      obtain ⟨hreader, husable⟩ :=
        hclients.resolved fun event hevent => hgives event (List.mem_append_left after hevent)
      rw [openReader_eq_ok hreader] at hnamed
      have hresolved : ¬ Unresolved args := fun hunresolved => by
        rw [Unresolved, hnamed] at hunresolved
        cases hunresolved
      have hunusable := not_unusable htool hvalid hkeyed husable
      have hdeployed : ¬ Undeployed preparation args := by
        rintro ⟨symbol, other, hsymbol, hother, hmissing⟩
        obtain rfl : network = other := Option.some.inj (hnamed.symm.trans hother)
        exact htoken symbol hsymbol hmissing
      refine .of_sound hsound ?_ (fun h => absurd h hresolved) (fun _ h => absurd h hunusable)
        (fun _ _ h => absurd h hdeployed)
      rintro (h | h | h)
      · exact absurd h hresolved
      · exact absurd h hunusable
      · exact absurd h hdeployed

end Ready

variable (chain context args) in
/-- A call with a defect fails before the chain is touched, whichever tool it names and whatever
else is wrong with it. -/
theorem untouched_before_sound {tool : Tool} (htool : tool ∈ catalogue) :
    ∃ preparation ∈ preparations, preparation.tool = tool ∧
      FailsEarly chain preparation context args
        (callOver chain schedule state context tool.name args).1
        (callOver chain schedule state context tool.name args).2 := by
  obtain ⟨preparation, hmem, rfl⟩ := exists_preparation htool
  refine ⟨preparation, hmem, rfl, ?_⟩
  have hgives := gives_of_mem_callOver chain schedule state context preparation.tool.name args
  have hcall := callOver_of_mem chain schedule state context args htool
  generalize callOver chain schedule state context preparation.tool.name args = run
    at hgives hcall ⊢
  obtain ⟨outcome, events⟩ := run
  rcases hcall with ⟨issues, hissues, rfl, rfl⟩ | ⟨accepted, result, hvalid, hcourse, rfl⟩
  · exact .of_unsound rfl fun hsound => hsound.accepted ⟨issues, hissues⟩
  · cases prepares_of_mem hmem result events hcourse with
    | unreadable hneed hunmet =>
        exact .of_unsound rfl fun hsound => hsound.readable ⟨accepted, hvalid, _, hneed, hunmet⟩
    | keyless _ hsigns hkey =>
        refine .of_unsound rfl fun hsound => hsound.keyed ⟨hsigns, ?_⟩
        exact keyless_of_signingKey htool hsigns hvalid hkey
    | ready hneeds hkeyed hopening =>
        have hsound := sound_of_keyed hvalid hneeds (not_keyless htool hvalid hkeyed)
        exact failsEarly_of_opening htool hvalid hkeyed hsound hopening hgives

/-- Wrapping on a network without the wrapped token. -/
theorem untouched_before_sound_polygon :
    let args := Json.object [("amount", .string "0.5"), ("network", .string "polygon")]
    let context : Context :=
      ⟨some "0x0123456789abcdef0123456789abcdef0123456789abcdef0123456789abcdef"⟩
    let run := callOver Rehearsal.chain inOrder {} context "wrap_steth" args
    (run.1.toOption.bind (·.error)).map (·.kind) = some "unavailable" ∧
      run.2.map Event.isClient = [true, true] ∧
      ∃ preparation ∈ preparations, preparation.tool = wrapSteth ∧
        FailsEarly Rehearsal.chain preparation context args run.1 run.2 := by
  have htool : wrapSteth ∈ catalogue := by simp [catalogue]
  refine ⟨by decide +kernel, by decide +kernel, ?_⟩
  exact untouched_before_sound Rehearsal.chain inOrder _ _ _ htool

-- Neither a key nor a network, and an amount with too many places.
example :
    let run := callOver Rehearsal.chain inOrder {} {} "stake_lp_tokens" (.object [
      ("farmContract", .string "0x00000000000000000000000000000000000000aa"),
      ("poolId", .nat 1), ("amount", .string "0.0000000000000000001"),
      ("network", .string "nowhere")])
    (run.1.toOption.bind (·.error)).map (·.kind) = some "validation" ∧ run.2.length = 0 := by
  decide +kernel

end Operation

end StakingGateway
