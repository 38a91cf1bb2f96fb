import StakingGateway.Operation.Catalogue
import StakingGateway.Proofs.AmountReading
import StakingGateway.Proofs.ReadingTools

/-!
# What tools settle before they turn to a contract

Each tool takes its arguments one after the other, looks for a key if it signs, makes its clients
and looks up the token that it cannot do without. `preparations` lists what each of them takes, in
terms of the accepted values and not of the functions that read them. `Preflight` lists how far a
tool can get on this way, and with which interactions.
-/

namespace StakingGateway.Operation

open Tool Chain Contract

/-! ## Arguments in the form that is needed -/

inductive Form where
  | text
  | address
  | addressIfGiven
  | natural
  | wei
  /-- A decimal number of a token with that many places. -/
  | units (decimals : Nat)
  /-- A number of places for display. -/
  | places

def Form.Reads : Form → Option Json → Prop
  | text, value => ∃ given, value.bind Json.string? = some given
  | address, value => ∃ given read, value.bind Json.string? = some given ∧
      Address.ofText? given = some read
  | addressIfGiven, value => ∀ given, value.bind Json.string? = some given →
      ∃ read, Address.ofText? given = some read
  | natural, value => ∃ number, value.bind Json.natural? = some number
  | wei, value => ∃ given amount, value.bind Json.string? = some given ∧
      Amount.parseWei given = .ok amount
  | units decimals, value => ∃ given n, value.bind Json.string? = some given ∧
      Amount.Readable given decimals n
  | places, value => ∀ number, value.bind Json.natural? = some number → number < 2 ^ 32

/-- An argument of a tool and the form in which the tool needs it. -/
structure Need where
  field : String
  form : Form

def Need.Met (need : Need) (args : Args) : Prop := need.form.Reads (args.get? need.field)

section Getters

variable {args : Args} {name : String}

theorem text_eq_ok_iff {text : String} :
    args.text name = .ok text ↔ args.text? name = some text := by
  unfold Args.text
  cases args.text? name <;> simp

theorem met_text : (∃ text, args.text name = .ok text) ↔ Need.Met ⟨name, .text⟩ args := by
  simp only [text_eq_ok_iff]
  exact Iff.rfl

theorem address_eq_ok_iff {read : Address} : args.address name = .ok read ↔
    ∃ text, args.text? name = some text ∧ Address.ofText? text = some read := by
  unfold Args.address Args.text
  cases htext : args.text? name with
  | none => simp [bind, Except.bind]
  | some text =>
      cases hread : Address.ofText? text <;>
        simp [bind, Except.bind, pure, Except.pure, throw, throwThe, MonadExceptOf.throw, hread]

theorem met_address : (∃ read, args.address name = .ok read) ↔ Need.Met ⟨name, .address⟩ args := by
  simp only [address_eq_ok_iff]
  exact exists_comm

theorem natural_eq_ok_iff {number : Nat} :
    args.natural name = .ok number ↔ args.natural? name = some number := by
  unfold Args.natural
  cases args.natural? name <;> simp

theorem met_natural : (∃ number, args.natural name = .ok number) ↔
    Need.Met ⟨name, .natural⟩ args := by
  simp only [natural_eq_ok_iff]
  exact Iff.rfl

/-- A text argument that is read further can be read when the text is there and can be read. -/
theorem read_eq_ok_iff {ε α : Type} {read : String → Except ε α} {fault : ε → ArgumentError}
    {value : α} :
    (do (read (← args.text name)).mapError fault) = .ok value ↔
      ∃ text, args.text? name = some text ∧ read text = .ok value := by
  unfold Args.text
  cases htext : args.text? name with
  | none => simp [bind, Except.bind]
  | some text => cases hread : read text <;> simp [bind, Except.bind, Except.mapError, hread]

theorem met_wei : (∃ amount, args.wei name = .ok amount) ↔ Need.Met ⟨name, .wei⟩ args := by
  unfold Args.wei
  simp only [read_eq_ok_iff]
  exact exists_comm

theorem met_units {decimals : Nat} : (∃ amount, args.units name decimals = .ok amount) ↔
    Need.Met ⟨name, .units decimals⟩ args := by
  unfold Args.units
  simp only [read_eq_ok_iff]
  constructor
  · rintro ⟨amount, text, htext, hread⟩
    obtain ⟨n, hn, -⟩ := Amount.parseUnits_eq_ok_iff.mp hread
    exact ⟨text, n, htext, hn⟩
  · rintro ⟨text, n, htext, hn⟩
    obtain ⟨amount, hamount⟩ := hn.exists_amount
    exact ⟨amount, text, htext, Amount.parseUnits_eq_ok_iff.mpr ⟨n, hn, hamount⟩⟩

theorem met_displayDecimals : (∃ decimals, displayDecimals args = .ok decimals) ↔
    Need.Met ⟨"decimals", .places⟩ args := by
  have hsize : UInt32.size = 2 ^ 32 := rfl
  unfold displayDecimals
  constructor
  · rintro ⟨decimals, h⟩ number hnumber
    have hgiven : args.natural? "decimals" = some number := hnumber
    rw [hgiven, Option.getD_some] at h
    by_cases hlt : number < UInt32.size
    · exact hlt
    · simp [hlt] at h
  · intro h
    cases hgiven : args.natural? "decimals" with
    | none => exact ⟨Amount.etherDecimals, by simp [Amount.etherDecimals, UInt32.size]⟩
    | some number =>
        have hlt : number < UInt32.size := h number hgiven
        exact ⟨number, by simp [hlt]⟩

theorem defaultReferral_isAddress : (Address.ofText? defaultReferral).isSome = true := by
  decide +kernel

theorem met_referral : (∃ referral, referralArg args = .ok referral) ↔
    Need.Met ⟨"referral", .addressIfGiven⟩ args := by
  obtain ⟨usual, husual⟩ := Option.isSome_iff_exists.mp defaultReferral_isAddress
  unfold referralArg Args.address?
  constructor
  · rintro ⟨referral, h⟩ given hgiven
    have htext : args.text? "referral" = some given := hgiven
    simp only [htext] at h
    cases hread : args.address "referral" with
    | error e => simp [hread, bind, Except.bind, Except.map] at h
    | ok read =>
        obtain ⟨text, hsame, hok⟩ := address_eq_ok_iff.mp hread
        obtain rfl : text = given := Option.some.inj (hsame.symm.trans htext)
        exact ⟨read, hok⟩
  · intro h
    cases htext : args.text? "referral" with
    | none => exact ⟨usual, by simp [husual, bind, Except.bind, pure, Except.pure]⟩
    | some given =>
        obtain ⟨read, hok⟩ := h given htext
        have hread := address_eq_ok_iff.mpr ⟨given, htext, hok⟩
        exact ⟨read, by simp [hread, bind, Except.bind, Except.map, pure, Except.pure]⟩

end Getters

/-! ## How far a tool gets -/

inductive Clients : Option String → String → Network → List Event → Prop
  | reading {identifier : String} {network : Network} :
      Clients none identifier network [.reader identifier (.ok network)]
  | signing {key identifier : String} {network : Network} {account : Account} :
      Clients (some key) identifier network
        [.reader identifier (.ok network), .account key identifier (.ok account)]

/-- The steps between the arguments and the first contract. -/
inductive Opening (args : Args) (key token : Option String) : Except Fault Json → List Event → Prop
  | closed {identifier : String} {e : Chain.Error}
      (hidentifier : args.text "network" = .ok identifier) :
      Opening args key token (.error (Fault.ofChain e)) [.reader identifier (.error e)]
  | locked {identifier used : String} {network : Network} {e : Chain.Error}
      (hidentifier : args.text "network" = .ok identifier) (hkey : key = some used) :
      Opening args key token (.error (Fault.ofChain e))
        [.reader identifier (.ok network), .account used identifier (.error e)]
  | missing {identifier symbol reason : String} {network : Network} {clients : List Event}
      (hidentifier : args.text "network" = .ok identifier)
      (hclients : Clients key identifier network clients) (hsymbol : token = some symbol)
      (htoken : liquidToken? network symbol = none) :
      Opening args key token (.error (.refused (.unavailable reason))) clients
  | opened {identifier : String} {network : Network} {clients events : List Event}
      {result : Except Fault Json} (hidentifier : args.text "network" = .ok identifier)
      (hclients : Clients key identifier network clients)
      (htoken : ∀ symbol, token = some symbol → liquidToken? network symbol ≠ none) :
      Opening args key token result (clients ++ events)

def Keyed (context : Context) (args : Args) (signs : Bool) : Option String → Prop
  | some key => signs = true ∧ context.signingKey args = .ok key
  | none => signs = false

/-- All that can happen to a tool, up to where it turns to a contract. -/
inductive Preflight (context : Context) (args : Args) (needs : List Need) (signs : Bool)
    (token : Option String) : Except Fault Json → List Event → Prop
  | unreadable {need : Need} {e : ArgumentError} (hneed : need ∈ needs) (hmet : ¬ need.Met args) :
      Preflight context args needs signs token (.error (.refused (.argument e))) []
  | keyless {e : ArgumentError} (hneeds : ∀ need ∈ needs, need.Met args) (hsigns : signs = true)
      (hkey : context.signingKey args = .error e) :
      Preflight context args needs signs token (.error (.refused (.argument e))) []
  | ready {key : Option String} {result : Except Fault Json} {events : List Event}
      (hneeds : ∀ need ∈ needs, need.Met args) (hkey : Keyed context args signs key)
      (hopening : Opening args key token result events) :
      Preflight context args needs signs token result events

variable {context : Context} {args : Args} {needs : List Need} {signs : Bool}
  {key token : Option String}

def Prepares (context : Context) (args : Args) (needs : List Need) (signs : Bool)
    (token : Option String) (x : Action Json) : Prop :=
  ∀ result events, x.Course result events → Preflight context args needs signs token result events

def Opens (args : Args) (key token : Option String) (x : Action Json) : Prop :=
  ∀ result events, x.Course result events → Opening args key token result events

/-- Behind its clients the action looks up this token first, if it needs one. -/
def Requires (token : Option String) (network : Network) (x : Action Json) : Prop :=
  ∀ result events, x.Course result events →
    (∀ symbol, token = some symbol → liquidToken? network symbol ≠ none) ∨
      ∃ symbol reason, token = some symbol ∧ liquidToken? network symbol = none ∧
        result = .error (.refused (.unavailable reason)) ∧ events = []

theorem prepares_need {α : Type} {need : Need} {argument : Except ArgumentError α}
    {f : α → Action Json} (hmet : (∃ value, argument = .ok value) ↔ need.Met args)
    (h : ∀ value, argument = .ok value → Prepares context args needs signs token (f value)) :
    Prepares context args (need :: needs) signs token (Action.ofArgument argument >>= f) := by
  intro result events hx
  cases argument with
  | error e =>
      obtain ⟨rfl, rfl⟩ := Action.course_throw.mp hx
      refine .unreadable List.mem_cons_self fun hread => ?_
      obtain ⟨value, hvalue⟩ := hmet.mpr hread
      cases hvalue
  | ok value =>
      have hhere : need.Met args := hmet.mp ⟨value, rfl⟩
      cases h value rfl result events hx with
      | unreadable hneed hunmet => exact .unreadable (List.mem_cons_of_mem need hneed) hunmet
      | keyless hneeds hsigns hkey =>
          exact .keyless (List.forall_mem_cons.mpr ⟨hhere, hneeds⟩) hsigns hkey
      | ready hneeds hkey hopening =>
          exact .ready (List.forall_mem_cons.mpr ⟨hhere, hneeds⟩) hkey hopening

theorem prepares_key {f : String → Action Json}
    (h : ∀ key, Opens args (some key) token (f key)) :
    Prepares context args [] true token (keyArg context args >>= f) := by
  intro result events hx
  unfold keyArg at hx
  cases hkey : context.signingKey args with
  | error e =>
      rw [hkey] at hx
      obtain ⟨rfl, rfl⟩ := Action.course_throw.mp hx
      exact .keyless (by simp) rfl hkey
  | ok key =>
      rw [hkey] at hx
      have hkeyed : Keyed context args true (some key) := ⟨rfl, hkey⟩
      exact .ready (by simp) hkeyed (h key result events hx)

theorem prepares_keyless {x : Action Json} (h : Opens args none token x) :
    Prepares context args [] false token x := by
  intro result events hx
  have hkeyed : Keyed context args false none := rfl
  exact .ready (by simp) hkeyed (h result events hx)

/-- The stage behind the clients, seen from the beginning. -/
theorem opening_of_requires {identifier : String} {network : Network} {clients events : List Event}
    {result : Except Fault Json} {x : Action Json}
    (hidentifier : args.text "network" = .ok identifier)
    (hclients : Clients key identifier network clients) (h : Requires token network x)
    (hx : x.Course result events) : Opening args key token result (clients ++ events) := by
  rcases h result events hx with hpresent | ⟨symbol, reason, hsymbol, hmissing, rfl, rfl⟩
  · exact .opened hidentifier hclients hpresent
  · rw [List.append_nil]
    exact .missing hidentifier hclients hsymbol hmissing

theorem opens_reader {identifier : String} {f : Network → Action Json}
    (hidentifier : args.text "network" = .ok identifier)
    (h : ∀ network, Requires token network (f network)) :
    Opens args none token (Action.reader identifier >>= f) := by
  intro result events hx
  rcases Action.course_bind.mp hx with
    ⟨fault, hreader, rfl⟩ | ⟨network, before, after, hreader, hrest, rfl⟩
  · obtain ⟨e | network, rfl, hfault⟩ := Action.course_reader.mp hreader
    · cases hfault
      exact .closed hidentifier
    · cases hfault
  · obtain ⟨e | opened, rfl, hok⟩ := Action.course_reader.mp hreader
    · cases hok
    · cases hok
      exact opening_of_requires hidentifier .reading (h network) hrest

theorem opens_account {identifier used : String} {f : Network → Account → Action Json}
    (hidentifier : args.text "network" = .ok identifier)
    (h : ∀ network account, Requires token network (f network account)) :
    Opens args (some used) token (do
      let network ← Action.reader identifier
      let account ← Action.account used identifier
      f network account) := by
  intro result events hx
  rcases Action.course_bind.mp hx with
    ⟨fault, hreader, rfl⟩ | ⟨network, first, rest, hreader, hrest, rfl⟩
  · obtain ⟨e | network, rfl, hfault⟩ := Action.course_reader.mp hreader
    · cases hfault
      exact .closed hidentifier
    · cases hfault
  obtain ⟨e | opened, rfl, hok⟩ := Action.course_reader.mp hreader
  · cases hok
  cases hok
  rcases Action.course_bind.mp hrest with
    ⟨fault, haccount, rfl⟩ | ⟨account, before, after, haccount, hafter, rfl⟩
  · obtain ⟨e | account, rfl, hfault⟩ := Action.course_account.mp haccount
    · cases hfault
      exact .locked hidentifier rfl
    · cases hfault
  · obtain ⟨e | account, rfl, hok⟩ := Action.course_account.mp haccount
    · cases hok
    · cases hok
      have hclients : Clients (some used) identifier network
        [.reader identifier (.ok network), .account used identifier (.ok account)] := .signing
      have hopening := opening_of_requires hidentifier hclients (h network account) hafter
      exact hopening

theorem requires_none {network : Network} {x : Action Json} : Requires none network x := by
  intro result events _
  exact Or.inl fun symbol hsymbol => by cases hsymbol

theorem requires_token {network : Network} {symbol missing : String} {f : Address → Action Json} :
    Requires (some symbol) network (requireToken network symbol missing >>= f) := by
  intro result events hx
  unfold requireToken at hx
  cases htoken : liquidToken? network symbol with
  | some token =>
      refine Or.inl fun other hother => ?_
      cases hother
      rw [htoken]
      exact Option.some_ne_none token
  | none =>
      rw [htoken] at hx
      obtain ⟨rfl, rfl⟩ := Action.course_throw.mp hx
      exact Or.inr ⟨symbol, missing, rfl, htoken, rfl, rfl⟩

/-! ## The tools -/

/-- What a tool settles before it turns to a contract: its arguments, and the symbol of the token
that must be deployed on the network. -/
structure Preparation where
  tool : Tool
  needs : List Need
  token : Option String := none

def preparations : List Preparation := [
  { tool := stakingPosition
    needs := [⟨"network", .text⟩, ⟨"stakingContract", .address⟩, ⟨"userAddress", .address⟩,
      ⟨"decimals", .places⟩] },
  { tool := stakeTokens
    needs := [⟨"network", .text⟩, ⟨"stakingContract", .address⟩, ⟨"amount", .wei⟩] },
  { tool := unstakeTokens
    needs := [⟨"network", .text⟩, ⟨"stakingContract", .address⟩, ⟨"amount", .wei⟩] },
  { tool := claimRewards
    needs := [⟨"network", .text⟩, ⟨"stakingContract", .address⟩] },
  { tool := stakingRate
    needs := [⟨"network", .text⟩, ⟨"stakingContract", .address⟩] },
  { tool := stakingDirectory, needs := [⟨"network", .text⟩] },
  { tool := stakeEther
    needs := [⟨"network", .text⟩, ⟨"amount", .units 18⟩, ⟨"referral", .addressIfGiven⟩]
    token := some "stETH" },
  { tool := wrapSteth
    needs := [⟨"network", .text⟩, ⟨"amount", .units 18⟩]
    token := some "wstETH" },
  { tool := unwrapWsteth
    needs := [⟨"network", .text⟩, ⟨"amount", .units 18⟩]
    token := some "wstETH" },
  { tool := lidoStats, needs := [⟨"network", .text⟩], token := some "stETH" },
  { tool := liquidDirectory, needs := [⟨"network", .text⟩] },
  { tool := stakePairTokens
    needs := [⟨"network", .text⟩, ⟨"farmContract", .address⟩, ⟨"poolId", .natural⟩,
      ⟨"amount", .units 18⟩] },
  { tool := withdrawPairTokens
    needs := [⟨"network", .text⟩, ⟨"farmContract", .address⟩, ⟨"poolId", .natural⟩,
      ⟨"amount", .units 18⟩] },
  { tool := farmingPosition
    needs := [⟨"network", .text⟩, ⟨"farmContract", .address⟩, ⟨"poolId", .natural⟩,
      ⟨"userAddress", .address⟩] }]

theorem preparations_tools : preparations.map (·.tool) = catalogue := rfl

theorem mem_catalogue_of_preparation {preparation : Preparation} (h : preparation ∈ preparations) :
    preparation.tool ∈ catalogue := by
  rw [← preparations_tools]
  exact List.mem_map_of_mem h

theorem prepares_stakingPosition : Prepares context args
    [⟨"network", .text⟩, ⟨"stakingContract", .address⟩, ⟨"userAddress", .address⟩,
      ⟨"decimals", .places⟩] false none (stakingPosition.run context args) := by
  refine prepares_need met_text fun identifier hidentifier => ?_
  refine prepares_need met_address fun contract _ => ?_
  refine prepares_need met_address fun user _ => ?_
  refine prepares_need met_displayDecimals fun decimals _ => ?_
  exact prepares_keyless (opens_reader hidentifier fun network => requires_none)

theorem prepares_stakeTokens : Prepares context args
    [⟨"network", .text⟩, ⟨"stakingContract", .address⟩, ⟨"amount", .wei⟩] true none
    (stakeTokens.run context args) := by
  refine prepares_need met_text fun identifier hidentifier => ?_
  refine prepares_need met_address fun contract _ => ?_
  refine prepares_need met_wei fun amount _ => ?_
  refine prepares_key fun key => ?_
  exact opens_account hidentifier fun network account => requires_none

theorem prepares_unstakeTokens : Prepares context args
    [⟨"network", .text⟩, ⟨"stakingContract", .address⟩, ⟨"amount", .wei⟩] true none
    (unstakeTokens.run context args) := by
  refine prepares_need met_text fun identifier hidentifier => ?_
  refine prepares_need met_address fun contract _ => ?_
  refine prepares_need met_wei fun amount _ => ?_
  refine prepares_key fun key => ?_
  exact opens_account hidentifier fun network account => requires_none

theorem prepares_claimRewards : Prepares context args
    [⟨"network", .text⟩, ⟨"stakingContract", .address⟩] true none
    (claimRewards.run context args) := by
  refine prepares_need met_text fun identifier hidentifier => ?_
  refine prepares_need met_address fun contract _ => ?_
  refine prepares_key fun key => ?_
  exact opens_account hidentifier fun network account => requires_none

theorem prepares_stakingRate : Prepares context args
    [⟨"network", .text⟩, ⟨"stakingContract", .address⟩] false none
    (stakingRate.run context args) := by
  refine prepares_need met_text fun identifier hidentifier => ?_
  refine prepares_need met_address fun contract _ => ?_
  exact prepares_keyless (opens_reader hidentifier fun network => requires_none)

theorem prepares_stakingDirectory :
    Prepares context args [⟨"network", .text⟩] false none (stakingDirectory.run context args) := by
  refine prepares_need met_text fun identifier hidentifier => ?_
  exact prepares_keyless (opens_reader hidentifier fun network => requires_none)

theorem prepares_stakeEther : Prepares context args
    [⟨"network", .text⟩, ⟨"amount", .units 18⟩, ⟨"referral", .addressIfGiven⟩] true (some "stETH")
    (stakeEther.run context args) := by
  refine prepares_need met_text fun identifier hidentifier => ?_
  refine prepares_need met_units fun amount _ => ?_
  refine prepares_need met_referral fun referral _ => ?_
  refine prepares_key fun key => ?_
  exact opens_account hidentifier fun network account => requires_token

theorem prepares_wrapSteth : Prepares context args
    [⟨"network", .text⟩, ⟨"amount", .units 18⟩] true (some "wstETH")
    (wrapSteth.run context args) := by
  refine prepares_need met_text fun identifier hidentifier => ?_
  refine prepares_need met_units fun amount _ => ?_
  refine prepares_key fun key => ?_
  exact opens_account hidentifier fun network account => requires_token

theorem prepares_unwrapWsteth : Prepares context args
    [⟨"network", .text⟩, ⟨"amount", .units 18⟩] true (some "wstETH")
    (unwrapWsteth.run context args) := by
  refine prepares_need met_text fun identifier hidentifier => ?_
  refine prepares_need met_units fun amount _ => ?_
  refine prepares_key fun key => ?_
  exact opens_account hidentifier fun network account => requires_token

theorem prepares_lidoStats : Prepares context args [⟨"network", .text⟩] false (some "stETH")
    (lidoStats.run context args) := by
  refine prepares_need met_text fun identifier hidentifier => ?_
  exact prepares_keyless (opens_reader hidentifier fun network => requires_token)

theorem prepares_liquidDirectory :
    Prepares context args [⟨"network", .text⟩] false none (liquidDirectory.run context args) := by
  refine prepares_need met_text fun identifier hidentifier => ?_
  exact prepares_keyless (opens_reader hidentifier fun network => requires_none)

theorem prepares_stakePairTokens : Prepares context args
    [⟨"network", .text⟩, ⟨"farmContract", .address⟩, ⟨"poolId", .natural⟩, ⟨"amount", .units 18⟩]
    true none (stakePairTokens.run context args) := by
  refine prepares_need met_text fun identifier hidentifier => ?_
  refine prepares_need met_address fun farm _ => ?_
  refine prepares_need met_natural fun pool _ => ?_
  refine prepares_need met_units fun amount _ => ?_
  refine prepares_key fun key => ?_
  exact opens_account hidentifier fun network account => requires_none

theorem prepares_withdrawPairTokens : Prepares context args
    [⟨"network", .text⟩, ⟨"farmContract", .address⟩, ⟨"poolId", .natural⟩, ⟨"amount", .units 18⟩]
    true none (withdrawPairTokens.run context args) := by
  refine prepares_need met_text fun identifier hidentifier => ?_
  refine prepares_need met_address fun farm _ => ?_
  refine prepares_need met_natural fun pool _ => ?_
  refine prepares_need met_units fun amount _ => ?_
  refine prepares_key fun key => ?_
  exact opens_account hidentifier fun network account => requires_none

theorem prepares_farmingPosition : Prepares context args
    [⟨"network", .text⟩, ⟨"farmContract", .address⟩, ⟨"poolId", .natural⟩,
      ⟨"userAddress", .address⟩] false none (farmingPosition.run context args) := by
  refine prepares_need met_text fun identifier hidentifier => ?_
  refine prepares_need met_address fun farm _ => ?_
  refine prepares_need met_natural fun pool _ => ?_
  refine prepares_need met_address fun user _ => ?_
  exact prepares_keyless (opens_reader hidentifier fun network => requires_none)

theorem prepares_of_mem {preparation : Preparation} (h : preparation ∈ preparations) :
    Prepares context args preparation.needs (takesKey preparation.tool) preparation.token
      (preparation.tool.run context args) := by
  simp only [preparations, List.mem_cons, List.not_mem_nil, or_false] at h
  rcases h with rfl | rfl | rfl | rfl | rfl | rfl | rfl | rfl | rfl | rfl | rfl | rfl | rfl | rfl
  · exact prepares_stakingPosition
  · exact prepares_stakeTokens
  · exact prepares_unstakeTokens
  · exact prepares_claimRewards
  · exact prepares_stakingRate
  · exact prepares_stakingDirectory
  · exact prepares_stakeEther
  · exact prepares_wrapSteth
  · exact prepares_unwrapWsteth
  · exact prepares_lidoStats
  · exact prepares_liquidDirectory
  · exact prepares_stakePairTokens
  · exact prepares_withdrawPairTokens
  · exact prepares_farmingPosition

theorem exists_preparation {tool : Tool} (h : tool ∈ catalogue) :
    ∃ preparation ∈ preparations, preparation.tool = tool := by
  rw [← preparations_tools] at h
  exact List.mem_map.mp h

end StakingGateway.Operation
