import StakingGateway.Proofs.SigningCalls
import StakingGateway.Rehearsal.Chain

/-!
# Two attempts, one transaction

A pool may lack the function that a tool tries first, and then another one is tried in its place.
The second attempt must not follow a first one that was accepted: whatever becomes of a transaction
that was sent, the wait for it comes after both attempts, so a lost receipt cannot lead to a second
transaction.
-/

namespace StakingGateway.Operation

open Tool Chain Contract

variable {σ : Type} {chain : Chain (StateM σ)}

/-- The answer names the function of a call that was accepted, and reports the receipt of that
transaction. -/
def ReportsAccepted (chain : Chain (StateM σ)) (events : List Event) (data : Json) : Prop :=
  ∃ account call hash receipt, .write account call (.ok hash) ∈ events ∧
    .receipt account.network hash (.ok receipt) ∈ events ∧
    (chain.NamesReceipt account.network hash → receipt.hash = hash) ∧
    data.get? "transactionHash" = some (.string receipt.hash.text) ∧
    data.get? "method" = some (.string call.function)

/-- The interactions of a call that tries `primary` and, if that is refused, `alternate`. -/
structure Exclusive (chain : Chain (StateM σ)) (primary alternate label : String)
    (calls : Call → Prop) (ends : Json → Prop) (outcome : Except String Envelope)
    (events : List Event) : Prop where
  /-- No other call is simulated or sent. -/
  attempted : ∀ event ∈ events, ∀ call, event.attempted? = some call → calls call
  /-- One transaction is accepted at most. -/
  single : (events.filterMap Event.accepted?).length ≤ 1
  /-- The alternate is tried once at most. -/
  once : (events.filterMap Event.simulated?).countP (·.function = alternate) ≤ 1
  /-- The alternate is tried only after the primary call was refused. -/
  later : ∀ before event after call, events = before ++ event :: after →
    event.attempted? = some call → call.function = alternate →
    ∃ refusal ∈ before, ∃ main e, refusal.refused? = some (main, e) ∧ main.function = primary
  /-- Once the primary call is accepted the alternate is not tried, whatever comes later. -/
  settled : ∀ account call hash, .write account call (.ok hash) ∈ events →
    call.function = primary →
    ∀ event ∈ events, ∀ other, event.attempted? = some other → other.function ≠ alternate
  /-- When both are refused nothing follows, and the second cause is reported. -/
  exhausted : ∀ before event after call e, events = before ++ event :: after →
    event.refused? = some (call, e) → call.function = alternate →
    after = [] ∧ outcome = .ok (.failure (.fallbackExhausted primary alternate (.chain e)) label)
  /-- An answer is for the transaction that was accepted, or no transaction was tried. -/
  reported : ∀ data, outcome = .ok (.ok data) → ReportsAccepted chain events data ∨
    (ends data ∧ ∀ event ∈ events, event.isPreparation = true)

section Cases

variable {plan : Plan} {label : String} {other : Call} {calls : Call → Prop} {ends : Json → Prop}
  {result : Except Fault Json} {opening first second closing : List Event}

theorem Exclusive.of_untried {primary alternate : String} {outcome : Except String Envelope}
    {events : List Event}
    (hcalls : ∀ event ∈ events, ∀ call, event.attempted? = some call →
      calls call ∧ call.function ≠ alternate)
    (hsingle : (events.filterMap Event.accepted?).length ≤ 1)
    (hreported : ∀ data, outcome = .ok (.ok data) → ReportsAccepted chain events data ∨
      (ends data ∧ ∀ event ∈ events, event.isPreparation = true)) :
    Exclusive chain primary alternate label calls ends outcome events where
  attempted event hevent call hcall := (hcalls event hevent call hcall).1
  single := hsingle
  once := by
    have hnone : (events.filterMap Event.simulated?).countP (·.function = alternate) = 0 := by
      rw [List.countP_eq_zero]
      intro call hcall hfunction
      obtain ⟨event, hevent, hsimulated⟩ := List.mem_filterMap.mp hcall
      have hne := (hcalls event hevent call (Event.attempted?_of_simulated? hsimulated)).2
      exact hne (of_decide_eq_true hfunction)
    omega
  later before event after call hsplit hcall hfunction :=
    absurd hfunction (hcalls event (mem_of_split hsplit) call hcall).2
  settled _ _ _ _ _ event hevent call hcall := (hcalls event hevent call hcall).2
  exhausted before event after call e hsplit hrefused hfunction :=
    absurd hfunction
      (hcalls event (mem_of_split hsplit) call (Event.attempted?_of_refused? hrefused)).2
  reported := hreported

theorem Exclusive.of_preparation {primary alternate : String} {outcome : Except String Envelope}
    {events : List Event} (hevents : ∀ event ∈ events, event.isPreparation = true)
    (hends : ∀ data, outcome = .ok (.ok data) → ends data) :
    Exclusive chain primary alternate label calls ends outcome events := by
  have hquiet : Quiet events := quiet_of_preparation hevents
  apply Exclusive.of_untried
  · intro event hevent call hcall
    cases hquiet.tries event hevent call hcall
  · simp [hquiet.filterMap_accepted?]
  · exact fun data hdata => Or.inr ⟨hends data hdata, hevents⟩

theorem reported_of_closing {sent : Call} {hash : TxHash} {events : List Event}
    (hgives : ∀ event ∈ events, chain.Gives event) (halternate : plan.alternate.isSome)
    (hwrite : .write plan.account sent (.ok hash) ∈ events)
    (hclosing : plan.Closing sent hash result closing) (hmem : ∀ event ∈ closing, event ∈ events)
    {data : Json} (hdata : Envelope.ofResult label result = .ok (.ok data)) :
    ReportsAccepted chain events data := by
  have hresult := Envelope.eq_ok_of_ofResult hdata
  cases hclosing with
  | lost e => cases hresult
  | @reported receipt reported reads hreports hreads =>
      cases hresult
      have hreceipt := hmem (.receipt plan.account.network hash (.ok receipt)) (by simp)
      obtain ⟨s, hs⟩ := hgives _ hreceipt
      exact ⟨plan.account, sent, hash, receipt, hwrite, hreceipt, fun hnames => hnames s receipt hs,
        hreports.hash, hreports.method halternate⟩

variable (hmain : calls plan.main) (hne : plan.main.function ≠ other.function)
  (hopening : Quiet opening)

include hmain hne hopening

theorem Exclusive.of_sent {hash : TxHash} (halternate : plan.alternate = some other)
    (hfirst : Attempt plan.account plan.main (.ok hash) first)
    (hclosing : plan.Closing plan.main hash result closing)
    (hgives : ∀ event ∈ opening ++ first ++ closing, chain.Gives event) :
    Exclusive chain plan.main.function other.function label calls ends
      (Envelope.ofResult label result) (opening ++ first ++ closing) := by
  have hquiet := Plan.quiet_of_closing hclosing
  have htries : Tries [plan.main] (opening ++ first ++ closing) :=
    (hopening.tries.append hfirst.tries).append hquiet.tries
  apply Exclusive.of_untried
  · intro event hevent call hcall
    rw [List.mem_singleton.mp (htries event hevent call hcall)]
    exact ⟨hmain, hne⟩
  · simp [hopening.filterMap_accepted?, hfirst.filterMap_accepted?, hquiet.filterMap_accepted?,
      Except.toOption]
  · intro data hdata
    obtain ⟨start, hstart, -⟩ := hfirst.accepted
    have hwrite : .write plan.account plan.main (.ok hash) ∈ opening ++ first ++ closing := by
      simp [hstart]
    exact Or.inl (reported_of_closing hgives (by simp [halternate]) hwrite hclosing
      (fun event hevent => by simp [hevent]) hdata)

variable (hother : calls other) {e : Chain.Error}
  (hfirst : Attempt plan.account plan.main (.error e) first)

include hfirst

omit hmain in
theorem refused_before {rest before after : List Event} {event : Event} {call : Call}
    (hsplit : opening ++ first ++ rest = before ++ event :: after)
    (hcall : event.attempted? = some call) (hfunction : call.function = other.function) :
    (∃ earlier, before = opening ++ first ++ earlier ∧ rest = earlier ++ event :: after) ∧
      ∃ refusal ∈ before, ∃ main e, refusal.refused? = some (main, e) ∧
        main.function = plan.main.function := by
  rcases split_append hsplit with ⟨others, hleft, -⟩ | ⟨earlier, rfl, hright⟩
  · have htries := (hopening.tries.append hfirst.tries) event (mem_of_split hleft) call hcall
    rw [List.mem_singleton.mp htries] at hfunction
    exact absurd hfunction hne
  · obtain ⟨start, last, rfl, hlast, -⟩ := hfirst.refused
    exact ⟨⟨earlier, rfl, hright⟩, last, by simp, plan.main, e, hlast, rfl⟩

include hother

theorem Exclusive.of_second {attempt : Except Chain.Error TxHash}
    {outcome : Except String Envelope} (hsecond : Attempt plan.account other attempt second)
    (hquiet : Quiet closing)
    (hexhausted : ∀ last, attempt = .error last → closing = [] ∧ outcome =
      .ok (.failure (.fallbackExhausted plan.main.function other.function (.chain last)) label))
    (hreported : ∀ data, outcome = .ok (.ok data) →
      ReportsAccepted chain (opening ++ first ++ (second ++ closing)) data) :
    Exclusive chain plan.main.function other.function label calls ends outcome
      (opening ++ first ++ (second ++ closing)) := by
  have htries : Tries [plan.main, other] (opening ++ first ++ (second ++ closing)) :=
    (hopening.tries.append hfirst.tries).append (hsecond.tries.append hquiet.tries)
  have haccepted : (opening ++ first ++ (second ++ closing)).filterMap Event.accepted? =
      (attempt.toOption.map fun hash => (other, hash)).toList := by
    simp [hopening.filterMap_accepted?, hfirst.filterMap_accepted?, hsecond.filterMap_accepted?,
      hquiet.filterMap_accepted?, Except.toOption]
  refine ⟨?_, ?_, ?_, ?_, ?_, ?_, fun data hdata => Or.inl (hreported data hdata)⟩
  · intro event hevent call hcall
    rcases List.mem_pair.mp (htries event hevent call hcall) with rfl | rfl
    · exact hmain
    · exact hother
  · rw [haccepted]
    cases attempt.toOption <;> simp
  · simp [hopening.filterMap_simulated?, hfirst.filterMap_simulated?, hsecond.filterMap_simulated?,
      hquiet.filterMap_simulated?, hne]
  · intro before event after call hsplit hcall hfunction
    exact (refused_before hne hopening hfirst hsplit hcall hfunction).2
  · intro account call hash hwrite hfunction
    have hmem : (call, hash) ∈
        (opening ++ first ++ (second ++ closing)).filterMap Event.accepted? :=
      List.mem_filterMap.mpr ⟨_, hwrite, rfl⟩
    rw [haccepted, Option.mem_toList, Option.map_eq_some_iff] at hmem
    obtain ⟨_, -, hcall⟩ := hmem
    cases hcall
    exact absurd hfunction.symm hne
  · intro before event after call e' hsplit hrefused hfunction
    obtain ⟨⟨earlier, -, hright⟩, -⟩ := refused_before hne hopening hfirst hsplit
      (Event.attempted?_of_refused? hrefused) hfunction
    cases attempt with
    | error last =>
        obtain ⟨rfl, houtcome⟩ := hexhausted last rfl
        obtain ⟨start, final, rfl, hfinal, hstart⟩ := hsecond.refused
        rw [List.append_nil] at hright
        obtain ⟨-, rfl, rfl⟩ := split_unique hstart (by simp) hright hrefused
        rw [hfinal] at hrefused
        cases hrefused
        exact ⟨rfl, houtcome⟩
    | ok hash =>
        rcases List.mem_append.mp (mem_of_split hright) with hmem | hmem
        · rw [hsecond.refused?_eq_none event hmem] at hrefused
          cases hrefused
        · rw [hquiet.refused?_eq_none hmem] at hrefused
          cases hrefused

end Cases

theorem Exclusive.of_followed {plan : Plan} {other : Call} {label : String} {calls : Call → Prop}
    {ends : Json → Prop} {result : Except Fault Json} {opening events : List Event}
    (hallowance : plan.allowance = none) (halternate : plan.alternate = some other)
    (hmain : calls plan.main) (hother : calls other) (hne : plan.main.function ≠ other.function)
    (hopening : ∀ event ∈ opening, event.isPreparation = true)
    (hgives : ∀ event ∈ opening ++ events, chain.Gives event) (h : plan.Followed result events) :
    Exclusive chain plan.main.function other.function label calls ends
      (Envelope.ofResult label result) (opening ++ events) := by
  have hquiet : Quiet opening := quiet_of_preparation hopening
  cases h with
  | unapproved hsome _ =>
      rw [hallowance] at hsome
      cases hsome
  | unsent hbefore hsubmission =>
      obtain rfl := hbefore.eq_nil hallowance
      rw [halternate] at hsubmission
      cases hsubmission with
      | @exhausted _ e last first second hfirst hsecond =>
          rw [← List.append_nil second, List.nil_append, ← List.append_assoc]
          refine of_second hmain hne hquiet hother hfirst hsecond (by simp [Quiet]) ?_ ?_
          · rintro _ ⟨rfl⟩
            exact ⟨rfl, rfl⟩
          · intro data hdata
            cases Envelope.eq_ok_of_ofResult hdata
  | sent hbefore hsubmission hclosing =>
      obtain rfl := hbefore.eq_nil hallowance
      rw [halternate] at hsubmission
      rw [List.nil_append] at hgives ⊢
      cases hsubmission with
      | sent hfirst =>
          rw [← List.append_assoc] at hgives ⊢
          exact of_sent hmain hne hquiet halternate hfirst hclosing hgives
      | @replaced _ e hash first second hfirst hsecond =>
          rw [List.append_assoc first, ← List.append_assoc] at hgives ⊢
          obtain ⟨start, hstart, -⟩ := hsecond.accepted
          refine of_second hmain hne hquiet hother hfirst hsecond (Plan.quiet_of_closing hclosing)
            (by rintro _ ⟨⟩) ?_
          exact fun data => reported_of_closing hgives (by simp [halternate])
            (by simp [hstart]) hclosing (by simp +contextual)

variable (chain) (schedule : Schedule) (state : σ) (context : Context) (args : Json)

def UnstakeCall (args : Json) (call : Call) : Prop :=
  ∃ contract, (Args.given args).address "stakingContract" = .ok contract ∧
    (call = stakingCall contract "withdraw" ∨ ∃ amount,
      (Args.given args).wei "amount" = .ok amount ∧
        call = stakingCall contract "unstake" [.uint amount])

def ClaimCall (args : Json) (call : Call) : Prop :=
  ∃ contract, (Args.given args).address "stakingContract" = .ok contract ∧
    (call = stakingCall contract "claimRewards" ∨ call = stakingCall contract "getReward")

theorem exclusive_unstakeTokens :
    Exclusive chain "unstake" "withdraw" "unstaking tokens" (UnstakeCall args) (fun _ => False)
      (callOver chain schedule state context "unstake_tokens" args).1
      (callOver chain schedule state context "unstake_tokens" args).2 := by
  have htool : unstakeTokens ∈ catalogue := by simp [catalogue]
  apply callOver_of_signs chain schedule state context args htool (fun _ => signs_unstakeTokens)
  · exact fun _ _ => .of_preparation
  · rintro accepted opening plan result events hvalid hgives
      ⟨network, account, contract, amount, -, hcontract, hamount, rfl⟩ hopening hfollowed
    rw [Args.address, text_of_mandatory htool (.tail _ (.head _)) hvalid] at hcontract
    rw [Args.wei, text_of_mandatory htool (.tail _ (.tail _ (.head _))) hvalid] at hamount
    have hmain : UnstakeCall args (stakingCall contract "unstake" [.uint amount]) :=
      ⟨contract, hcontract, Or.inr ⟨amount, hamount, rfl⟩⟩
    have hother : UnstakeCall args (stakingCall contract "withdraw") :=
      ⟨contract, hcontract, Or.inl rfl⟩
    have hne : "unstake" ≠ "withdraw" := by decide
    exact .of_followed rfl rfl hmain hother hne hopening hgives hfollowed

theorem exclusive_claimRewards :
    Exclusive chain "claimRewards" "getReward" "claiming rewards" (ClaimCall args)
      (fun data => ∃ identifier contract, data = nothingToClaim identifier contract)
      (callOver chain schedule state context "claim_staking_rewards" args).1
      (callOver chain schedule state context "claim_staking_rewards" args).2 := by
  have htool : claimRewards ∈ catalogue := by simp [catalogue]
  apply callOver_of_signs chain schedule state context args htool (fun _ => signs_claimRewards)
  · exact fun _ _ => .of_preparation
  · rintro accepted opening plan result events hvalid hgives
      ⟨network, account, contract, -, hcontract, rfl⟩ hopening hfollowed
    rw [Args.address, text_of_mandatory htool (.tail _ (.head _)) hvalid] at hcontract
    have hmain : ClaimCall args (stakingCall contract "claimRewards") :=
      ⟨contract, hcontract, Or.inl rfl⟩
    have hother : ClaimCall args (stakingCall contract "getReward") :=
      ⟨contract, hcontract, Or.inr rfl⟩
    have hne : "claimRewards" ≠ "getReward" := by decide
    exact .of_followed rfl rfl hmain hother hne hopening hgives hfollowed

/-- Over every chain and for all arguments, the second attempt of a tool is made only when the first
one was refused, and never after a transaction was accepted. -/
theorem attempts_exclusive :
    Exclusive chain "unstake" "withdraw" "unstaking tokens" (UnstakeCall args) (fun _ => False)
        (callOver chain schedule state context "unstake_tokens" args).1
        (callOver chain schedule state context "unstake_tokens" args).2 ∧
      Exclusive chain "claimRewards" "getReward" "claiming rewards" (ClaimCall args)
        (fun data => ∃ identifier contract, data = nothingToClaim identifier contract)
        (callOver chain schedule state context "claim_staking_rewards" args).1
        (callOver chain schedule state context "claim_staking_rewards" args).2 :=
  ⟨exclusive_unstakeTokens chain schedule state context args,
    exclusive_claimRewards chain schedule state context args⟩

-- The first call is accepted, but there is no receipt in time.
example :
    let stage : Rehearsal.Stage := {
      receipts := [("unstake", [.error (.receiptTimeout "0x01" 60)])] }
    let run := callOver Rehearsal.chain inOrder stage
      ⟨some "0x0123456789abcdef0123456789abcdef0123456789abcdef0123456789abcdef"⟩
      "unstake_tokens" (.object [("amount", .string "5"),
        ("stakingContract", .string "0x00000000000000000000000000000000000000aa")])
    (run.2.filterMap Event.attempted?).map (·.function) = ["unstake", "unstake"] := by
  decide +kernel

end StakingGateway.Operation
