import StakingGateway.Proofs.SigningCalls
import StakingGateway.Rehearsal.Chain

/-!
# Approvals come first

A contract that draws tokens from the signer must be allowed to do so before. The main call is
tried only right after an approval was mined with success, and the approval is for just the token,
the spender and the amount of the main call. Every other end of the approval is the end of the tool
call.
-/

namespace StakingGateway.Operation

open Tool Chain Contract

variable {σ : Type}

/-- The interactions of a call that needs an approval. `due` says, with what happened before the
approval was sent, which token and amount a main call draws. -/
structure Gated (chain : Chain (StateM σ)) (main label : String)
    (due : List Event → Network → Call → Address → Uint256 → Prop)
    (outcome : Except String Envelope) (events : List Event) : Prop where
  /-- The main call follows on an approval by the same signer that was mined with success. -/
  approved : ∀ before network sender call answer after,
    events = before ++ .simulate network sender call answer :: after → call.function = main →
    ∃ start account token amount hash receipt, before = start ++
        [.write account (approveCall token call.target amount) (.ok hash),
         .receipt network hash (.ok receipt)] ∧
      account = ⟨network, sender⟩ ∧ receipt.status = .success ∧ due start network call token amount
  /-- An approval that is refused ends the tool call. -/
  unsent : ∀ before event after call e, events = before ++ event :: after →
    event.refused? = some (call, e) → call.function = "approve" →
    after = [] ∧ outcome = .ok (.failure (.chain e) label)
  /-- So does one whose receipt cannot be had. -/
  lost : ∀ before account call hash network e after,
    events = before ++ .write account call (.ok hash) :: .receipt network hash (.error e) :: after →
    call.function = "approve" → after = [] ∧ outcome = .ok (.failure (.chain e) label)
  /-- And so does one that was mined but failed. -/
  reverted : ∀ before account call hash network receipt after,
    events =
      before ++ .write account call (.ok hash) :: .receipt network hash (.ok receipt) :: after →
    call.function = "approve" → receipt.status = .failed →
    after = [] ∧ outcome = .ok (.failure (.approvalReverted receipt.hash) label) ∧
      (chain.NamesReceipt network hash → receipt.hash = hash)

variable {chain : Chain (StateM σ)} {plan : Plan} {allowance : Allowance}

/-- A plan with an approval begins with the approval. If that fails, this is all; else the main call
is simulated at once. -/
theorem Plan.Followed.approval {result : Except Fault Json} {events : List Event}
    (hallowance : plan.allowance = some allowance) (halternate : plan.alternate = none)
    (h : plan.Followed result events) :
    ∃ outcome first rest, Approval plan.account allowance.call outcome first ∧
      events = first ++ rest ∧ Tries [plan.main] rest ∧
      (∀ fault, outcome = .error fault → rest = [] ∧ result = .error fault) ∧
      ∀ before event after call, rest = before ++ event :: after →
        event.simulated? = some call → before = [] ∧ ∃ answer,
          event = .simulate plan.account.network plan.account.address plan.main answer := by
  cases h with
  | unapproved hsome happroval =>
      rw [hallowance] at hsome
      cases hsome
      exact ⟨_, events, [], happroval, (List.append_nil events).symm, by simp [Tries],
        fun fault hfault => ⟨rfl, by cases hfault; rfl⟩, by simp⟩
  | unsent hbefore hsubmission =>
      obtain ⟨receipt, happroval⟩ := hbefore.approval hallowance
      rw [halternate] at hsubmission
      cases hsubmission with
      | refused hmain =>
          have hnil : Quiet [] := by simp [Quiet]
          refine ⟨_, _, _, happroval, rfl, hmain.tries, by simp, ?_⟩
          intro before event after call hsplit hevent
          exact hmain.begins hnil (by rwa [List.append_nil]) hevent
  | sent hbefore hsubmission hclosing =>
      obtain ⟨receipt, happroval⟩ := hbefore.approval hallowance
      rw [halternate] at hsubmission
      have hquiet := quiet_of_closing hclosing
      cases hsubmission with
      | sent hmain =>
          refine ⟨_, _, _, happroval, List.append_assoc .., hmain.tries.append hquiet.tries,
            by simp, ?_⟩
          intro before event after call hsplit hevent
          exact hmain.begins hquiet hsplit hevent

variable {main label : String} {due : List Event → Network → Call → Address → Uint256 → Prop}

theorem Gated.of_preparation {outcome : Except String Envelope} {events : List Event}
    (h : ∀ event ∈ events, event.isPreparation = true) :
    Gated chain main label due outcome events := by
  have hquiet : Quiet events := quiet_of_preparation h
  refine ⟨?_, ?_, ?_, ?_⟩
  · intro before network sender call answer after hsplit
    cases hquiet _ (mem_of_split hsplit)
  · intro before event after call e hsplit hrefused
    rw [hquiet.refused?_eq_none (mem_of_split hsplit)] at hrefused
    cases hrefused
  · intro before account call hash network e after hsplit
    cases hquiet _ (mem_of_split hsplit)
  · intro before account call hash network receipt after hsplit
    cases hquiet _ (mem_of_split hsplit)

/-- What concerns an approval lies in the stretch of the approval. -/
theorem split_approval {opening first rest before after : List Event} {event : Event} {call : Call}
    (hopening : Quiet opening) (hrest : Tries [plan.main] rest)
    (hsplit : opening ++ (first ++ rest) = before ++ event :: after)
    (hcall : event.attempted? = some call) (hfunction : call.function = "approve") :
    ∃ earlier later, first = earlier ++ event :: later ∧ after = later ++ rest := by
  rcases split_append hsplit with ⟨others, hleft, -⟩ | ⟨earlier, rfl, hright⟩
  · cases hopening.tries event (mem_of_split hleft) call hcall
  · rcases split_append hright with ⟨later, hfirst, rfl⟩ | ⟨start, rfl, hlast⟩
    · exact ⟨earlier, later, hfirst, rfl⟩
    · have hmain := List.mem_singleton.mp (hrest event (mem_of_split hlast) call hcall)
      rw [hmain] at hfunction
      exact absurd hfunction plan.main_ne_approve

theorem Gated.of_followed {result : Except Fault Json} {opening events : List Event}
    (hallowance : plan.allowance = some allowance) (halternate : plan.alternate = none)
    (htarget : plan.main.target = allowance.spender)
    (hopening : ∀ event ∈ opening, event.isPreparation = true)
    (hdue : ∀ more,
      due (opening ++ more) plan.account.network plan.main allowance.token allowance.amount)
    (hgives : ∀ event ∈ opening ++ events, chain.Gives event) (h : plan.Followed result events) :
    Gated chain plan.main.function label due (Envelope.ofResult label result)
      (opening ++ events) := by
  have hquiet : Quiet opening := quiet_of_preparation hopening
  obtain ⟨outcome, first, rest, happroval, rfl, hrest, hfault, hbegins⟩ :=
    h.approval hallowance halternate
  obtain ⟨delivered, hdelivery, hlost, hreverted⟩ := happroval.delivery
  have hfirst : Tries [allowance.call] (opening ++ first) := hquiet.tries.append hdelivery.tries
  have hend : ∀ fault, outcome = .error fault → rest = [] ∧
      Envelope.ofResult label result = Envelope.ofResult label (.error fault) := by
    intro fault houtcome
    obtain ⟨hnone, hresult⟩ := hfault fault houtcome
    exact ⟨hnone, by rw [hresult]⟩
  refine ⟨?_, ?_, ?_, ?_⟩
  · intro before network sender call answer after hsplit hfunction
    rw [← List.append_assoc] at hsplit
    rcases split_append hsplit with ⟨others, hleft, -⟩ | ⟨earlier, rfl, hright⟩
    · have hcall := List.mem_singleton.mp (hfirst _ (mem_of_split hleft) call rfl)
      rw [hcall] at hfunction
      exact absurd hfunction.symm plan.main_ne_approve
    · obtain ⟨rfl, answer', hevent⟩ := hbegins _ _ _ _ hright rfl
      cases hevent
      cases outcome with
      | error fault =>
          rw [(hfault fault rfl).1] at hright
          cases hright
      | ok receipt =>
          obtain ⟨hstatus, start, hash, rfl⟩ := happroval.receipt
          refine ⟨opening ++ start, plan.account, allowance.token, allowance.amount, hash, receipt,
            ?_, rfl, hstatus, hdue start⟩
          rw [htarget]
          simp [Allowance.call]
  · intro before event after call e hsplit hrefused hfunction
    obtain ⟨earlier, later, hsplitFirst, rfl⟩ :=
      split_approval hquiet hrest hsplit (Event.attempted?_of_refused? hrefused) hfunction
    obtain ⟨rfl, hdelivered⟩ := hdelivery.refused hsplitFirst hrefused
    exact hend _ (hlost e hdelivered)
  · intro before account call hash network e after hsplit hfunction
    obtain ⟨earlier, later, hsplitFirst, hafter⟩ :=
      split_approval hquiet hrest hsplit rfl hfunction
    obtain rfl := hdelivery.accepted hsplitFirst rfl
    cases hafter
    exact hend _ (hlost e rfl)
  · intro before account call hash network receipt after hsplit hfunction hstatus
    obtain ⟨earlier, later, hsplitFirst, hafter⟩ :=
      split_approval hquiet hrest hsplit rfl hfunction
    obtain rfl := hdelivery.accepted hsplitFirst rfl
    cases hafter
    obtain ⟨hnone, houtcome⟩ := hend _ (hreverted receipt rfl hstatus)
    refine ⟨hnone, houtcome, fun hnames => ?_⟩
    obtain ⟨s, hs⟩ := hgives (.receipt plan.account.network hash (.ok receipt)) (by simp [hsplit])
    exact hnames s receipt hs

structure Ungated (main : String) (events : List Event) : Prop where
  attempted : ∀ event ∈ events, ∀ call, event.attempted? = some call → call.function = main
  once : (events.filterMap Event.simulated?).length ≤ 1
  single : (events.filterMap Event.accepted?).length ≤ 1

theorem Ungated.of_quiet {events : List Event} (h : Quiet events) : Ungated main events := by
  refine ⟨fun event hevent call hcall => ?_, ?_, ?_⟩
  · cases h.tries event hevent call hcall
  · simp [h.filterMap_simulated?]
  · simp [h.filterMap_accepted?]

theorem Ungated.of_attempt {attempt : Except Chain.Error TxHash}
    {opening events closing : List Event} (hopening : Quiet opening)
    (h : Attempt plan.account plan.main attempt events) (hclosing : Quiet closing) :
    Ungated plan.main.function (opening ++ (events ++ closing)) := by
  have htries : Tries [plan.main] (opening ++ (events ++ closing)) :=
    hopening.tries.append (h.tries.append hclosing.tries)
  refine ⟨fun event hevent call hcall => ?_, ?_, ?_⟩
  · rw [List.mem_singleton.mp (htries event hevent call hcall)]
  · simp [hopening.filterMap_simulated?, h.filterMap_simulated?, hclosing.filterMap_simulated?]
  · simp only [List.filterMap_append, hopening.filterMap_accepted?, h.filterMap_accepted?,
      hclosing.filterMap_accepted?]
    cases attempt.toOption <;> simp

theorem Ungated.of_followed {result : Except Fault Json} {opening events : List Event}
    (hallowance : plan.allowance = none) (halternate : plan.alternate = none)
    (hopening : ∀ event ∈ opening, event.isPreparation = true) (h : plan.Followed result events) :
    Ungated plan.main.function (opening ++ events) := by
  have hquiet : Quiet opening := quiet_of_preparation hopening
  cases h with
  | unapproved hsome _ =>
      rw [hallowance] at hsome
      cases hsome
  | @unsent fault before after hbefore hsubmission =>
      obtain rfl := hbefore.eq_nil hallowance
      rw [halternate] at hsubmission
      cases hsubmission with
      | refused hmain =>
          rw [List.nil_append, ← List.append_nil after]
          exact .of_attempt hquiet hmain (by simp [Quiet])
  | sent hbefore hsubmission hclosing =>
      obtain rfl := hbefore.eq_nil hallowance
      rw [halternate] at hsubmission
      cases hsubmission with
      | sent hmain => exact .of_attempt hquiet hmain (Plan.quiet_of_closing hclosing)

variable (chain) (schedule : Schedule) (state : σ) (context : Context) (args : Json)

def DepositDue (args : Json) (start : List Event) (network : Network) (call : Call)
    (token : Address) (amount : Uint256) : Prop :=
  ∃ farm pool info, (Args.given args).address "farmContract" = .ok farm ∧
    (Args.given args).natural "poolId" = .ok pool ∧
    (Args.given args).units "amount" Amount.etherDecimals = .ok amount ∧
    .read network (farmCall farm "poolInfo" [poolToken pool]) (.ok info) ∈ start ∧
    addressAt info 0 "poolInfo" = .ok token ∧
    call = farmCall farm "deposit" [poolToken pool, .uint amount]

def WrapDue (args : Json) (_ : List Event) (network : Network) (call : Call) (token : Address)
    (amount : Uint256) : Prop :=
  ∃ wsteth, liquidToken? network "stETH" = some token ∧
    liquidToken? network "wstETH" = some wsteth ∧
    (Args.given args).units "amount" Amount.etherDecimals = .ok amount ∧
    call = wstethCall wsteth "wrap" [.uint amount]

theorem gated_stakePairTokens :
    Gated chain "deposit" "staking LP tokens" (DepositDue args)
      (callOver chain schedule state context "stake_lp_tokens" args).1
      (callOver chain schedule state context "stake_lp_tokens" args).2 := by
  have htool : stakePairTokens ∈ catalogue := by simp [catalogue]
  apply callOver_of_signs chain schedule state context args htool (fun _ => signs_stakePairTokens)
  · exact fun _ _ hevents _ => .of_preparation hevents
  · rintro accepted opening plan result events hvalid hgives ⟨network, account, farm, pairToken,
      pool, amount, info, hopened, hfarm, hpool, hamount, hread, htoken, rfl⟩ hopening hfollowed
    obtain ⟨-, -, signer, -, -, -, -, rfl⟩ :=
      hopened.resolved fun event hevent => hgives event (List.mem_append_left events hevent)
    rw [Args.address, text_of_mandatory htool (.tail _ (.head _)) hvalid] at hfarm
    rw [Args.natural, Args.natural?, get?_of_mandatory hvalid (param_names _ htool)
      (.tail _ (.tail _ (.head _)))] at hpool
    rw [Args.units, text_of_mandatory htool (.tail _ (.tail _ (.tail _ (.head _)))) hvalid]
      at hamount
    have hallowance : (depositPlan ⟨network, signer.address⟩ farm pairToken pool amount).allowance
        = some ⟨pairToken, farm, amount⟩ := rfl
    refine .of_followed hallowance rfl rfl hopening (fun more => ?_) hgives hfollowed
    exact ⟨farm, pool, info, hfarm, hpool, hamount, List.mem_append_left more hread, htoken, rfl⟩

variable {network named : Network} {account : Account} {accepted : Args}
  {opening events : List Event}

/-- Wrapping opens the clients of the network that the arguments name. -/
theorem opened_of_named (hnetwork : namedNetwork args = some network)
    (hvalid : validate wrapSteth.params args = .ok accepted)
    (hgives : ∀ event ∈ opening ++ events, chain.Gives event)
    (hopened : Opened context accepted opening named account) :
    named = network ∧ account.network = network := by
  have htool : wrapSteth ∈ catalogue := by simp [catalogue]
  obtain ⟨identifier, -, signer, hidentifier, -, hnamed, -, rfl⟩ :=
    hopened.resolved fun event hevent => hgives event (List.mem_append_left events hevent)
  have hidentified := namedNetwork_of_text htool (.head _) hvalid hidentifier
  rw [hnetwork, hnamed] at hidentified
  cases hidentified
  exact ⟨rfl, rfl⟩

theorem gated_wrapSteth {steth : Address} (hnetwork : namedNetwork args = some network)
    (hsteth : liquidToken? network "stETH" = some steth) :
    Gated chain "wrap" "wrapping stETH" (WrapDue args)
      (callOver chain schedule state context "wrap_steth" args).1
      (callOver chain schedule state context "wrap_steth" args).2 := by
  have htool : wrapSteth ∈ catalogue := by simp [catalogue]
  apply callOver_of_signs chain schedule state context args htool (fun _ => signs_wrapSteth)
  · exact fun _ _ hevents _ => .of_preparation hevents
  · rintro accepted opening plan result events hvalid hgives
      ⟨named, account, wsteth, amount, hopened, hwsteth, hamount, rfl⟩ hopening hfollowed
    obtain ⟨rfl, haccount⟩ := opened_of_named chain context args hnetwork hvalid hgives hopened
    rw [Args.units, text_of_mandatory htool (.tail _ (.head _)) hvalid] at hamount
    rw [hsteth] at hfollowed
    have hallowance : (wrapPlan account (some steth) wsteth amount).allowance =
        some ⟨steth, wsteth, amount⟩ := rfl
    refine .of_followed hallowance rfl rfl hopening (fun more => ?_) hgives hfollowed
    rw [← haccount] at hsteth hwsteth
    exact ⟨wsteth, hsteth, hwsteth, hamount, rfl⟩

theorem ungated_wrapSteth (hnetwork : namedNetwork args = some network)
    (hnone : liquidToken? network "stETH" = none) :
    Ungated "wrap" (callOver chain schedule state context "wrap_steth" args).2 := by
  have htool : wrapSteth ∈ catalogue := by simp [catalogue]
  apply callOver_of_signs chain schedule state context args htool (fun _ => signs_wrapSteth)
    fun _ events => Ungated "wrap" events
  · exact fun _ _ hevents _ => .of_quiet (quiet_of_preparation hevents)
  · rintro accepted opening plan result events hvalid hgives
      ⟨named, account, wsteth, amount, hopened, hwsteth, hamount, rfl⟩ hopening hfollowed
    obtain ⟨rfl, -⟩ := opened_of_named chain context args hnetwork hvalid hgives hopened
    rw [hnone] at hfollowed
    have hungated := Ungated.of_followed rfl rfl hopening hfollowed
    exact hungated

/-- Over every chain and for all arguments: a deposit comes only after an approval of just what it
draws, and so does wrapping on a network with a token to be wrapped. On other networks wrapping
needs no approval and sends none. -/
theorem approval_gates_main :
    Gated chain "deposit" "staking LP tokens" (DepositDue args)
        (callOver chain schedule state context "stake_lp_tokens" args).1
        (callOver chain schedule state context "stake_lp_tokens" args).2 ∧
      ∀ network, namedNetwork args = some network →
        (∀ steth, liquidToken? network "stETH" = some steth →
          Gated chain "wrap" "wrapping stETH" (WrapDue args)
            (callOver chain schedule state context "wrap_steth" args).1
            (callOver chain schedule state context "wrap_steth" args).2) ∧
        (liquidToken? network "stETH" = none →
          Ungated "wrap" (callOver chain schedule state context "wrap_steth" args).2) := by
  refine ⟨gated_stakePairTokens chain schedule state context args, fun network hnetwork => ⟨?_, ?_⟩⟩
  · intro steth hsteth
    exact gated_wrapSteth chain schedule state context args hnetwork hsteth
  · intro hnone
    exact ungated_wrapSteth chain schedule state context args hnetwork hnone

-- The approval was mined but failed.
example :
    let stage : Rehearsal.Stage := { receipts := [("approve", [.ok { status := .failed }])] }
    let run := callOver Rehearsal.chain inOrder stage
      ⟨some "0x0123456789abcdef0123456789abcdef0123456789abcdef0123456789abcdef"⟩
      "wrap_steth" (.object [("amount", .string "1")])
    (run.2.filterMap Event.attempted?).map (·.function) = ["approve", "approve"] := by
  decide +kernel

end StakingGateway.Operation
