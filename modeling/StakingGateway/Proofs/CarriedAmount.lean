import StakingGateway.Proofs.AmountWriting
import StakingGateway.Proofs.SigningCalls
import StakingGateway.Rehearsal.Chain

/-!
# Amounts from the request to the answer

A signing tool reads its amount once. The calls of its plan and the answer at the end are made of
that one word, so what the text denotes is what is sent and what is reported, whatever the chain
does meanwhile.
-/

namespace StakingGateway.Operation

open Tool Chain Contract

/-! ## What a success tells -/

def Answers {α : Type} (x : Action α) (P : α → Prop) : Prop :=
  ∀ value events, x.Course (.ok value) events → P value

section Answers

variable {α β : Type} {P : β → Prop}

theorem answers_pure {value : β} (h : P value) : Answers (pure value) P := by
  intro other events hx
  obtain ⟨hvalue, -⟩ := Action.course_pure.mp hx
  cases hvalue
  exact h

theorem answers_bind {x : Action α} {f : α → Action β}
    (h : ∀ value events, x.Course (.ok value) events → Answers (f value) P) :
    Answers (x >>= f) P := by
  intro result events hx
  rcases Action.course_bind.mp hx with ⟨fault, -, hfault⟩ | ⟨value, before, after, hvalue, hrest, -⟩
  · cases hfault
  · exact h value before hvalue result after hrest

theorem answers_step {x : Action α} {f : α → Action β} (h : ∀ value, Answers (f value) P) :
    Answers (x >>= f) P :=
  answers_bind fun value _ _ => h value

theorem answers_ofArgument {argument : Except ArgumentError α} {f : α → Action β}
    (h : ∀ value, argument = .ok value → Answers (f value) P) :
    Answers (Action.ofArgument argument >>= f) P := by
  refine answers_bind fun value events hvalue => h value ?_
  obtain ⟨hok, -⟩ := Action.course_ofArgument.mp hvalue
  cases argument with
  | error e => cases hok
  | ok given => rw [Except.ok.inj hok]

end Answers

/-! ## Amounts of a call -/

def GivenAmount (args : Json) (decimals : Nat) (amount : Uint256) : Prop :=
  ∃ text, args.get? "amount" = some (.string text) ∧ Amount.Denotes text decimals amount

theorem GivenAmount.unique {args : Json} {decimals : Nat} {amount other : Uint256}
    (h : GivenAmount args decimals amount) (hother : GivenAmount args decimals other) :
    amount = other := by
  obtain ⟨text, hget, hdenotes⟩ := h
  obtain ⟨text', hget', hdenotes'⟩ := hother
  rw [hget] at hget'
  cases hget'
  exact hdenotes.unique hdenotes'

def GivenPool (args : Json) (pool : Uint256) : Prop :=
  args.get? "poolId" = some (.number (.integer pool.toNat))

/-- The calls that are made for an amount, each with the amount in its place; only `withdraw` of a
staking pool takes none. -/
inductive AmountCall (args : Json) (amount : Uint256) : Call → Prop where
  | stake (target : Address) :
    AmountCall args amount ⟨.staking, target, "stake", [.uint amount], none⟩
  | unstake (target : Address) :
    AmountCall args amount ⟨.staking, target, "unstake", [.uint amount], none⟩
  | withdrawAll (target : Address) :
    AmountCall args amount ⟨.staking, target, "withdraw", [], none⟩
  | submit (target referral : Address) :
    AmountCall args amount ⟨.lidoSteth, target, "submit", [.address referral], some amount⟩
  | approve (target spender : Address) :
    AmountCall args amount ⟨.erc20, target, "approve", [.address spender, .uint amount], none⟩
  | wrap (target : Address) :
    AmountCall args amount ⟨.wsteth, target, "wrap", [.uint amount], none⟩
  | unwrap (target : Address) :
    AmountCall args amount ⟨.wsteth, target, "unwrap", [.uint amount], none⟩
  | deposit (target : Address) {pool : Uint256} (hpool : GivenPool args pool) :
    AmountCall args amount ⟨.masterChef, target, "deposit", [.uint pool, .uint amount], none⟩
  | withdraw (target : Address) {pool : Uint256} (hpool : GivenPool args pool) :
    AmountCall args amount ⟨.masterChef, target, "withdraw", [.uint pool, .uint amount], none⟩

/-- A field of the answer, with the places in which it is written, reports the amount. -/
def ReportsAmount (data : Json) (field : String × Nat) (amount : Uint256) : Prop :=
  ∃ shown, data.get? field.1 = some (.string shown) ∧ Amount.Denotes shown field.2 amount

/-- One amount runs through a call: from its text, given with so many places, through all that is
simulated and sent, to the fields of the answer that report it. -/
structure CarriesAmount (decimals : Nat) (reported : List (String × Nat)) (args : Json)
    (outcome : Except String Envelope) (events : List Event) : Prop where
  calls : ∀ event ∈ events, ∀ call, event.attempted? = some call →
    ∃ amount, GivenAmount args decimals amount ∧ AmountCall args amount call
  answers : ∀ data, outcome = .ok (.ok data) →
    ∃ amount, GivenAmount args decimals amount ∧
      ∀ field ∈ reported, ReportsAmount data field amount
  unique : ∀ amount other, GivenAmount args decimals amount → GivenAmount args decimals other →
    amount = other

/-! ## What is read of the arguments -/

theorem get?_of_text {args : Json} {field text : String}
    (h : (Args.given args).text field = .ok text) : args.get? field = some (.string text) := by
  rw [Args.text, Args.text?, Args.get?_given] at h
  cases hstring : (args.get? field).bind Json.string? with
  | none =>
      rw [hstring] at h
      cases h
  | some shown =>
      rw [hstring] at h
      cases h
      obtain ⟨value, hget, hvalue⟩ := Option.bind_eq_some_iff.mp hstring
      rw [hget]
      cases value <;> cases hvalue
      rfl

theorem text_of_read_eq_ok {α ε : Type} {argument : Except ArgumentError String}
    {read : String → Except ε α} {fault : ε → ArgumentError} {value : α}
    (h : (do (read (← argument)).mapError fault) = .ok value) :
    ∃ text, argument = .ok text ∧ read text = .ok value := by
  cases argument with
  | error e => cases h
  | ok text =>
      refine ⟨text, rfl, ?_⟩
      have hread : (read text).mapError fault = .ok value := h
      cases hvalue : read text with
      | error e =>
          rw [hvalue] at hread
          cases hread
      | ok given =>
          rw [hvalue] at hread
          exact congrArg Except.ok (Except.ok.inj hread)

section Arguments

variable {tool : Tool} (htool : tool ∈ catalogue) {args : Json} {accepted : Args}
  (hvalid : validate tool.params args = .ok accepted) {amount : Uint256} {description : String}

include htool hvalid

theorem givenAmount_of_wei (hparam : Param.mandatory "amount" .wei description ∈ tool.params)
    (h : accepted.wei "amount" = .ok amount) : GivenAmount args 0 amount := by
  rw [Args.wei, text_of_mandatory htool hparam hvalid] at h
  obtain ⟨text, htext, hread⟩ := text_of_read_eq_ok h
  exact ⟨text, get?_of_text htext, Amount.denotes_of_parseWei hread⟩

theorem givenAmount_of_units {decimals : Nat}
    (hparam : Param.mandatory "amount" .decimal description ∈ tool.params)
    (h : accepted.units "amount" decimals = .ok amount) : GivenAmount args decimals amount := by
  rw [Args.units, text_of_mandatory htool hparam hvalid] at h
  obtain ⟨text, htext, hread⟩ := text_of_read_eq_ok h
  exact ⟨text, get?_of_text htext, Amount.denotes_of_parseUnits hread⟩

theorem givenPool_of_natural {pool : Nat}
    (hparam : Param.mandatory "poolId" .integer description ∈ tool.params)
    (h : accepted.natural "poolId" = .ok pool) : GivenPool args (BitVec.ofNat 256 pool) := by
  rw [Args.natural, Args.natural?, get?_of_mandatory hvalid (param_names tool htool) hparam,
    Args.get?_given] at h
  cases hnatural : (args.get? "poolId").bind Json.natural? with
  | none =>
      rw [hnatural] at h
      cases h
  | some number =>
      rw [hnatural] at h
      cases h
      obtain ⟨value, hget, hvalue⟩ := Option.bind_eq_some_iff.mp hnatural
      -- A number of 64 bits is not cut short in a word of 256 bits.
      obtain ⟨rfl, hlt⟩ := natural?_eq_some hvalue
      have hword : pool < 2 ^ 256 := Nat.lt_trans hlt (by decide)
      rw [GivenPool, hget, BitVec.toNat_ofNat, Nat.mod_eq_of_lt hword]

end Arguments

/-! ## The tools -/

section Tools

variable {context : Context} {args : Args} {data : Json} {field : String} {amount : Uint256}

theorem reportsAmount_text (h : data.get? field = some (.string amount.text)) :
    ReportsAmount data (field, 0) amount := by
  refine ⟨amount.text, h, ?_⟩
  rw [Amount.text_eq_formatUnits]
  exact Amount.denotes_formatUnits amount (by decide)

theorem reportsAmount_formatEther
    (h : data.get? field = some (.string (Amount.formatEther amount))) :
    ReportsAmount data (field, 18) amount :=
  ⟨Amount.formatEther amount, h, Amount.denotes_formatUnits amount (by decide)⟩

def AnswersAmount (x : Action Json) (read : Except ArgumentError Uint256)
    (reported : List (String × Nat)) : Prop :=
  Answers x fun data => ∃ amount, read = .ok amount ∧
    ∀ field ∈ reported, ReportsAmount data field amount

theorem answersAmount_formatEther {read : Except ArgumentError Uint256} (hread : read = .ok amount)
    (h : data.get? field = some (.string (Amount.formatEther amount))) :
    AnswersAmount (pure data) read [(field, 18)] :=
  answers_pure ⟨amount, hread, List.forall_mem_singleton.mpr (reportsAmount_formatEther h)⟩

theorem answers_stakeTokens :
    AnswersAmount (stakeTokens.run context args) (args.wei "amount")
      [("amount", 0), ("amountFormatted", 18)] := by
  refine answers_step fun identifier => answers_step fun contract => ?_
  refine answers_ofArgument fun amount hamount => ?_
  refine answers_step fun key => answers_step fun network => answers_step fun account => ?_
  refine answers_step fun receipt => answers_pure ⟨amount, hamount, ?_⟩
  refine List.forall_mem_cons.mpr ⟨reportsAmount_text ?_, List.forall_mem_singleton.mpr
    (reportsAmount_formatEther ?_)⟩ <;> simp [Json.lookup]

theorem answers_unstakeTokens :
    AnswersAmount (unstakeTokens.run context args) (args.wei "amount") [("amount", 0)] := by
  refine answers_step fun identifier => answers_step fun contract => ?_
  refine answers_ofArgument fun amount hamount => ?_
  refine answers_step fun key => answers_step fun network => answers_step fun account => ?_
  refine answers_step fun sent => answers_step fun receipt => answers_pure ⟨amount, hamount, ?_⟩
  refine List.forall_mem_singleton.mpr (reportsAmount_text ?_)
  simp [Json.lookup]

theorem answers_stakeEther :
    AnswersAmount (stakeEther.run context args) (args.units "amount" 18) [("ethStaked", 18)] := by
  refine answers_step fun identifier => ?_
  refine answers_ofArgument fun amount hamount => ?_
  refine answers_step fun referral => answers_step fun key => answers_step fun network => ?_
  refine answers_step fun account => answers_step fun steth => answers_step fun before => ?_
  refine answers_step fun receipt => answers_step fun after => ?_
  refine answersAmount_formatEther hamount ?_
  simp [Json.lookup]

theorem answers_wrapSteth :
    AnswersAmount (wrapSteth.run context args) (args.units "amount" 18) [("stETHWrapped", 18)] := by
  refine answers_step fun identifier => ?_
  refine answers_ofArgument fun amount hamount => ?_
  refine answers_step fun key => answers_step fun network => answers_step fun account => ?_
  refine answers_step fun wsteth => answers_step fun approval => answers_step fun receipt => ?_
  refine answers_step fun expected => answersAmount_formatEther hamount ?_
  simp [Json.lookup]

theorem answers_unwrapWsteth :
    AnswersAmount (unwrapWsteth.run context args) (args.units "amount" 18)
      [("wstETHUnwrapped", 18)] := by
  refine answers_step fun identifier => ?_
  refine answers_ofArgument fun amount hamount => ?_
  refine answers_step fun key => answers_step fun network => answers_step fun account => ?_
  refine answers_step fun wsteth => answers_step fun expected => answers_step fun receipt => ?_
  refine answersAmount_formatEther hamount ?_
  simp [Json.lookup]

theorem answers_stakePairTokens :
    AnswersAmount (stakePairTokens.run context args) (args.units "amount" 18)
      [("amountStaked", 18)] := by
  refine answers_step fun identifier => answers_step fun farm => answers_step fun pool => ?_
  refine answers_ofArgument fun amount hamount => ?_
  refine answers_step fun key => answers_step fun network => answers_step fun account => ?_
  refine answers_step fun info => answers_step fun pairToken => answers_step fun approval => ?_
  refine answers_step fun receipt => answersAmount_formatEther hamount ?_
  simp [Json.lookup]

theorem answers_withdrawPairTokens :
    AnswersAmount (withdrawPairTokens.run context args) (args.units "amount" 18)
      [("amountWithdrawn", 18)] := by
  refine answers_step fun identifier => answers_step fun farm => answers_step fun pool => ?_
  refine answers_ofArgument fun amount hamount => ?_
  refine answers_step fun key => answers_step fun network => answers_step fun account => ?_
  refine answers_step fun receipt => answersAmount_formatEther hamount ?_
  simp [Json.lookup]

end Tools

/-! ## Over a chain -/

variable {σ : Type} (chain : Chain (StateM σ)) (schedule : Schedule) (state : σ)
  (context : Context) (args : Json)

/-- If the plans of a tool are for the amount that is read, and its answers report it, then every
call of the tool carries the amount. -/
theorem carriesAmount_of_signs {tool : Tool} (htool : tool ∈ catalogue)
    {plans : Args → List Event → Plan → Prop} {read : Args → Except ArgumentError Uint256}
    {decimals : Nat} {reported : List (String × Nat)}
    (hsigns : ∀ accepted, Signs (tool.run context accepted) (plans accepted) fun _ => False)
    (hread : ∀ accepted amount, validate tool.params args = .ok accepted →
      read accepted = .ok amount → GivenAmount args decimals amount)
    (hcalls : ∀ accepted opening plan, validate tool.params args = .ok accepted →
      plans accepted opening plan → ∃ amount, read accepted = .ok amount ∧
        ∀ call ∈ plan.calls, AmountCall args amount call)
    (hanswers : ∀ accepted,
      AnswersAmount (tool.run context accepted) (read accepted) reported) :
    CarriesAmount decimals reported args
      (callOver chain schedule state context tool.name args).1
      (callOver chain schedule state context tool.name args).2 where
  calls := by
    apply callOver_of_signs chain schedule state context args htool hsigns
      fun _ events => ∀ event ∈ events, ∀ call, event.attempted? = some call →
        ∃ amount, GivenAmount args decimals amount ∧ AmountCall args amount call
    · intro outcome events hevents _ event hevent call hcall
      cases (quiet_of_preparation hevents).tries event hevent call hcall
    · intro accepted opening plan result events hvalid _ hplan hopening hfollowed
      obtain ⟨amount, hamount, hplanned⟩ := hcalls accepted opening plan hvalid hplan
      have htries := (quiet_of_preparation hopening).tries.append hfollowed.tries
      intro event hevent call hcall
      exact ⟨amount, hread accepted amount hvalid hamount,
        hplanned call (htries event hevent call hcall)⟩
  answers data hdata := by
    rcases course_callOver chain schedule state context tool.name args with
      ⟨-, cause, label, hfailure⟩ | ⟨other, hother, hname, accepted, result, hvalid, hcourse, hok⟩
    · rw [hfailure] at hdata
      cases congrArg Envelope.success (Except.ok.inj hdata)
    · obtain rfl := eq_of_name_eq hother htool hname
      rw [hok] at hdata
      rw [Envelope.eq_ok_of_ofResult hdata] at hcourse
      obtain ⟨amount, hamount, hreports⟩ := hanswers accepted data _ hcourse
      exact ⟨amount, hread accepted amount hvalid hamount, hreports⟩
  unique _ _ := GivenAmount.unique

theorem carriesAmount_stakeTokens :
    CarriesAmount 0 [("amount", 0), ("amountFormatted", 18)] args
      (callOver chain schedule state context "stake_tokens" args).1
      (callOver chain schedule state context "stake_tokens" args).2 := by
  have htool : stakeTokens ∈ catalogue := by simp [catalogue]
  refine carriesAmount_of_signs chain schedule state context args htool
    (fun _ => signs_stakeTokens) (fun accepted amount hvalid => ?_) ?_
    (fun _ => answers_stakeTokens)
  · exact givenAmount_of_wei htool hvalid (.tail _ (.tail _ (.head _)))
  · rintro accepted opening plan - ⟨network, account, contract, amount, -, -, hamount, rfl⟩
    exact ⟨amount, hamount, Plan.forall_mem_calls nofun (.stake contract) nofun⟩

theorem carriesAmount_unstakeTokens :
    CarriesAmount 0 [("amount", 0)] args
      (callOver chain schedule state context "unstake_tokens" args).1
      (callOver chain schedule state context "unstake_tokens" args).2 := by
  have htool : unstakeTokens ∈ catalogue := by simp [catalogue]
  refine carriesAmount_of_signs chain schedule state context args htool
    (fun _ => signs_unstakeTokens) (fun accepted amount hvalid => ?_) ?_
    (fun _ => answers_unstakeTokens)
  · exact givenAmount_of_wei htool hvalid (.tail _ (.tail _ (.head _)))
  · rintro accepted opening plan - ⟨network, account, contract, amount, -, -, hamount, rfl⟩
    refine ⟨amount, hamount, Plan.forall_mem_calls nofun (.unstake contract) ?_⟩
    rintro _ ⟨rfl⟩
    exact .withdrawAll contract

theorem carriesAmount_stakeEther :
    CarriesAmount 18 [("ethStaked", 18)] args
      (callOver chain schedule state context "stake_eth_lido" args).1
      (callOver chain schedule state context "stake_eth_lido" args).2 := by
  have htool : stakeEther ∈ catalogue := by simp [catalogue]
  refine carriesAmount_of_signs chain schedule state context args htool
    (fun _ => signs_stakeEther) (fun accepted amount hvalid => ?_) ?_
    (fun _ => answers_stakeEther)
  · exact givenAmount_of_units htool hvalid (.tail _ (.head _))
  · rintro accepted opening plan -
      ⟨network, account, steth, referral, amount, -, -, -, hamount, rfl⟩
    exact ⟨amount, hamount, Plan.forall_mem_calls nofun (.submit steth referral) nofun⟩

theorem carriesAmount_wrapSteth :
    CarriesAmount 18 [("stETHWrapped", 18)] args
      (callOver chain schedule state context "wrap_steth" args).1
      (callOver chain schedule state context "wrap_steth" args).2 := by
  have htool : wrapSteth ∈ catalogue := by simp [catalogue]
  refine carriesAmount_of_signs chain schedule state context args htool
    (fun _ => signs_wrapSteth) (fun accepted amount hvalid => ?_) ?_
    (fun _ => answers_wrapSteth)
  · exact givenAmount_of_units htool hvalid (.tail _ (.head _))
  · rintro accepted opening plan - ⟨network, account, wsteth, amount, -, -, hamount, rfl⟩
    refine ⟨amount, hamount, Plan.forall_mem_calls ?_ (.wrap wsteth) nofun⟩
    intro allowance hallowance
    obtain ⟨steth, -, rfl⟩ := Option.map_eq_some_iff.mp hallowance
    exact .approve steth wsteth

theorem carriesAmount_unwrapWsteth :
    CarriesAmount 18 [("wstETHUnwrapped", 18)] args
      (callOver chain schedule state context "unwrap_wsteth" args).1
      (callOver chain schedule state context "unwrap_wsteth" args).2 := by
  have htool : unwrapWsteth ∈ catalogue := by simp [catalogue]
  refine carriesAmount_of_signs chain schedule state context args htool
    (fun _ => signs_unwrapWsteth) (fun accepted amount hvalid => ?_) ?_
    (fun _ => answers_unwrapWsteth)
  · exact givenAmount_of_units htool hvalid (.tail _ (.head _))
  · rintro accepted opening plan - ⟨network, account, wsteth, amount, -, -, hamount, rfl⟩
    exact ⟨amount, hamount, Plan.forall_mem_calls nofun (.unwrap wsteth) nofun⟩

theorem carriesAmount_stakePairTokens :
    CarriesAmount 18 [("amountStaked", 18)] args
      (callOver chain schedule state context "stake_lp_tokens" args).1
      (callOver chain schedule state context "stake_lp_tokens" args).2 := by
  have htool : stakePairTokens ∈ catalogue := by simp [catalogue]
  refine carriesAmount_of_signs chain schedule state context args htool
    (fun _ => signs_stakePairTokens) (fun accepted amount hvalid => ?_) ?_
    (fun _ => answers_stakePairTokens)
  · exact givenAmount_of_units htool hvalid (.tail _ (.tail _ (.tail _ (.head _))))
  · rintro accepted opening plan hvalid
      ⟨network, account, farm, pairToken, pool, amount, info, -, -, hpool, hamount, -, -, rfl⟩
    have hgiven := givenPool_of_natural htool hvalid (.tail _ (.tail _ (.head _))) hpool
    refine ⟨amount, hamount, Plan.forall_mem_calls ?_ (.deposit farm hgiven) nofun⟩
    rintro _ ⟨rfl⟩
    exact .approve pairToken farm

theorem carriesAmount_withdrawPairTokens :
    CarriesAmount 18 [("amountWithdrawn", 18)] args
      (callOver chain schedule state context "withdraw_lp_tokens" args).1
      (callOver chain schedule state context "withdraw_lp_tokens" args).2 := by
  have htool : withdrawPairTokens ∈ catalogue := by simp [catalogue]
  refine carriesAmount_of_signs chain schedule state context args htool
    (fun _ => signs_withdrawPairTokens) (fun accepted amount hvalid => ?_) ?_
    (fun _ => answers_withdrawPairTokens)
  · exact givenAmount_of_units htool hvalid (.tail _ (.tail _ (.tail _ (.head _))))
  · rintro accepted opening plan hvalid
      ⟨network, account, farm, pool, amount, -, -, hpool, hamount, rfl⟩
    have hgiven := givenPool_of_natural htool hvalid (.tail _ (.tail _ (.head _))) hpool
    exact ⟨amount, hamount, Plan.forall_mem_calls nofun (.withdraw farm hgiven) nofun⟩

/-- The amount of a signing tool: the places of the text that is given, and the fields of the answer
that report it, with the places in which they are written. -/
structure AmountUse where
  tool : String
  decimals : Nat
  reported : List (String × Nat)

def amountUses : List AmountUse := [
  ⟨"stake_tokens", 0, [("amount", 0), ("amountFormatted", 18)]⟩,
  ⟨"unstake_tokens", 0, [("amount", 0)]⟩,
  ⟨"stake_eth_lido", 18, [("ethStaked", 18)]⟩,
  ⟨"wrap_steth", 18, [("stETHWrapped", 18)]⟩,
  ⟨"unwrap_wsteth", 18, [("wstETHUnwrapped", 18)]⟩,
  ⟨"stake_lp_tokens", 18, [("amountStaked", 18)]⟩,
  ⟨"withdraw_lp_tokens", 18, [("amountWithdrawn", 18)]⟩]

/-- Over every chain and for all arguments, a signing tool that takes an amount sends and reports
just the amount that its text denotes. -/
theorem amount_carried {tool : Tool} (htool : tool ∈ catalogue) (hkey : takesKey tool = true)
    (hamount : "amount" ∈ tool.params.map (·.name)) :
    ∃ use ∈ amountUses, use.tool = tool.name ∧
      CarriesAmount use.decimals use.reported args
        (callOver chain schedule state context tool.name args).1
        (callOver chain schedule state context tool.name args).2 := by
  have hmem := mem_signingTools htool hkey
  simp only [signingTools, List.mem_cons, List.not_mem_nil, or_false] at hmem
  rcases hmem with rfl | rfl | rfl | rfl | rfl | rfl | rfl | rfl
  · exact ⟨amountUses[0], by simp, rfl, carriesAmount_stakeTokens chain schedule state context args⟩
  · exact ⟨amountUses[1], by simp, rfl,
      carriesAmount_unstakeTokens chain schedule state context args⟩
  · exact absurd hamount (by decide)
  · exact ⟨amountUses[2], by simp, rfl, carriesAmount_stakeEther chain schedule state context args⟩
  · exact ⟨amountUses[3], by simp, rfl, carriesAmount_wrapSteth chain schedule state context args⟩
  · exact ⟨amountUses[4], by simp, rfl,
      carriesAmount_unwrapWsteth chain schedule state context args⟩
  · exact ⟨amountUses[5], by simp, rfl,
      carriesAmount_stakePairTokens chain schedule state context args⟩
  · exact ⟨amountUses[6], by simp, rfl,
      carriesAmount_withdrawPairTokens chain schedule state context args⟩

/-- Half an ether goes with both calls of a deposit, and comes back in the answer. -/
theorem amount_carried_half_ether :
    let args := Json.object [("amount", .string "0.50")]
    let stage : Rehearsal.Stage := { reads := [("balanceOf", [.ok [.uint 7]])] }
    let run := callOver Rehearsal.chain inOrder stage
      ⟨some "0x0123456789abcdef0123456789abcdef0123456789abcdef0123456789abcdef"⟩
      "stake_eth_lido" args
    (run.2.filterMap Event.attempted?).map (·.value) =
        [some 500000000000000000, some 500000000000000000] ∧
      ((run.1.toOption.bind (·.data)).bind (·.get? "ethStaked")).bind Json.string? = some "0.5" ∧
      ∃ use ∈ amountUses, use.tool = "stake_eth_lido" ∧
        CarriesAmount use.decimals use.reported args run.1 run.2 := by
  have htool : stakeEther ∈ catalogue := by simp [catalogue]
  refine ⟨by decide +kernel, by decide +kernel, ?_⟩
  exact amount_carried Rehearsal.chain inOrder _ _ _ htool (by decide) (by decide)

end StakingGateway.Operation
