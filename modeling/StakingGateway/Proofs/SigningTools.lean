import StakingGateway.Operation.Catalogue
import StakingGateway.Proofs.Plan
import StakingGateway.Proofs.ReadingTools

/-!
# The plans of the signing tools

Every signing tool takes its arguments, makes its two clients, reads what it needs and then carries
out a plan. The rules at the beginning go through the steps before a plan one by one. After them
each tool has one lemma: which plans it can follow, and what was read for them.
-/

namespace StakingGateway.Operation

open Tool Chain Contract

/-- The clients of a signing tool are among these interactions: the network is the one that the
arguments name, and the account is that of the key in use. -/
def Opened (context : Context) (args : Args) (opening : List Event) (network : Network)
    (account : Account) : Prop :=
  ∃ identifier key, args.text "network" = .ok identifier ∧ context.signingKey args = .ok key ∧
    .reader identifier (.ok network) ∈ opening ∧ .account key identifier (.ok account) ∈ opening

variable {α : Type} {context : Context} {args : Args} {plans : List Event → Plan → Prop}
  {ends : Json → Prop}

theorem Opened.append {opening : List Event} {network : Network} {account : Account}
    (h : Opened context args opening network account) (events : List Event) :
    Opened context args (opening ++ events) network account := by
  obtain ⟨identifier, key, hidentifier, hkey, hreader, haccount⟩ := h
  exact ⟨identifier, key, hidentifier, hkey, List.mem_append_left _ hreader,
    List.mem_append_left _ haccount⟩

/-! ## Steps before a plan -/

theorem signs_pure {data : Json} (h : ends data) : Signs (pure data) plans ends := by
  intro result events hx
  obtain ⟨rfl, rfl⟩ := Action.course_pure.mp hx
  refine .ended (by simp) fun other hother => ?_
  cases hother
  exact h

theorem signs_settled {ε : Type} {x : Action α} {f : α → Action Json} {outcome : Except ε α}
    {fault : ε → Fault}
    (hx : ∀ {result events}, x.Course result events ↔
      result = outcome.mapError fault ∧ events = [])
    (h : ∀ value, outcome = .ok value → Signs (f value) plans ends) :
    Signs (x >>= f) plans ends := by
  refine signs_bind (fun result events hresult => ?_) fun value before hvalue => ?_
  · obtain ⟨-, rfl⟩ := hx.mp hresult
    simp
  · obtain ⟨hok, rfl⟩ := hx.mp hvalue
    cases outcome with
    | error e => cases hok
    | ok given =>
        cases hok
        exact h value rfl

theorem signs_ofArgument {argument : Except ArgumentError α} {f : α → Action Json}
    (h : ∀ value, argument = .ok value → Signs (f value) plans ends) :
    Signs (Action.ofArgument argument >>= f) plans ends :=
  signs_settled Action.course_ofArgument h

theorem signs_ofChain {answer : Except Chain.Error α} {f : α → Action Json}
    (h : ∀ value, answer = .ok value → Signs (f value) plans ends) :
    Signs (Action.ofChain answer >>= f) plans ends :=
  signs_settled Action.course_ofChain h

/-- A step with a single interaction that sends nothing. -/
theorem signs_single {x : Action α} {f : α → Action Json} {noted : Except Chain.Error α → Event}
    (hx : ∀ {result events}, x.Course result events ↔
      ∃ answer, events = [noted answer] ∧ result = answer.mapError Fault.ofChain)
    (hnoted : ∀ answer, (noted answer).isPreparation = true)
    (h : ∀ value, Signs (f value) (fun opening => plans (noted (.ok value) :: opening)) ends) :
    Signs (x >>= f) plans ends := by
  refine signs_bind (fun result events hresult => ?_) fun value before hvalue => ?_
  · obtain ⟨answer, rfl, -⟩ := hx.mp hresult
    simpa using hnoted answer
  · obtain ⟨e | given, rfl, hok⟩ := hx.mp hvalue
    · cases hok
    · cases hok
      exact h value

theorem signs_read {network : Network} {call : Call} {f : List Abi.Token → Action Json}
    (h : ∀ tokens, Signs (f tokens)
      (fun opening => plans (.read network call (.ok tokens) :: opening)) ends) :
    Signs (Action.read network call >>= f) plans ends :=
  signs_single Action.course_read (fun _ => rfl) h

theorem signs_clients {identifier : String} {f : Network → Account → Action Json}
    (hidentifier : args.text "network" = .ok identifier)
    (h : ∀ network account clients, Opened context args clients network account →
      Signs (f network account) (fun opening => plans (clients ++ opening)) ends) :
    Signs (do
      let key ← keyArg context args
      let network ← Action.reader identifier
      let account ← Action.account key identifier
      f network account) plans ends := by
  refine signs_ofArgument fun key hkey => ?_
  refine signs_single Action.course_reader (fun _ => rfl) fun network => ?_
  refine signs_single Action.course_account (fun _ => rfl) fun account => ?_
  have hopened : Opened context args
      [.reader identifier (.ok network), .account key identifier (.ok account)] network account :=
    ⟨identifier, key, hidentifier, hkey, by simp, by simp⟩
  exact h network account _ hopened

theorem signs_requireToken {network : Network} {symbol missing : String}
    {f : Address → Action Json}
    (h : ∀ token, liquidToken? network symbol = some token → Signs (f token) plans ends) :
    Signs (requireToken network symbol missing >>= f) plans ends := by
  unfold requireToken
  cases htoken : liquidToken? network symbol with
  | some token => exact h token htoken
  | none =>
      intro result events hx
      obtain ⟨rfl, rfl⟩ := Action.course_throw.mp hx
      exact .ended (by simp) fun data hdata => by cases hdata

theorem preparing_of_reading {x : Action α} (h : Reading x) : Preparing x :=
  fun result events hx event hevent =>
    Event.isPreparation_of_isReading (h result events hx event hevent)

/-! ## Steps behind a plan -/

variable {plan : Plan} {sent : Call} {receipt : Receipt}

theorem closes_pure {data : Json} (h : Reports plan sent receipt data) :
    plan.Closes sent receipt (pure data) := by
  intro result events hx
  obtain ⟨rfl, rfl⟩ := Action.course_pure.mp hx
  exact ⟨by simp, data, rfl, h⟩

/-- A read that gives way to zero cannot fail any more. -/
theorem closes_readUintOrZero {network : Network} {call : Call} {f : Uint256 → Action Json}
    (h : ∀ value, plan.Closes sent receipt (f value)) :
    plan.Closes sent receipt (readUintOrZero network call >>= f) := by
  intro result events hx
  rcases Action.course_bind.mp hx with
    ⟨fault, hread, rfl⟩ | ⟨value, before, after, hread, hrest, rfl⟩
  · obtain ⟨answer, _, _, -, hpure, rfl⟩ := Action.course_ask_bind.mp hread
    obtain ⟨hfault, -⟩ := Action.course_pure.mp hpure
    cases hfault
  · obtain ⟨hafter, hresult⟩ := h value result after hrest
    have hbefore := reading_readUintOrZero network call _ _ hread
    exact ⟨List.forall_mem_append.mpr ⟨hbefore, hafter⟩, hresult⟩

/-! ## The tools -/

def stakePlan (account : Account) (contract : Address) (amount : Uint256) : Plan where
  account
  main := stakingCall contract "stake" [.uint amount]
  main_ne_approve := (by decide : "stake" ≠ "approve")

theorem signs_stakeTokens :
    Signs (stakeTokens.run context args)
      (fun opening plan =>
        ∃ network account contract amount, Opened context args opening network account ∧
          args.address "stakingContract" = .ok contract ∧ args.wei "amount" = .ok amount ∧
          plan = stakePlan account contract amount)
      fun _ => False := by
  refine signs_ofArgument fun identifier hidentifier => ?_
  refine signs_ofArgument fun contract hcontract => ?_
  refine signs_ofArgument fun amount hamount => ?_
  refine signs_clients hidentifier fun network account clients hopened => ?_
  refine signs_of_executes ⟨network, account, contract, amount, hopened.append [], hcontract,
    hamount, rfl⟩ (Plan.executes_deliver fun receipt => closes_pure ?_)
  constructor <;> simp [Json.lookup]

def unstakePlan (account : Account) (contract : Address) (amount : Uint256) : Plan where
  account
  main := stakingCall contract "unstake" [.uint amount]
  alternate := some (stakingCall contract "withdraw")
  main_ne_approve := (by decide : "unstake" ≠ "approve")
  alternate_ne_approve := by simp [stakingCall]

theorem signs_unstakeTokens :
    Signs (unstakeTokens.run context args)
      (fun opening plan =>
        ∃ network account contract amount, Opened context args opening network account ∧
          args.address "stakingContract" = .ok contract ∧ args.wei "amount" = .ok amount ∧
          plan = unstakePlan account contract amount)
      fun _ => False := by
  refine signs_ofArgument fun identifier hidentifier => ?_
  refine signs_ofArgument fun contract hcontract => ?_
  refine signs_ofArgument fun amount hamount => ?_
  refine signs_clients hidentifier fun network account clients hopened => ?_
  refine signs_of_executes ⟨network, account, contract, amount, hopened.append [], hcontract,
    hamount, rfl⟩ (Plan.executes_withFallback fun sent hash receipt => closes_pure ?_)
  constructor <;> simp [Json.lookup]

def claimPlan (account : Account) (contract : Address) : Plan where
  account
  main := stakingCall contract "claimRewards"
  alternate := some (stakingCall contract "getReward")
  main_ne_approve := (by decide : "claimRewards" ≠ "approve")
  alternate_ne_approve := by simp [stakingCall]

theorem signs_claimRewards :
    Signs (claimRewards.run context args)
      (fun opening plan =>
        ∃ network account contract, Opened context args opening network account ∧
          args.address "stakingContract" = .ok contract ∧ plan = claimPlan account contract)
      (fun data => ∃ identifier contract, data = nothingToClaim identifier contract) := by
  refine signs_ofArgument fun identifier hidentifier => ?_
  refine signs_ofArgument fun contract hcontract => ?_
  refine signs_clients hidentifier fun network account clients hopened => ?_
  refine signs_bind (preparing_of_reading (reading_readUintOrZero network _))
    fun pending before _ => ?_
  by_cases hpending : pending.toNat = 0
  · simp only [hpending, if_true]
    exact signs_pure ⟨identifier, contract, rfl⟩
  · simp only [hpending, if_false]
    refine signs_of_executes ⟨network, account, contract, hopened.append _, hcontract, rfl⟩
      (Plan.executes_withFallback fun sent hash receipt => closes_pure ?_)
    constructor <;> simp [Json.lookup]

def etherPlan (account : Account) (steth referral : Address) (amount : Uint256) : Plan where
  account
  main := depositCall steth referral amount
  main_ne_approve := (by decide : "submit" ≠ "approve")

theorem signs_stakeEther :
    Signs (stakeEther.run context args)
      (fun opening plan =>
        ∃ network account steth referral amount, Opened context args opening network account ∧
          liquidToken? network "stETH" = some steth ∧ referralArg args = .ok referral ∧
          args.units "amount" Amount.etherDecimals = .ok amount ∧
          plan = etherPlan account steth referral amount)
      fun _ => False := by
  refine signs_ofArgument fun identifier hidentifier => ?_
  refine signs_ofArgument fun amount hamount => ?_
  refine signs_ofArgument fun referral hreferral => ?_
  refine signs_clients hidentifier fun network account clients hopened => ?_
  refine signs_requireToken fun steth hsteth => ?_
  refine signs_bind (preparing_of_reading (reading_readUint network _)) fun balance before _ => ?_
  refine signs_of_executes ⟨network, account, steth, referral, amount, hopened.append _, hsteth,
    hreferral, hamount, rfl⟩ (Plan.executes_deliver fun receipt => ?_)
  refine closes_readUintOrZero fun after => closes_pure ?_
  constructor <;> simp [Json.lookup]

def unwrapPlan (account : Account) (wsteth : Address) (amount : Uint256) : Plan where
  account
  main := wstethCall wsteth "unwrap" [.uint amount]
  main_ne_approve := (by decide : "unwrap" ≠ "approve")

theorem signs_unwrapWsteth :
    Signs (unwrapWsteth.run context args)
      (fun opening plan =>
        ∃ network account wsteth amount, Opened context args opening network account ∧
          liquidToken? network "wstETH" = some wsteth ∧
          args.units "amount" Amount.etherDecimals = .ok amount ∧
          plan = unwrapPlan account wsteth amount)
      fun _ => False := by
  refine signs_ofArgument fun identifier hidentifier => ?_
  refine signs_ofArgument fun amount hamount => ?_
  refine signs_clients hidentifier fun network account clients hopened => ?_
  refine signs_requireToken fun wsteth hwsteth => ?_
  refine signs_bind (preparing_of_reading (reading_readUint network _)) fun expected before _ => ?_
  refine signs_of_executes ⟨network, account, wsteth, amount, hopened.append _, hwsteth, hamount,
    rfl⟩ (Plan.executes_deliver fun receipt => closes_pure ?_)
  constructor <;> simp [Json.lookup]

def depositPlan (account : Account) (farm pairToken : Address) (pool : Nat) (amount : Uint256) :
    Plan where
  account
  allowance := some ⟨pairToken, farm, amount⟩
  main := farmCall farm "deposit" [poolToken pool, .uint amount]
  main_ne_approve := (by decide : "deposit" ≠ "approve")

theorem signs_stakePairTokens :
    Signs (stakePairTokens.run context args)
      (fun opening plan =>
        ∃ network account farm pairToken pool amount info,
          Opened context args opening network account ∧
          args.address "farmContract" = .ok farm ∧ args.natural "poolId" = .ok pool ∧
          args.units "amount" Amount.etherDecimals = .ok amount ∧
          .read network (farmCall farm "poolInfo" [poolToken pool]) (.ok info) ∈ opening ∧
          addressAt info 0 "poolInfo" = .ok pairToken ∧
          plan = depositPlan account farm pairToken pool amount)
      fun _ => False := by
  refine signs_ofArgument fun identifier hidentifier => ?_
  refine signs_ofArgument fun farm hfarm => ?_
  refine signs_ofArgument fun pool hpool => ?_
  refine signs_ofArgument fun amount hamount => ?_
  refine signs_clients hidentifier fun network account clients hopened => ?_
  refine signs_read fun info => ?_
  refine signs_ofChain fun pairToken hpairToken => ?_
  refine signs_of_executes ⟨network, account, farm, pairToken, pool, amount, info,
    hopened.append _, hfarm, hpool, hamount, by simp, hpairToken, rfl⟩ ?_
  have hallowance : (depositPlan account farm pairToken pool amount).allowance =
      some ⟨pairToken, farm, amount⟩ := rfl
  apply Plan.executes_approve hallowance
  intro approval
  refine Plan.executes_deliver fun receipt => closes_pure ?_
  constructor <;> simp [Json.lookup]

def withdrawPlan (account : Account) (farm : Address) (pool : Nat) (amount : Uint256) :
    Plan where
  account
  main := farmCall farm "withdraw" [poolToken pool, .uint amount]
  main_ne_approve := (by decide : "withdraw" ≠ "approve")

theorem signs_withdrawPairTokens :
    Signs (withdrawPairTokens.run context args)
      (fun opening plan =>
        ∃ network account farm pool amount, Opened context args opening network account ∧
          args.address "farmContract" = .ok farm ∧ args.natural "poolId" = .ok pool ∧
          args.units "amount" Amount.etherDecimals = .ok amount ∧
          plan = withdrawPlan account farm pool amount)
      fun _ => False := by
  refine signs_ofArgument fun identifier hidentifier => ?_
  refine signs_ofArgument fun farm hfarm => ?_
  refine signs_ofArgument fun pool hpool => ?_
  refine signs_ofArgument fun amount hamount => ?_
  refine signs_clients hidentifier fun network account clients hopened => ?_
  refine signs_of_executes ⟨network, account, farm, pool, amount, hopened.append [], hfarm, hpool,
    hamount, rfl⟩ (Plan.executes_deliver fun receipt => closes_pure ?_)
  constructor <;> simp [Json.lookup]

def wrapPlan (account : Account) (steth? : Option Address) (wsteth : Address) (amount : Uint256) :
    Plan where
  account
  allowance := steth?.map fun steth => ⟨steth, wsteth, amount⟩
  main := wstethCall wsteth "wrap" [.uint amount]
  main_ne_approve := (by decide : "wrap" ≠ "approve")

theorem signs_wrapSteth :
    Signs (wrapSteth.run context args)
      (fun opening plan =>
        ∃ network account wsteth amount, Opened context args opening network account ∧
          liquidToken? network "wstETH" = some wsteth ∧
          args.units "amount" Amount.etherDecimals = .ok amount ∧
          plan = wrapPlan account (liquidToken? network "stETH") wsteth amount)
      fun _ => False := by
  refine signs_ofArgument fun identifier hidentifier => ?_
  refine signs_ofArgument fun amount hamount => ?_
  refine signs_clients hidentifier fun network account clients hopened => ?_
  refine signs_requireToken fun wsteth hwsteth => ?_
  refine signs_of_executes ⟨network, account, wsteth, amount, hopened.append [], hwsteth, hamount,
    rfl⟩ ?_
  cases hsteth : liquidToken? network "stETH" with
  | none =>
      refine Plan.executes_deliver fun receipt => closes_readUintOrZero fun expected =>
        closes_pure ?_
      constructor <;> simp [Json.lookup]
  | some steth =>
      rw [Option.mapM_some, bind_map_left]
      have hallowance : (wrapPlan account (some steth) wsteth amount).allowance =
          some ⟨steth, wsteth, amount⟩ := rfl
      apply Plan.executes_approve hallowance
      intro approval
      refine Plan.executes_deliver fun receipt => closes_readUintOrZero fun expected =>
        closes_pure ?_
      constructor <;> simp [Json.lookup]

/-- A tool that takes a signing key follows plans of the account of the key in use. -/
theorem signs_of_takesKey {tool : Tool} (htool : tool ∈ catalogue) (hkey : takesKey tool = true) :
    Signs (tool.run context args)
      (fun opening plan => ∃ network, Opened context args opening network plan.account)
      fun _ => True := by
  have hmem := mem_signingTools htool hkey
  simp only [signingTools, List.mem_cons, List.not_mem_nil, or_false] at hmem
  rcases hmem with rfl | rfl | rfl | rfl | rfl | rfl | rfl | rfl
  · refine signs_stakeTokens.mono ?_ fun _ _ => trivial
    rintro opening plan ⟨network, account, contract, amount, hopened, -, -, rfl⟩
    exact ⟨network, hopened⟩
  · refine signs_unstakeTokens.mono ?_ fun _ _ => trivial
    rintro opening plan ⟨network, account, contract, amount, hopened, -, -, rfl⟩
    exact ⟨network, hopened⟩
  · refine signs_claimRewards.mono ?_ fun _ _ => trivial
    rintro opening plan ⟨network, account, contract, hopened, -, rfl⟩
    exact ⟨network, hopened⟩
  · refine signs_stakeEther.mono ?_ fun _ _ => trivial
    rintro opening plan ⟨network, account, steth, referral, amount, hopened, -, -, -, rfl⟩
    exact ⟨network, hopened⟩
  · refine signs_wrapSteth.mono ?_ fun _ _ => trivial
    rintro opening plan ⟨network, account, wsteth, amount, hopened, -, -, rfl⟩
    exact ⟨network, hopened⟩
  · refine signs_unwrapWsteth.mono ?_ fun _ _ => trivial
    rintro opening plan ⟨network, account, wsteth, amount, hopened, -, -, rfl⟩
    exact ⟨network, hopened⟩
  · refine signs_stakePairTokens.mono ?_ fun _ _ => trivial
    rintro opening plan
      ⟨network, account, farm, pairToken, pool, amount, info, hopened, -, -, -, -, -, rfl⟩
    exact ⟨network, hopened⟩
  · refine signs_withdrawPairTokens.mono ?_ fun _ _ => trivial
    rintro opening plan ⟨network, account, farm, pool, amount, hopened, -, -, -, rfl⟩
    exact ⟨network, hopened⟩

end StakingGateway.Operation
