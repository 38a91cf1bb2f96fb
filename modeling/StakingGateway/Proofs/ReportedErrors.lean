import StakingGateway.Proofs.CheckedAmounts
import StakingGateway.Proofs.Invocation

/-!
# Errors that tools report

Before a tool runs, its name is looked up and its arguments are validated. What goes wrong later is
reported by the tool itself, and is of few kinds: an argument that cannot be read in the form that
is needed, a token that is missing on the network, an answer of the chain, an approval that
reverted, or two attempts that both failed. The rules follow the building blocks of the tools.
Calculations are the one place where an action could crash, and there the words that a chain can
give have room.
-/

namespace StakingGateway.Tool

open Chain Contract

inductive Error.OfTool : Error → Prop
  | argument (cause : ArgumentError) : OfTool (.argument cause)
  | unavailable (reason : String) : OfTool (.unavailable reason)
  | chain (cause : Chain.Error) : OfTool (.chain cause)
  | approvalReverted (hash : TxHash) : OfTool (.approvalReverted hash)
  | fallbackExhausted (primary fallback : String) (cause : Error) :
      OfTool (.fallbackExhausted primary fallback cause)

/-- However questions are answered, the action ends with a value or with an error of a tool. -/
def Orderly {α : Type} (x : Action α) : Prop :=
  ∀ fault events, x.Course (.error fault) events → ∃ cause, fault = .refused cause ∧ cause.OfTool

variable {α β : Type}

theorem orderly_pure (value : α) : Orderly (pure value) := by
  intro fault events h
  obtain ⟨hnone, -⟩ := Action.course_pure.mp h
  cases hnone

theorem orderly_refuse {cause : Error} (hcause : cause.OfTool) :
    Orderly (Action.refuse cause : Action α) := by
  intro fault events h
  obtain ⟨hfault, -⟩ := Action.course_throw.mp h
  exact ⟨cause, Except.error.inj hfault, hcause⟩

theorem orderly_bind {x : Action α} {f : α → Action β} (hx : Orderly x)
    (hf : ∀ value, Orderly (f value)) : Orderly (x >>= f) := by
  intro fault events h
  rcases Action.course_bind.mp h with ⟨first, hfirst, hfault⟩ | ⟨value, before, after, -, hrest, -⟩
  · obtain rfl := Except.error.inj hfault
    exact hx _ _ hfirst
  · exact hf value _ _ hrest

theorem orderly_tryCatch {x : Action α} {handler : Fault → Action α} (hx : Orderly x)
    (hhandler : ∀ cause, Orderly (handler (.refused cause))) : Orderly (tryCatch x handler) := by
  intro fault events h
  rcases Action.course_tryCatch.mp h with
    ⟨value, -, hnone⟩ | ⟨first, before, after, hfirst, hrest, -⟩
  · cases hnone
  · -- A handler sees refusals only; a crash would pass through it.
    obtain ⟨cause, rfl, -⟩ := hx _ _ hfirst
    exact hhandler cause _ _ hrest

theorem orderly_ofArgument (argument : Except ArgumentError α) :
    Orderly (Action.ofArgument argument) := by
  cases argument with
  | ok value => exact orderly_pure value
  | error e => exact orderly_refuse (.argument e)

theorem orderly_ofChain (answer : Except Chain.Error α) : Orderly (Action.ofChain answer) := by
  cases answer with
  | ok value => exact orderly_pure value
  | error e => exact orderly_refuse (.chain e)

theorem orderly_ask (question : Question) : Orderly (Action.ask question) := by
  intro fault events h
  obtain ⟨answer, -, hnone⟩ := Action.course_ask.mp h
  cases hnone

theorem orderly_mapM {f : α → Action β} (hf : ∀ value, Orderly (f value)) (values : List α) :
    Orderly (values.mapM f) := by
  induction values with
  | nil => exact orderly_pure []
  | cons value rest ih =>
      rw [List.mapM_cons]
      exact orderly_bind (hf value) fun _ => orderly_bind ih fun _ => orderly_pure _

theorem orderly_reader (identifier : String) : Orderly (Action.reader identifier) :=
  orderly_bind (orderly_ask _) fun _ => orderly_ofChain _

theorem orderly_account (key identifier : String) : Orderly (Action.account key identifier) :=
  orderly_bind (orderly_ask _) fun _ => orderly_ofChain _

theorem orderly_read (network : Network) (call : Call) : Orderly (Action.read network call) :=
  orderly_bind (orderly_ask _) fun _ => orderly_ofChain _

theorem orderly_simulate (network : Network) (sender : Address) (call : Call) :
    Orderly (Action.simulate network sender call) :=
  orderly_bind (orderly_ask _) fun _ => orderly_ofChain _

theorem orderly_write (account : Account) (call : Call) :
    Orderly (Action.write account call) :=
  orderly_bind (orderly_ask _) fun _ => orderly_ofChain _

theorem orderly_receipt (network : Network) (hash : TxHash) :
    Orderly (Action.receipt network hash) :=
  orderly_bind (orderly_ask _) fun _ => orderly_ofChain _

end StakingGateway.Tool

namespace StakingGateway.Operation

open Tool Chain Contract

variable {α : Type}

theorem orderly_ofOverflow {outcome : Except Amount.Overflow α} (h : ∃ x, outcome = .ok x) :
    Orderly (ofOverflow outcome) := by
  obtain ⟨x, rfl⟩ := h
  exact orderly_pure x

theorem orderly_readUint (network : Network) (call : Call) : Orderly (readUint network call) :=
  orderly_bind (orderly_ask _) fun _ => orderly_ofChain _

theorem orderly_readUintOrZero (network : Network) (call : Call) :
    Orderly (readUintOrZero network call) :=
  orderly_bind (orderly_ask _) fun _ => orderly_pure _

theorem orderly_readTogether (network : Network) (calls : List Call) :
    Orderly (readTogether network calls) := by
  refine orderly_bind (orderly_ask _) fun gathered => ?_
  cases gathered with
  | all answers => exact orderly_pure answers
  | stopped call answer => exact orderly_pure [answer]

theorem orderly_readUints (network : Network) (calls : List Call) :
    Orderly (readUints network calls) := by
  refine orderly_bind (orderly_ask _) fun gathered => ?_
  cases gathered with
  | all answers => exact orderly_mapM (fun _ => orderly_ofChain _) _
  | stopped call answer => exact orderly_bind (orderly_ofChain _) fun _ => orderly_pure _

theorem orderly_requireToken (network : Network) (symbol missing : String) :
    Orderly (requireToken network symbol missing) := by
  unfold requireToken
  cases liquidToken? network symbol with
  | some token => exact orderly_pure token
  | none => exact orderly_refuse (.unavailable missing)

theorem orderly_submit (account : Account) (call : Call) : Orderly (submit account call) :=
  orderly_bind (orderly_simulate _ _ _) fun _ => orderly_write _ _

theorem orderly_submitAndConfirm (account : Account) (call : Call) :
    Orderly (submitAndConfirm account call) :=
  orderly_bind (orderly_submit _ _) fun _ => orderly_receipt _ _

theorem orderly_approve (account : Account) (token spender : Address) (amount : Uint256) :
    Orderly (approve account token spender amount) := by
  refine orderly_bind (orderly_submitAndConfirm _ _) fun receipt => ?_
  split
  · exact orderly_bind (orderly_refuse (.approvalReverted _)) fun _ => orderly_pure receipt
  · exact orderly_pure receipt

theorem orderly_withFallback {primary fallback : Action α} (primaryName fallbackName : String)
    (hprimary : Orderly primary) (hfallback : Orderly fallback) :
    Orderly (withFallback primaryName primary fallbackName fallback) := by
  refine orderly_tryCatch (orderly_bind hprimary fun _ => orderly_pure _) fun _ => ?_
  refine orderly_tryCatch (orderly_bind hfallback fun _ => orderly_pure _) fun cause => ?_
  exact orderly_refuse (.fallbackExhausted primaryName fallbackName cause)

/-! ## The tools -/

variable (context : Context) (args : Args)

theorem orderly_stakingPosition : Orderly (stakingPosition.run context args) := by
  refine orderly_bind (orderly_ofArgument _) fun identifier => ?_
  refine orderly_bind (orderly_ofArgument _) fun contract => ?_
  refine orderly_bind (orderly_ofArgument _) fun user => ?_
  refine orderly_bind (orderly_ofArgument _) fun decimals => ?_
  refine orderly_bind (orderly_reader identifier) fun network => ?_
  refine orderly_bind (orderly_readTogether network _) fun answers => ?_
  refine orderly_bind (orderly_ofOverflow ?_) fun share => orderly_pure _
  exact (Amount.calculable.share _ _).imp fun _ h => h.2

theorem orderly_stakeTokens : Orderly (stakeTokens.run context args) := by
  refine orderly_bind (orderly_ofArgument _) fun identifier => ?_
  refine orderly_bind (orderly_ofArgument _) fun contract => ?_
  refine orderly_bind (orderly_ofArgument _) fun amount => ?_
  refine orderly_bind (orderly_ofArgument _) fun key => ?_
  refine orderly_bind (orderly_reader identifier) fun network => ?_
  refine orderly_bind (orderly_account key identifier) fun account => ?_
  exact orderly_bind (orderly_submitAndConfirm account _) fun receipt => orderly_pure _

theorem orderly_unstakeTokens : Orderly (unstakeTokens.run context args) := by
  refine orderly_bind (orderly_ofArgument _) fun identifier => ?_
  refine orderly_bind (orderly_ofArgument _) fun contract => ?_
  refine orderly_bind (orderly_ofArgument _) fun amount => ?_
  refine orderly_bind (orderly_ofArgument _) fun key => ?_
  refine orderly_bind (orderly_reader identifier) fun network => ?_
  refine orderly_bind (orderly_account key identifier) fun account => ?_
  refine orderly_bind (orderly_withFallback _ _ (orderly_submit account _)
    (orderly_submit account _)) fun sent => ?_
  exact orderly_bind (orderly_receipt _ _) fun receipt => orderly_pure _

theorem orderly_claimRewards : Orderly (claimRewards.run context args) := by
  refine orderly_bind (orderly_ofArgument _) fun identifier => ?_
  refine orderly_bind (orderly_ofArgument _) fun contract => ?_
  refine orderly_bind (orderly_ofArgument _) fun key => ?_
  refine orderly_bind (orderly_reader identifier) fun network => ?_
  refine orderly_bind (orderly_account key identifier) fun account => ?_
  refine orderly_bind (orderly_readUintOrZero network _) fun pending => ?_
  split
  · exact orderly_pure _
  · refine orderly_bind (orderly_withFallback _ _ (orderly_submit account _)
      (orderly_submit account _)) fun sent => ?_
    exact orderly_bind (orderly_receipt _ _) fun receipt => orderly_pure _

theorem orderly_stakingRate : Orderly (stakingRate.run context args) := by
  refine orderly_bind (orderly_ofArgument _) fun identifier => ?_
  refine orderly_bind (orderly_ofArgument _) fun contract => ?_
  refine orderly_bind (orderly_reader identifier) fun network => ?_
  refine orderly_bind (orderly_readTogether network _) fun answers => ?_
  refine orderly_bind (orderly_ofOverflow ?_) fun yearly => orderly_pure _
  exact (Amount.calculable.rate _ _).imp fun _ h => h.2

theorem orderly_stakingDirectory : Orderly (stakingDirectory.run context args) := by
  refine orderly_bind (orderly_ofArgument _) fun identifier => ?_
  exact orderly_bind (orderly_reader identifier) fun network => orderly_pure _

theorem orderly_stakeEther : Orderly (stakeEther.run context args) := by
  refine orderly_bind (orderly_ofArgument _) fun identifier => ?_
  refine orderly_bind (orderly_ofArgument _) fun amount => ?_
  refine orderly_bind (orderly_ofArgument _) fun referral => ?_
  refine orderly_bind (orderly_ofArgument _) fun key => ?_
  refine orderly_bind (orderly_reader identifier) fun network => ?_
  refine orderly_bind (orderly_account key identifier) fun account => ?_
  refine orderly_bind (orderly_requireToken network _ _) fun steth => ?_
  refine orderly_bind (orderly_readUint network _) fun before => ?_
  refine orderly_bind (orderly_submitAndConfirm account _) fun receipt => ?_
  exact orderly_bind (orderly_readUintOrZero network _) fun after => orderly_pure _

theorem orderly_wrapSteth : Orderly (wrapSteth.run context args) := by
  refine orderly_bind (orderly_ofArgument _) fun identifier => ?_
  refine orderly_bind (orderly_ofArgument _) fun amount => ?_
  refine orderly_bind (orderly_ofArgument _) fun key => ?_
  refine orderly_bind (orderly_reader identifier) fun network => ?_
  refine orderly_bind (orderly_account key identifier) fun account => ?_
  refine orderly_bind (orderly_requireToken network _ _) fun wsteth => ?_
  refine orderly_bind ?_ fun approval => ?_
  · cases liquidToken? network "stETH" with
    | none => exact orderly_pure none
    | some steth =>
        exact orderly_bind (orderly_approve account steth wsteth amount) fun _ =>
          orderly_pure _
  · refine orderly_bind (orderly_submitAndConfirm account _) fun receipt => ?_
    exact orderly_bind (orderly_readUintOrZero network _) fun expected => orderly_pure _

theorem orderly_unwrapWsteth : Orderly (unwrapWsteth.run context args) := by
  refine orderly_bind (orderly_ofArgument _) fun identifier => ?_
  refine orderly_bind (orderly_ofArgument _) fun amount => ?_
  refine orderly_bind (orderly_ofArgument _) fun key => ?_
  refine orderly_bind (orderly_reader identifier) fun network => ?_
  refine orderly_bind (orderly_account key identifier) fun account => ?_
  refine orderly_bind (orderly_requireToken network _ _) fun wsteth => ?_
  refine orderly_bind (orderly_readUint network _) fun expected => ?_
  exact orderly_bind (orderly_submitAndConfirm account _) fun receipt => orderly_pure _

theorem orderly_lidoStats : Orderly (lidoStats.run context args) := by
  refine orderly_bind (orderly_ofArgument _) fun identifier => ?_
  refine orderly_bind (orderly_reader identifier) fun network => ?_
  refine orderly_bind (orderly_requireToken network _ _) fun steth => ?_
  exact orderly_bind (orderly_readUints network _) fun numbers => orderly_pure _

theorem orderly_liquidDirectory : Orderly (liquidDirectory.run context args) := by
  refine orderly_bind (orderly_ofArgument _) fun identifier => ?_
  exact orderly_bind (orderly_reader identifier) fun network => orderly_pure _

theorem orderly_stakePairTokens : Orderly (stakePairTokens.run context args) := by
  refine orderly_bind (orderly_ofArgument _) fun identifier => ?_
  refine orderly_bind (orderly_ofArgument _) fun farm => ?_
  refine orderly_bind (orderly_ofArgument _) fun pool => ?_
  refine orderly_bind (orderly_ofArgument _) fun amount => ?_
  refine orderly_bind (orderly_ofArgument _) fun key => ?_
  refine orderly_bind (orderly_reader identifier) fun network => ?_
  refine orderly_bind (orderly_account key identifier) fun account => ?_
  refine orderly_bind (orderly_read network _) fun info => ?_
  refine orderly_bind (orderly_ofChain _) fun pairToken => ?_
  refine orderly_bind (orderly_approve account pairToken farm amount) fun approval => ?_
  exact orderly_bind (orderly_submitAndConfirm account _) fun receipt => orderly_pure _

theorem orderly_withdrawPairTokens : Orderly (withdrawPairTokens.run context args) := by
  refine orderly_bind (orderly_ofArgument _) fun identifier => ?_
  refine orderly_bind (orderly_ofArgument _) fun farm => ?_
  refine orderly_bind (orderly_ofArgument _) fun pool => ?_
  refine orderly_bind (orderly_ofArgument _) fun amount => ?_
  refine orderly_bind (orderly_ofArgument _) fun key => ?_
  refine orderly_bind (orderly_reader identifier) fun network => ?_
  refine orderly_bind (orderly_account key identifier) fun account => ?_
  exact orderly_bind (orderly_submitAndConfirm account _) fun receipt => orderly_pure _

theorem orderly_farmingPosition : Orderly (farmingPosition.run context args) := by
  refine orderly_bind (orderly_ofArgument _) fun identifier => ?_
  refine orderly_bind (orderly_ofArgument _) fun farm => ?_
  refine orderly_bind (orderly_ofArgument _) fun pool => ?_
  refine orderly_bind (orderly_ofArgument _) fun user => ?_
  refine orderly_bind (orderly_reader identifier) fun network => ?_
  refine orderly_bind (orderly_readTogether network _) fun answers => ?_
  refine orderly_bind (orderly_ofChain _) fun userInfo => ?_
  refine orderly_bind (orderly_ofChain _) fun poolInfo => ?_
  refine orderly_bind (orderly_ofChain _) fun staked => ?_
  refine orderly_bind (orderly_ofChain _) fun rewardDebt => ?_
  refine orderly_bind (orderly_ofChain _) fun pairToken => ?_
  exact orderly_bind (orderly_ofChain _) fun points => orderly_pure _

theorem orderly_of_mem {tool : Tool} (htool : tool ∈ catalogue) :
    Orderly (tool.run context args) := by
  simp only [catalogue, List.mem_cons, List.not_mem_nil, or_false] at htool
  rcases htool with
    rfl | rfl | rfl | rfl | rfl | rfl | rfl | rfl | rfl | rfl | rfl | rfl | rfl | rfl
  · exact orderly_stakingPosition context args
  · exact orderly_stakeTokens context args
  · exact orderly_unstakeTokens context args
  · exact orderly_claimRewards context args
  · exact orderly_stakingRate context args
  · exact orderly_stakingDirectory context args
  · exact orderly_stakeEther context args
  · exact orderly_wrapSteth context args
  · exact orderly_unwrapWsteth context args
  · exact orderly_lidoStats context args
  · exact orderly_liquidDirectory context args
  · exact orderly_stakePairTokens context args
  · exact orderly_withdrawPairTokens context args
  · exact orderly_farmingPosition context args

end StakingGateway.Operation
