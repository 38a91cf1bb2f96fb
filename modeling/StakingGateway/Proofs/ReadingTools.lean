import StakingGateway.Operation.Catalogue
import StakingGateway.Proofs.Course

/-!
# Tools that only read

The rules at the beginning follow the building blocks of the tools. The tools that take no signing
key are put together from reading steps only, whatever their arguments are and whatever is answered.
-/

namespace StakingGateway.Operation

open Tool Chain Contract

def Reading {α : Type} (x : Action α) : Prop :=
  ∀ result events, x.Course result events → ∀ event ∈ events, event.isReading = true

variable {α β : Type}

theorem reading_pure (value : α) : Reading (pure value) := by
  intro result events h
  obtain ⟨-, rfl⟩ := Action.course_pure.mp h
  simp

theorem reading_throw (fault : Fault) : Reading (throw fault : Action α) := by
  intro result events h
  obtain ⟨-, rfl⟩ := Action.course_throw.mp h
  simp

theorem reading_bind {x : Action α} {f : α → Action β} (hx : Reading x)
    (hf : ∀ value, Reading (f value)) : Reading (x >>= f) := by
  intro result events h
  rcases Action.course_bind.mp h with
    ⟨fault, hfault, -⟩ | ⟨value, before, after, hvalue, hrest, rfl⟩
  · exact hx _ _ hfault
  · exact List.forall_mem_append.mpr ⟨hx _ _ hvalue, hf value _ _ hrest⟩

theorem reading_ofArgument (argument : Except ArgumentError α) :
    Reading (Action.ofArgument argument) := by
  cases argument with
  | ok value => exact reading_pure value
  | error e => exact reading_throw _

theorem reading_ofChain (answer : Except Chain.Error α) : Reading (Action.ofChain answer) := by
  cases answer with
  | ok value => exact reading_pure value
  | error e => exact reading_throw _

theorem reading_ofOverflow (outcome : Except Amount.Overflow α) : Reading (ofOverflow outcome) := by
  cases outcome with
  | ok value => exact reading_pure value
  | error e => exact reading_throw _

theorem reading_ask {question : Question}
    (h : ∀ answer events, Recorded question answer events →
      ∀ event ∈ events, event.isReading = true) : Reading (Action.ask question) := by
  intro result events hx
  obtain ⟨answer, hreply, -⟩ := Action.course_ask.mp hx
  exact h answer events hreply

theorem reading_ask_read (network : Network) (call : Call) :
    Reading (Action.ask (.read network call)) := by
  refine reading_ask fun answer events hreply => ?_
  obtain rfl : events = [.read network call answer] := hreply
  simp [Event.isReading]

theorem reading_ask_readAll (network : Network) (calls : List Call)
    (decisive : Call → ReadAnswer → Bool) :
    Reading (Action.ask (.readAll network calls decisive)) := by
  refine reading_ask fun answer events hreply event hevent => ?_
  obtain ⟨call, -, read, rfl⟩ := hreply event hevent
  rfl

theorem reading_reader (identifier : String) : Reading (Action.reader identifier) := by
  refine reading_bind (reading_ask fun answer events hreply => ?_) fun answer =>
    reading_ofChain answer
  obtain rfl : events = [.reader identifier answer] := hreply
  simp [Event.isReading]

theorem reading_readUint (network : Network) (call : Call) : Reading (readUint network call) :=
  reading_bind (reading_ask_read network call) fun _ => reading_ofChain _

theorem reading_readUintOrZero (network : Network) (call : Call) :
    Reading (readUintOrZero network call) :=
  reading_bind (reading_ask_read network call) fun _ => reading_pure _

theorem reading_readTogether (network : Network) (calls : List Call) :
    Reading (readTogether network calls) := by
  refine reading_bind (reading_ask_readAll network calls _) fun gathered => ?_
  cases gathered with
  | all answers => exact reading_pure answers
  | stopped call answer => exact reading_pure [answer]

theorem reading_mapM {f : α → Action β} (hf : ∀ value, Reading (f value)) (values : List α) :
    Reading (values.mapM f) := by
  induction values with
  | nil => exact reading_pure []
  | cons value rest ih =>
      rw [List.mapM_cons]
      exact reading_bind (hf value) fun _ => reading_bind ih fun _ => reading_pure _

theorem reading_readUints (network : Network) (calls : List Call) :
    Reading (readUints network calls) := by
  refine reading_bind (reading_ask_readAll network calls _) fun gathered => ?_
  cases gathered with
  | all answers => exact reading_mapM (fun _ => reading_ofChain _) _
  | stopped call answer => exact reading_bind (reading_ofChain _) fun _ => reading_pure _

theorem reading_requireToken (network : Network) (symbol missing : String) :
    Reading (requireToken network symbol missing) := by
  unfold requireToken
  cases liquidToken? network symbol with
  | some token => exact reading_pure token
  | none => exact reading_throw _

/-! ## The tools -/

variable (context : Context) (args : Args)

theorem reading_stakingPosition : Reading (stakingPosition.run context args) := by
  refine reading_bind (reading_ofArgument _) fun identifier => ?_
  refine reading_bind (reading_ofArgument _) fun contract => ?_
  refine reading_bind (reading_ofArgument _) fun user => ?_
  refine reading_bind (reading_ofArgument _) fun decimals => ?_
  refine reading_bind (reading_reader identifier) fun network => ?_
  refine reading_bind (reading_readTogether network _) fun answers => ?_
  exact reading_bind (reading_ofOverflow _) fun share => reading_pure _

theorem reading_stakingRate : Reading (stakingRate.run context args) := by
  refine reading_bind (reading_ofArgument _) fun identifier => ?_
  refine reading_bind (reading_ofArgument _) fun contract => ?_
  refine reading_bind (reading_reader identifier) fun network => ?_
  refine reading_bind (reading_readTogether network _) fun answers => ?_
  exact reading_bind (reading_ofOverflow _) fun yearly => reading_pure _

theorem reading_stakingDirectory : Reading (stakingDirectory.run context args) := by
  refine reading_bind (reading_ofArgument _) fun identifier => ?_
  exact reading_bind (reading_reader identifier) fun network => reading_pure _

theorem reading_liquidDirectory : Reading (liquidDirectory.run context args) := by
  refine reading_bind (reading_ofArgument _) fun identifier => ?_
  exact reading_bind (reading_reader identifier) fun network => reading_pure _

theorem reading_lidoStats : Reading (lidoStats.run context args) := by
  refine reading_bind (reading_ofArgument _) fun identifier => ?_
  refine reading_bind (reading_reader identifier) fun network => ?_
  refine reading_bind (reading_requireToken network _ _) fun steth => ?_
  exact reading_bind (reading_readUints network _) fun numbers => reading_pure _

theorem reading_farmingPosition : Reading (farmingPosition.run context args) := by
  refine reading_bind (reading_ofArgument _) fun identifier => ?_
  refine reading_bind (reading_ofArgument _) fun farm => ?_
  refine reading_bind (reading_ofArgument _) fun pool => ?_
  refine reading_bind (reading_ofArgument _) fun user => ?_
  refine reading_bind (reading_reader identifier) fun network => ?_
  refine reading_bind (reading_readTogether network _) fun answers => ?_
  refine reading_bind (reading_ofChain _) fun userInfo => ?_
  refine reading_bind (reading_ofChain _) fun poolInfo => ?_
  refine reading_bind (reading_ofChain _) fun staked => ?_
  refine reading_bind (reading_ofChain _) fun rewardDebt => ?_
  refine reading_bind (reading_ofChain _) fun pairToken => ?_
  exact reading_bind (reading_ofChain _) fun points => reading_pure _

def takesKey (tool : Tool) : Bool :=
  tool.params.any (·.name = Args.keyField)

def signingTools : List Tool := [
  stakeTokens,
  unstakeTokens,
  claimRewards,
  stakeEther,
  wrapSteth,
  unwrapWsteth,
  stakePairTokens,
  withdrawPairTokens]

def keylessTools : List Tool := [
  stakingPosition,
  stakingRate,
  stakingDirectory,
  lidoStats,
  liquidDirectory,
  farmingPosition]

theorem filter_takesKey : catalogue.filter takesKey = signingTools := rfl

theorem filter_not_takesKey : catalogue.filter (!takesKey ·) = keylessTools := rfl

theorem mem_signingTools {tool : Tool} (htool : tool ∈ catalogue) (hkey : takesKey tool = true) :
    tool ∈ signingTools := by
  rw [← filter_takesKey]
  exact List.mem_filter.mpr ⟨htool, hkey⟩

theorem mem_keylessTools {tool : Tool} (htool : tool ∈ catalogue) (hkey : takesKey tool = false) :
    tool ∈ keylessTools := by
  rw [← filter_not_takesKey]
  exact List.mem_filter.mpr ⟨htool, by rw [hkey]; rfl⟩

/-- A tool that takes no signing key only reads. -/
theorem reading_of_keyless {tool : Tool} (htool : tool ∈ catalogue) (hkey : takesKey tool = false) :
    Reading (tool.run context args) := by
  have hmem := mem_keylessTools htool hkey
  simp only [keylessTools, List.mem_cons, List.not_mem_nil, or_false] at hmem
  rcases hmem with rfl | rfl | rfl | rfl | rfl | rfl
  · exact reading_stakingPosition context args
  · exact reading_stakingRate context args
  · exact reading_stakingDirectory context args
  · exact reading_lidoStats context args
  · exact reading_liquidDirectory context args
  · exact reading_farmingPosition context args

end StakingGateway.Operation
