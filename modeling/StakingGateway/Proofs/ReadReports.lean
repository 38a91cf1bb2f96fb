import StakingGateway.Proofs.ExactPercent
import StakingGateway.Proofs.GatheredReads
import StakingGateway.Proofs.Preflight

/-!
# Reports on reads

Four tools gather some reads and report on them. Once their arguments are settled, such a tool is a
list of calls and a function from what was gathered to its result (`Shape`), over every chain and
under every schedule. The reports have their own definitions here, so that what is shown in which
field can be looked up.
-/

namespace StakingGateway.Operation

open Tool Chain Contract Tool.Action

/-! ## The reports -/

def positionReport (identifier : String) (contract user : Address) (decimals : Nat)
    (staked pending total : Uint256) (share : String) (stakingToken rewardsToken : Option Address) :
    Json :=
  .obj [
    ("network", .string identifier),
    ("stakingContract", .string contract.checksum),
    ("userAddress", .string user.checksum),
    ("position", .obj [
      ("stakedBalance", .string staked.text),
      ("stakedFormatted", .string (Amount.formatUnits staked decimals)),
      ("pendingRewards", .string pending.text),
      ("rewardsFormatted", .string (Amount.formatUnits pending decimals))]),
    ("pool", .obj [
      ("totalStaked", .string total.text),
      ("totalStakedFormatted", .string (Amount.formatUnits total decimals)),
      ("userSharePercent", .string share)]),
    ("tokens", .obj [
      ("stakingToken", checksumOrNull stakingToken),
      ("rewardsToken", checksumOrNull rewardsToken)])]

def rateReport (identifier : String) (contract : Address) (rate total : Uint256)
    (yearly : String) : Json :=
  .obj [
    ("network", .string identifier),
    ("stakingContract", .string contract.checksum),
    ("rewardRate", .string rate.text),
    ("rewardRatePerSecond", .string (Amount.formatEther rate)),
    ("totalStaked", .string total.text),
    ("estimatedAPR", .string (yearly ++ "%")),
    ("note", "APR is estimated and assumes 1:1 token value ratio")]

def farmReport (identifier : String) (farm : Address) (pool : Nat) (user : Address)
    (staked rewardDebt pending : Uint256) (pairToken : Address) (points : Uint256) : Json :=
  .obj [
    ("network", .string identifier),
    ("farmContract", .string farm.checksum),
    ("poolId", .nat pool),
    ("userAddress", .string user.checksum),
    ("position", .obj [
      ("stakedAmount", .string (Amount.formatEther staked)),
      ("stakedAmountRaw", .string staked.text),
      ("rewardDebt", .string rewardDebt.text),
      ("pendingRewards", .string (Amount.formatEther pending)),
      ("pendingRewardsRaw", .string pending.text)]),
    ("pool", .obj [
      ("lpToken", .string pairToken.checksum),
      ("allocPoint", .string points.text)])]

def lidoReport (identifier : String) (steth : Address) (wsteth : Option Address)
    (pooled shares stethPerToken : Uint256) : Json :=
  .obj [
    ("network", .string identifier),
    ("lido", .obj [
      ("totalPooledEther", .string (Amount.formatEther pooled)),
      ("totalShares", .string shares.text),
      ("sharePrice", .string (Amount.formatEther (Amount.sharePrice pooled shares))),
      ("stEthPerWstETH", .string (Amount.formatEther stethPerToken))]),
    ("contracts", .obj [
      ("stETH", .string steth.checksum),
      ("wstETH", checksumOrNull wsteth)]),
    ("note", "Current Lido APR is approximately 3-5% (varies based on network conditions)")]

/-! ## Shapes of reading tools -/

/-- The calls of a reading tool, and its result from what was gathered. -/
structure Shape where
  calls : List Call
  decisive : Call → ReadAnswer → Bool
  result : Gathered → Except Fault Json

def calculated (outcome : Except Amount.Overflow String) (report : String → Json) :
    Except Fault Json :=
  (outcome.mapError fun e => .crashed e.message).map report

theorem calculated_eq_ok {outcome : Except Amount.Overflow String} {report : String → Json}
    {data : Json} (h : calculated outcome report = .ok data) :
    ∃ text, outcome = .ok text ∧ data = report text := by
  rcases outcome with e | text
  · cases h
  · exact ⟨text, rfl, (Except.ok.inj h).symm⟩

def positionShape (identifier : String) (contract user : Address) (decimals : Nat) : Shape where
  calls := positionCalls contract user
  decisive _ _ := false
  result gathered :=
    let answer (i : Nat) (call : Call) := answerAt (answersOf gathered) i call
    let balance := stakingCall contract "balanceOf" [.address user]
    let earned := stakingCall contract "earned" [.address user]
    let supply := stakingCall contract "totalSupply"
    let staking := stakingCall contract "stakingToken"
    let rewards := stakingCall contract "rewardsToken"
    let staked := uintOrZero balance (answer 0 balance)
    let total := uintOrZero supply (answer 2 supply)
    calculated (Amount.percent staked total Amount.shareDecimals) fun share =>
      positionReport identifier contract user decimals staked
        (uintOrZero earned (answer 1 earned)) total share
        (addressOrNone staking (answer 3 staking)) (addressOrNone rewards (answer 4 rewards))

def rateShape (identifier : String) (contract : Address) : Shape where
  calls := [stakingCall contract "rewardRate", stakingCall contract "totalSupply"]
  decisive _ _ := false
  result gathered :=
    let rewardRate := stakingCall contract "rewardRate"
    let supply := stakingCall contract "totalSupply"
    let rate := uintOrZero rewardRate (answerAt (answersOf gathered) 0 rewardRate)
    let total := uintOrZero supply (answerAt (answersOf gathered) 1 supply)
    calculated (Amount.estimatedRate rate total) (rateReport identifier contract rate total)

def farmReads (farm : Address) (pool : Nat) (user : Address) : List Call :=
  [farmCall farm "userInfo" [poolToken pool, .address user],
   farmCall farm "poolInfo" [poolToken pool],
   farmCall farm "pendingReward" [poolToken pool, .address user]]

def farmResult (identifier : String) (farm : Address) (pool : Nat) (user : Address)
    (pending : Uint256) (userAnswer poolAnswer : ReadAnswer) : Except Chain.Error Json := do
  let userInfo ← userAnswer
  let poolInfo ← poolAnswer
  let staked ← uintAt userInfo 0 "userInfo"
  let rewardDebt ← uintAt userInfo 1 "userInfo"
  let pairToken ← addressAt poolInfo 0 "poolInfo"
  let points ← uintAt poolInfo 1 "poolInfo"
  return farmReport identifier farm pool user staked rewardDebt pending pairToken points

def farmShape (identifier : String) (farm : Address) (pool : Nat) (user : Address) : Shape where
  calls := farmReads farm pool user
  decisive _ _ := false
  result gathered :=
    let userCall := farmCall farm "userInfo" [poolToken pool, .address user]
    let poolCall := farmCall farm "poolInfo" [poolToken pool]
    let pendingCall := farmCall farm "pendingReward" [poolToken pool, .address user]
    (farmResult identifier farm pool user
      (uintOrZero pendingCall (answerAt (answersOf gathered) 2 pendingCall))
      (answerAt (answersOf gathered) 0 userCall)
      (answerAt (answersOf gathered) 1 poolCall)).mapError Fault.ofChain

def lidoReads (steth : Address) (wsteth : Option Address) : List Call :=
  [stethCall steth "getTotalPooledEther", stethCall steth "getTotalShares"] ++
    (wsteth.map fun token => wstethCall token "stEthPerToken").toList

def lidoShape (identifier : String) (steth : Address) (wsteth : Option Address) : Shape where
  calls := lidoReads steth wsteth
  decisive call answer := !(uintOf call answer).isOk
  result gathered :=
    ((numbersOf (lidoReads steth wsteth) gathered).map fun numbers =>
      lidoReport identifier steth wsteth (numbers.getD 0 0) (numbers.getD 1 0)
        (numbers.getD 2 0)).mapError Fault.ofChain

/-- The shape that a reading tool has with settled arguments. -/
inductive ShapeOf (args : Args) (identifier : String) (network : Network) : Tool → Shape → Prop
  | stakingPosition {contract user : Address} {decimals : Nat}
      (hcontract : args.address "stakingContract" = .ok contract)
      (huser : args.address "userAddress" = .ok user)
      (hdecimals : displayDecimals args = .ok decimals) :
      ShapeOf args identifier network stakingPosition
        (positionShape identifier contract user decimals)
  | stakingRate {contract : Address} (hcontract : args.address "stakingContract" = .ok contract) :
      ShapeOf args identifier network stakingRate (rateShape identifier contract)
  | farmingPosition {farm user : Address} {pool : Nat}
      (hfarm : args.address "farmContract" = .ok farm) (hpool : args.natural "poolId" = .ok pool)
      (huser : args.address "userAddress" = .ok user) :
      ShapeOf args identifier network farmingPosition (farmShape identifier farm pool user)
  | lidoStats {steth : Address} (hsteth : liquidToken? network "stETH" = some steth) :
      ShapeOf args identifier network lidoStats
        (lidoShape identifier steth (liquidToken? network "wstETH"))

variable {σ : Type} {chain : Chain (StateM σ)} {schedule : Schedule} {s s' : σ}
  {context : Context} {args : Args} {identifier : String} {network : Network}

theorem run_farmResult (farm : Address) (pool : Nat) (user : Address) (pending : Uint256)
    (userAnswer poolAnswer : ReadAnswer) :
    (do
      let userInfo ← ofChain userAnswer
      let poolInfo ← ofChain poolAnswer
      let staked ← ofChain (uintAt userInfo 0 "userInfo")
      let rewardDebt ← ofChain (uintAt userInfo 1 "userInfo")
      let pairToken ← ofChain (addressAt poolInfo 0 "poolInfo")
      let points ← ofChain (uintAt poolInfo 1 "poolInfo")
      return farmReport identifier farm pool user staked rewardDebt pending pairToken points :
        Action Json).run =
      .done ((farmResult identifier farm pool user pending userAnswer poolAnswer).mapError
        Fault.ofChain) := by
  refine run_bind_ofChain fun userInfo => ?_
  refine run_bind_ofChain fun poolInfo => ?_
  refine run_bind_ofChain fun staked => ?_
  refine run_bind_ofChain fun rewardDebt => ?_
  refine run_bind_ofChain fun pairToken => ?_
  exact run_bind_ofChain fun points => rfl

theorem yields_of_shape {tool : Tool} {shape : Shape} {gathered : Gathered} {events : List Event}
    (h : ShapeOf args identifier network tool shape)
    (hidentifier : args.text "network" = .ok identifier)
    (hreader : chain.openReader identifier = .ok network)
    (hread : chain.readInOrder network shape.calls shape.decisive (schedule shape.calls.length) []
      s = ((gathered, events), s')) :
    Yields chain schedule s (tool.run context args) (shape.result gathered)
      (.reader identifier (.ok network) :: events) := by
  cases h with
  | stakingPosition hcontract huser hdecimals =>
      refine yields_ofArgument hidentifier ?_
      refine yields_ofArgument hcontract ?_
      refine yields_ofArgument huser ?_
      refine yields_ofArgument hdecimals ?_
      refine yields_reader hreader ?_
      exact yields_readTogether hread (run_bind_pure (run_ofOverflow _) _)
  | stakingRate hcontract =>
      refine yields_ofArgument hidentifier ?_
      refine yields_ofArgument hcontract ?_
      refine yields_reader hreader ?_
      exact yields_readTogether hread (run_bind_pure (run_ofOverflow _) _)
  | farmingPosition hfarm hpool huser =>
      refine yields_ofArgument hidentifier ?_
      refine yields_ofArgument hfarm ?_
      refine yields_ofArgument hpool ?_
      refine yields_ofArgument huser ?_
      refine yields_reader hreader ?_
      exact yields_readTogether hread (run_farmResult ..)
  | @lidoStats steth hsteth =>
      refine yields_ofArgument hidentifier ?_
      refine yields_reader hreader ?_
      have hrequire : requireToken network "stETH" "Lido not available on this network" =
          pure steth := by
        unfold requireToken
        rw [hsteth]
      rw [hrequire, pure_bind]
      exact yields_readUints hread

end StakingGateway.Operation
