import StakingGateway.Proofs.ReadFields
import StakingGateway.Proofs.ReadOrder
import StakingGateway.Proofs.Records

/-!
# The fields of each report

What a reading tool makes of the answers to its reads, tool by tool: when it makes its report at
all, which field shows which output, and which fields a change of one answer leaves as they are.
-/

namespace StakingGateway.Operation

open Tool Chain Contract Tool.Action

/-! ## Staking pools -/

section Position

variable (identifier : String) (contract user : Address) (decimals : Nat)

def MadePosition (answers : Readings) (data : Json) : Prop :=
  ∃ share, Amount.percent (answers.number "balanceOf") (answers.number "totalSupply")
      Amount.shareDecimals = .ok share ∧
    data = positionReport identifier contract user decimals (answers.number "balanceOf")
      (answers.number "earned") (answers.number "totalSupply") share
      (answers.address? "stakingToken") (answers.address? "rewardsToken")

theorem exists_madePosition (answers : Readings) :
    ∃ data, MadePosition identifier contract user decimals answers data ∧
      (positionShape identifier contract user decimals).result
          (.all ((positionCalls contract user).map fun call => answers call.function)) =
        .ok data := by
  obtain ⟨share, hshare⟩ := exists_share (answers.number "balanceOf") (answers.number "totalSupply")
  refine ⟨_, ⟨share, hshare, rfl⟩, ?_⟩
  have hbalance := uintOrZero_eq answers (stakingCall contract "balanceOf" [.address user])
  have hearned := uintOrZero_eq answers (stakingCall contract "earned" [.address user])
  have hsupply := uintOrZero_eq answers (stakingCall contract "totalSupply")
  have hstaking := addressOrNone_eq answers (stakingCall contract "stakingToken")
  have hrewards := addressOrNone_eq answers (stakingCall contract "rewardsToken")
  simp only [stakingCall] at hbalance hearned hsupply hstaking hrewards
  simp only [positionShape, positionCalls, answersOf, answerAt, stakingCall, List.map_cons,
    List.map_nil, List.getD_cons_zero, List.getD_cons_succ, hbalance, hearned, hsupply, hstaking,
    hrewards, hshare]
  rfl

variable {identifier contract user decimals}

theorem MadePosition.shows {answers : Readings} {data : Json}
    (h : MadePosition identifier contract user decimals answers data) :
    positionFields.Shows answers data := by
  obtain ⟨share, -, rfl⟩ := h
  simp [ReadReport.Shows, positionFields, shown_number, shown_address, Json.at?, positionReport,
    Json.lookup]

theorem MadePosition.differs {answers others : Readings} {function : String} {data other : Json}
    (hsame : ∀ f ≠ function, others f = answers f)
    (h : MadePosition identifier contract user decimals answers data)
    (hother : MadePosition identifier contract user decimals others other) :
    positionFields.DiffersBy function data other := by
  obtain ⟨share, hshare, rfl⟩ := h
  obtain ⟨shareOther, hshareOther, rfl⟩ := hother
  have hagree {place : Json.Path} {left right : Json} :=
    @agreeBeside_of_source positionFields answers others function place left right hsame
  apply differsBy_of_agreeBeside
  refine Json.agreeBeside_obj (.cons (Json.agreeBeside_refl _) ?_)
  refine .cons (Json.agreeBeside_refl _) (.cons (Json.agreeBeside_refl _) ?_)
  refine .cons (Json.agreeBeside_obj ?position)
    (.cons (Json.agreeBeside_obj ?pool) (.cons (Json.agreeBeside_obj ?tokens) .nil))
  case position =>
    refine .cons (hagree "balanceOf" (by decide +kernel) fun h => by rw [number_congr h]) ?_
    refine .cons (hagree "balanceOf" (by decide +kernel) fun h => by rw [number_congr h]) ?_
    refine .cons (hagree "earned" (by decide +kernel) fun h => by rw [number_congr h]) ?_
    exact .cons (hagree "earned" (by decide +kernel) fun h => by rw [number_congr h]) .nil
  case pool =>
    refine .cons (hagree "totalSupply" (by decide +kernel) fun h => by rw [number_congr h]) ?_
    refine .cons (hagree "totalSupply" (by decide +kernel) fun h => by rw [number_congr h]) ?_
    refine .cons (agreeBeside_of_sources hsame ["balanceOf", "totalSupply"] (by decide +kernel)
      fun h => ?_) .nil
    rw [number_congr (h "balanceOf" (by simp)), number_congr (h "totalSupply" (by simp)),
      hshareOther] at hshare
    rw [Except.ok.inj hshare]
  case tokens =>
    refine .cons (hagree "stakingToken" (by decide +kernel) fun h => by rw [address?_congr h]) ?_
    exact .cons (hagree "rewardsToken" (by decide +kernel) fun h => by rw [address?_congr h]) .nil

theorem describes_position :
    positionFields.Describes (positionShape identifier contract user decimals)
      (MadePosition identifier contract user decimals) :=
  describes_of_always rfl (fun _ _ => rfl)
    (exists_madePosition identifier contract user decimals) MadePosition.shows MadePosition.differs

end Position

section Rate

variable (identifier : String) (contract : Address)

def MadeRate (answers : Readings) (data : Json) : Prop :=
  ∃ yearly, Amount.estimatedRate (answers.number "rewardRate") (answers.number "totalSupply") =
      .ok yearly ∧
    data = rateReport identifier contract (answers.number "rewardRate")
      (answers.number "totalSupply") yearly

theorem exists_madeRate (answers : Readings) :
    ∃ data, MadeRate identifier contract answers data ∧ (rateShape identifier contract).result
      (.all ((rateShape identifier contract).calls.map fun call => answers call.function)) =
        .ok data := by
  obtain ⟨yearly, hyearly⟩ :=
    Amount.estimatedRate_of_words (answers.number "rewardRate") (answers.number "totalSupply")
  refine ⟨_, ⟨yearly, hyearly, rfl⟩, ?_⟩
  have hrate := uintOrZero_eq answers (stakingCall contract "rewardRate")
  have hsupply := uintOrZero_eq answers (stakingCall contract "totalSupply")
  simp only [stakingCall] at hrate hsupply
  simp only [rateShape, answersOf, answerAt, stakingCall, List.map_cons, List.map_nil,
    List.getD_cons_zero, List.getD_cons_succ, hrate, hsupply, hyearly]
  rfl

variable {identifier contract}

theorem MadeRate.shows {answers : Readings} {data : Json}
    (h : MadeRate identifier contract answers data) : rateFields.Shows answers data := by
  obtain ⟨yearly, -, rfl⟩ := h
  simp [ReadReport.Shows, rateFields, shown_number, shown_ether, Json.at?, rateReport, Json.lookup]

theorem MadeRate.differs {answers others : Readings} {function : String} {data other : Json}
    (hsame : ∀ f ≠ function, others f = answers f)
    (h : MadeRate identifier contract answers data)
    (hother : MadeRate identifier contract others other) :
    rateFields.DiffersBy function data other := by
  obtain ⟨yearly, hyearly, rfl⟩ := h
  obtain ⟨yearlyOther, hyearlyOther, rfl⟩ := hother
  have hagree {place : Json.Path} {left right : Json} :=
    @agreeBeside_of_source rateFields answers others function place left right hsame
  apply differsBy_of_agreeBeside
  refine Json.agreeBeside_obj (.cons (Json.agreeBeside_refl _) ?_)
  refine .cons (Json.agreeBeside_refl _) ?_
  refine .cons (hagree "rewardRate" (by decide +kernel) fun h => by rw [number_congr h]) ?_
  refine .cons (hagree "rewardRate" (by decide +kernel) fun h => by rw [number_congr h]) ?_
  refine .cons (hagree "totalSupply" (by decide +kernel) fun h => by rw [number_congr h]) ?_
  refine .cons (agreeBeside_of_sources hsame ["rewardRate", "totalSupply"] (by decide +kernel)
    fun h => ?_) (.cons (Json.agreeBeside_refl _) .nil)
  rw [number_congr (h "rewardRate" (by simp)), number_congr (h "totalSupply" (by simp)),
    hyearlyOther] at hyearly
  rw [Except.ok.inj hyearly]

theorem describes_rate :
    rateFields.Describes (rateShape identifier contract) (MadeRate identifier contract) :=
  describes_of_always rfl (fun _ _ => rfl) (exists_madeRate identifier contract) MadeRate.shows
    MadeRate.differs

end Rate

/-! ## Farms -/

section Farm

variable (identifier : String) (farm : Address) (pool : Nat) (user : Address)

def MadeFarm (answers : Readings) (data : Json) : Prop :=
  ∃ pairToken, answers.address? "poolInfo" = some pairToken ∧
    data = farmReport identifier farm pool user (answers.number "userInfo")
      (answers.number "userInfo" 1) (answers.number "pendingReward") pairToken
      (answers.number "poolInfo" 1)

variable {identifier farm pool user}

theorem complete_farm {answers : Readings} :
    farmFields.Complete answers ↔
      (answers.uint? "userInfo" 0 ≠ none ∧ answers.uint? "userInfo" 1 ≠ none) ∧
        answers.address? "poolInfo" 0 ≠ none ∧ answers.uint? "poolInfo" 1 ≠ none := by
  simp [ReadReport.Complete, farmFields, Output.shown?, and_assoc]

theorem farmResult_eq_ok {answers : Readings} {pending : Uint256} {data : Json} :
    farmResult identifier farm pool user pending (answers "userInfo") (answers "poolInfo") =
        .ok data ↔
      farmFields.Complete answers ∧ ∃ pairToken, answers.address? "poolInfo" = some pairToken ∧
        data = farmReport identifier farm pool user (answers.number "userInfo")
          (answers.number "userInfo" 1) pending pairToken (answers.number "poolInfo" 1) := by
  rw [complete_farm]
  simp only [farmResult, Json.bind_eq_ok, uintAt_eq_ok, addressAt_eq_ok]
  constructor
  · rintro ⟨userInfo, huser, poolInfo, hpool, staked, hstaked, debt, hdebt, pairToken, htoken,
      points, hpoints, hdata⟩
    have hstaked := (uint?_eq_some answers).mpr ⟨userInfo, huser, hstaked⟩
    have hdebt := (uint?_eq_some answers).mpr ⟨userInfo, huser, hdebt⟩
    have htoken := (address?_eq_some answers).mpr ⟨poolInfo, hpool, htoken⟩
    have hpoints := (uint?_eq_some answers).mpr ⟨poolInfo, hpool, hpoints⟩
    refine ⟨by simp [hstaked, hdebt, htoken, hpoints], pairToken, htoken, ?_⟩
    rw [number_of_uint? hstaked, number_of_uint? hdebt, number_of_uint? hpoints]
    exact (Except.ok.inj hdata).symm
  · rintro ⟨⟨⟨hstaked, hdebt⟩, -, hpoints⟩, pairToken, htoken, rfl⟩
    obtain ⟨staked, hstaked⟩ := Option.ne_none_iff_exists'.mp hstaked
    obtain ⟨debt, hdebt⟩ := Option.ne_none_iff_exists'.mp hdebt
    obtain ⟨points, hpoints⟩ := Option.ne_none_iff_exists'.mp hpoints
    rw [number_of_uint? hstaked, number_of_uint? hdebt, number_of_uint? hpoints]
    obtain ⟨userInfo, huser, hstaked⟩ := (uint?_eq_some answers).mp hstaked
    obtain ⟨poolInfo, hpool, htoken⟩ := (address?_eq_some answers).mp htoken
    simp only [uint?_eq_some, huser, hpool, Except.ok.injEq, exists_eq_left'] at hdebt hpoints
    exact ⟨userInfo, huser, poolInfo, hpool, staked, hstaked, debt, hdebt, pairToken, htoken,
      points, hpoints, rfl⟩

theorem farmShape_eq_ok {answers : Readings} {data : Json} :
    (farmShape identifier farm pool user).result
        (.all ((farmReads farm pool user).map fun call => answers call.function)) = .ok data ↔
      farmFields.Complete answers ∧ MadeFarm identifier farm pool user answers data := by
  have hpending :=
    uintOrZero_eq answers (farmCall farm "pendingReward" [poolToken pool, .address user])
  simp only [farmCall] at hpending
  simp only [farmShape, farmReads, answersOf, answerAt, farmCall, List.map_cons, List.map_nil,
    List.getD_cons_zero, List.getD_cons_succ, hpending]
  rw [mapError_eq_ok, farmResult_eq_ok]
  rfl

theorem MadeFarm.shows {answers : Readings} {data : Json}
    (h : MadeFarm identifier farm pool user answers data) : farmFields.Shows answers data := by
  obtain ⟨pairToken, htoken, rfl⟩ := h
  simp [ReadReport.Shows, farmFields, shown_number, shown_ether, shown_address, htoken, Json.at?,
    farmReport, Json.lookup, checksumOrNull, Json.ofOptionString, Json.ofOption]

theorem MadeFarm.differs {answers others : Readings} {function : String} {data other : Json}
    (hsame : ∀ f ≠ function, others f = answers f)
    (h : MadeFarm identifier farm pool user answers data)
    (hother : MadeFarm identifier farm pool user others other) :
    farmFields.DiffersBy function data other := by
  obtain ⟨pairToken, htoken, rfl⟩ := h
  obtain ⟨pairTokenOther, htokenOther, rfl⟩ := hother
  have hagree {place : Json.Path} {left right : Json} :=
    @agreeBeside_of_source farmFields answers others function place left right hsame
  apply differsBy_of_agreeBeside
  refine Json.agreeBeside_obj (.cons (Json.agreeBeside_refl _) ?_)
  refine .cons (Json.agreeBeside_refl _) (.cons (Json.agreeBeside_refl _) ?_)
  refine .cons (Json.agreeBeside_refl _) ?_
  refine .cons (Json.agreeBeside_obj ?position) (.cons (Json.agreeBeside_obj ?pool) .nil)
  case position =>
    refine .cons (hagree "userInfo" (by decide +kernel) fun h => by rw [number_congr h]) ?_
    refine .cons (hagree "userInfo" (by decide +kernel) fun h => by rw [number_congr h]) ?_
    refine .cons (hagree "userInfo" (by decide +kernel) fun h => by rw [number_congr h]) ?_
    refine .cons (hagree "pendingReward" (by decide +kernel) fun h => by rw [number_congr h]) ?_
    exact .cons (hagree "pendingReward" (by decide +kernel) fun h => by rw [number_congr h]) .nil
  case pool =>
    refine .cons (hagree "poolInfo" (by decide +kernel) fun h => ?_) ?_
    · rw [address?_congr h, htokenOther] at htoken
      rw [Option.some.inj htoken]
    · exact .cons (hagree "poolInfo" (by decide +kernel) fun h => by rw [number_congr h]) .nil

theorem describes_farm :
    farmFields.Describes (farmShape identifier farm pool user)
      (MadeFarm identifier farm pool user) where
  made := by
    intro answers gathered data hgathers hdata
    obtain rfl := hgathers.eq_all fun _ _ => rfl
    exact farmShape_eq_ok.mp hdata
  complete := by
    intro answers gathered hgathers hcomplete
    obtain rfl := hgathers.eq_all fun _ _ => rfl
    obtain ⟨pairToken, htoken⟩ := Option.ne_none_iff_exists'.mp (complete_farm.mp hcomplete).2.1
    exact ⟨_, farmShape_eq_ok.mpr ⟨hcomplete, pairToken, htoken, rfl⟩⟩
  shows := MadeFarm.shows
  differs := MadeFarm.differs

end Farm

/-! ## Liquid staking -/

section Lido

variable {identifier : String} {steth wsteth : Address}

/-- Where the token is deployed, so is its wrapped form. -/
theorem exists_wsteth {network : Network} (h : liquidToken? network "stETH" = some steth) :
    ∃ wsteth, liquidToken? network "wstETH" = some wsteth := by
  cases network with
  | ethereum => exact Option.isSome_iff_exists.mp (by decide +kernel)
  | _ => cases h

variable (identifier steth wsteth) in
def MadeLido (answers : Readings) (data : Json) : Prop :=
  data = lidoReport identifier steth (some wsteth) (answers.number "getTotalPooledEther")
    (answers.number "getTotalShares") (answers.number "stEthPerToken")

theorem complete_lido {answers : Readings} :
    lidoFields.Complete answers ↔
      ∀ call ∈ lidoReads steth (some wsteth), answers.uint? call.function ≠ none := by
  simp [ReadReport.Complete, lidoFields, Output.shown?, lidoReads, stethCall, wstethCall]

theorem numbersOf_of_readable {answers : Readings} {calls : List Call}
    (h : ∀ call ∈ calls, answers.uint? call.function ≠ none) :
    numbersOf calls (.all (calls.map fun call => answers call.function)) =
      .ok (calls.map fun call => answers.number call.function) := by
  simp only [numbersOf]
  induction calls with
  | nil => rfl
  | cons call calls ih =>
      obtain ⟨hcall, hcalls⟩ := List.forall_mem_cons.mp h
      obtain ⟨value, hvalue⟩ := Option.ne_none_iff_exists'.mp hcall
      rw [List.map_cons, List.zip_cons_cons, List.mapM_cons, (uintOf_eq_ok answers).mpr hvalue,
        ih hcalls, List.map_cons, number_of_uint? hvalue]
      rfl

theorem decisive_eq_false {answers : Readings} {call : Call} :
    (lidoShape identifier steth (some wsteth)).decisive call (answers call.function) = false ↔
      answers.uint? call.function ≠ none := by
  simp only [lidoShape, Bool.not_eq_false']
  cases hread : uintOf call (answers call.function) with
  | ok value => simp [Except.isOk, Except.toBool, (uintOf_eq_ok answers).mp hread]
  | error e =>
      cases hvalue : answers.uint? call.function with
      | none => simp [Except.isOk, Except.toBool]
      | some value =>
          rw [(uintOf_eq_ok answers).mpr hvalue] at hread
          cases hread

theorem lidoShape_of_complete {answers : Readings} (h : lidoFields.Complete answers) :
    (lidoShape identifier steth (some wsteth)).result
        (.all ((lidoReads steth (some wsteth)).map fun call => answers call.function)) =
      .ok (lidoReport identifier steth (some wsteth) (answers.number "getTotalPooledEther")
        (answers.number "getTotalShares") (answers.number "stEthPerToken")) := by
  simp only [lidoShape, numbersOf_of_readable (complete_lido.mp h)]
  rfl

theorem MadeLido.shows {answers : Readings} {data : Json}
    (h : MadeLido identifier steth wsteth answers data) : lidoFields.Shows answers data := by
  obtain rfl := h
  simp [ReadReport.Shows, lidoFields, shown_number, shown_ether, Json.at?, lidoReport, Json.lookup]

theorem MadeLido.differs {answers others : Readings} {function : String} {data other : Json}
    (hsame : ∀ f ≠ function, others f = answers f)
    (h : MadeLido identifier steth wsteth answers data)
    (hother : MadeLido identifier steth wsteth others other) :
    lidoFields.DiffersBy function data other := by
  obtain rfl := h
  obtain rfl := hother
  have hagree {place : Json.Path} {left right : Json} :=
    @agreeBeside_of_source lidoFields answers others function place left right hsame
  apply differsBy_of_agreeBeside
  refine Json.agreeBeside_obj (.cons (Json.agreeBeside_refl _) (.cons (Json.agreeBeside_obj ?_) ?_))
  · refine .cons (hagree "getTotalPooledEther" (by decide +kernel) fun h => by
      rw [number_congr h]) ?_
    refine .cons (hagree "getTotalShares" (by decide +kernel) fun h => by rw [number_congr h]) ?_
    refine .cons (agreeBeside_of_sources hsame ["getTotalPooledEther", "getTotalShares"]
      (by decide +kernel) fun h => ?_) ?_
    · rw [number_congr (h "getTotalPooledEther" (by simp)),
        number_congr (h "getTotalShares" (by simp))]
    · exact .cons (hagree "stEthPerToken" (by decide +kernel) fun h => by rw [number_congr h]) .nil
  · exact .cons (Json.agreeBeside_refl _) (.cons (Json.agreeBeside_refl _) .nil)

theorem describes_lido :
    lidoFields.Describes (lidoShape identifier steth (some wsteth))
      (MadeLido identifier steth wsteth) where
  made := by
    intro answers gathered data hgathers hdata
    cases hgathers with
    | all hcalm =>
        have hcomplete : lidoFields.Complete answers :=
          complete_lido.mpr fun call hcall => decisive_eq_false.mp (hcalm call hcall)
        exact ⟨hcomplete, (Except.ok.inj ((lidoShape_of_complete hcomplete).symm.trans hdata)).symm⟩
    | stopped _ hdecisive =>
        obtain ⟨cause, hcause⟩ := refused_of_decisive hdecisive
        rw [hcause] at hdata
        cases hdata
  complete := by
    intro answers gathered hgathers hcomplete
    cases hgathers with
    | all _ => exact ⟨_, lidoShape_of_complete hcomplete⟩
    | @stopped call hcall hdecisive =>
        rw [decisive_eq_false.mpr (complete_lido.mp hcomplete call hcall)] at hdecisive
        cases hdecisive
  shows := MadeLido.shows
  differs := MadeLido.differs

end Lido

/-! ## Tool calls -/

theorem ShapeOf.describes {args : Args} {identifier : String} {network : Network} {tool : Tool}
    {shape : Shape} (h : ShapeOf args identifier network tool shape) :
    ∃ report ∈ readReports, report.tool = tool ∧ ∃ Made, report.Describes shape Made := by
  cases h with
  | stakingPosition _ _ _ =>
      exact ⟨positionFields, by simp [readReports], rfl, _, describes_position⟩
  | stakingRate _ => exact ⟨rateFields, by simp [readReports], rfl, _, describes_rate⟩
  | farmingPosition _ _ _ => exact ⟨farmFields, by simp [readReports], rfl, _, describes_farm⟩
  | lidoStats hsteth =>
      obtain ⟨wsteth, hwsteth⟩ := exists_wsteth hsteth
      rw [hwsteth]
      exact ⟨lidoFields, by simp [readReports], rfl, _, describes_lido⟩

end StakingGateway.Operation
