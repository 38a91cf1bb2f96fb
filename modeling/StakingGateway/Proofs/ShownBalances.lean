import StakingGateway.Proofs.AmountWriting
import StakingGateway.Proofs.FieldPaths
import StakingGateway.Proofs.ReadOrder

/-!
# Balances as they are shown

A position shows every balance twice, in the smallest unit and divided by a power of ten. Up to 77
places the divided text denotes the balance. Ten to a higher power is no word, and then nothing is
divided: both texts are the same, and of all balances only zero is shown rightly.
-/

namespace StakingGateway

namespace Amount

/-- Read as decimal numbers, the first text is the second one divided by `10 ^ decimals`. -/
def Scales (decimals : Nat) (formatted raw : String) : Prop :=
  ∃ n m : DecimalText, formatted = n.text ∧ raw = m.text ∧ n.value * 10 ^ decimals = m.value

variable {decimals : Nat}

theorem scales_iff {n m : DecimalText} :
    Scales decimals n.text m.text ↔ n.value * 10 ^ decimals = m.value := by
  constructor
  · rintro ⟨n', m', hn, hm, hvalue⟩
    rwa [DecimalText.text_injective hn, DecimalText.text_injective hm]
  · exact fun hvalue => ⟨n, m, rfl, rfl, hvalue⟩

theorem text_eq_written (amount : Uint256) : amount.text = (written amount.toNat 0).text := by
  rw [text_eq_formatUnits, formatUnits_eq_written amount (Nat.zero_le _)]

theorem value_written_zero (amount : Nat) : (written amount 0).value = amount := by
  rw [value_written, pow_zero, div_one]

theorem scales_formatUnits (amount : Uint256) (h : decimals ≤ maxDecimals) :
    Scales decimals (formatUnits amount decimals) amount.text := by
  rw [formatUnits_eq_written amount h, text_eq_written, scales_iff, value_written,
    value_written_zero]
  field_simp

theorem formatUnits_of_lt (amount : Uint256) (h : maxDecimals < decimals) :
    formatUnits amount decimals = amount.text := by
  rw [formatUnits, unitsChars, if_neg (Nat.not_le.mpr h)]
  rfl

/-- No balance but zero is a multiple of itself. -/
theorem scales_text_iff (amount : Uint256) (h : 0 < decimals) :
    Scales decimals amount.text amount.text ↔ amount = 0 := by
  have hpow : (1 : ℚ) < 10 ^ decimals := one_lt_pow₀ (by norm_num) h.ne'
  rw [text_eq_written, scales_iff, value_written_zero]
  constructor
  · intro hvalue
    have hzero : (amount.toNat : ℚ) = 0 := by
      by_contra hne
      exact hpow.ne' (mul_left_cancel₀ hne (hvalue.trans (mul_one _).symm))
    exact BitVec.eq_of_toNat_eq (by exact_mod_cast hzero)
  · rintro rfl
    simp

theorem scales_formatUnits_iff (amount : Uint256) (decimals : Nat) :
    Scales decimals (formatUnits amount decimals) amount.text ↔
      decimals ≤ maxDecimals ∨ amount = 0 := by
  rcases Nat.lt_or_ge maxDecimals decimals with hlarge | hsmall
  · rw [formatUnits_of_lt amount hlarge, scales_text_iff amount (Nat.zero_lt_of_lt hlarge)]
    simp [Nat.not_le.mpr hlarge]
  · exact iff_of_true (scales_formatUnits amount hsmall) (Or.inl hsmall)

end Amount

namespace Operation

open Tool Chain Amount

/-- Where a position shows a balance: divided, and in the smallest unit. -/
def balancePlaces : List (Json.Path × Json.Path) := [
  (["position", "stakedFormatted"], ["position", "stakedBalance"]),
  (["position", "rewardsFormatted"], ["position", "pendingRewards"]),
  (["pool", "totalStakedFormatted"], ["pool", "totalStaked"])]

def AsksPlaces (args : Json) (decimals : Nat) : Prop :=
  (givenValue args "decimals").getD (.nat 18) = .nat decimals

theorem asksPlaces_of_validate {args : Json} {accepted : Args} {decimals : Nat}
    (hvalid : validate stakingPosition.params args = .ok accepted)
    (hdecimals : displayDecimals accepted = .ok decimals) : AsksPlaces args decimals := by
  obtain ⟨p, hmem, hname, hkind, hdefault⟩ : ∃ p ∈ stakingPosition.params,
      p.name = "decimals" ∧ p.kind = .integer ∧ p.default = some (.nat 18) := by
    simp [stakingPosition, Param.optional, Param.withDefault, etherDecimals]
  obtain ⟨hkept, haccepts⟩ := kept_of_validate hvalid (by decide +kernel) hmem
  rw [hname] at hkept haccepts
  rw [hdefault] at hkept
  rw [hkind] at haccepts
  unfold displayDecimals Args.natural? at hdecimals
  rw [hkept] at hdecimals
  unfold AsksPlaces
  cases hgiven : givenValue args "decimals" with
  | none =>
      rw [hgiven] at hdecimals
      rw [Option.getD_none, ← Except.ok.inj hdecimals]
      rfl
  | some value =>
      obtain ⟨number, hnumber⟩ := Option.isSome_iff_exists.mp (haccepts value hgiven)
      rw [hgiven, Option.some_or, Option.bind_some, hnumber, Option.getD_some] at hdecimals
      obtain rfl : number = decimals := by
        dsimp only at hdecimals
        split at hdecimals
        · exact Except.ok.inj hdecimals
        · cases hdecimals
      rw [Option.getD_some, (natural?_eq_some hnumber).1]
      rfl

variable {σ : Type} {chain : Chain (StateM σ)} {schedule : Schedule} {state : σ}
  {context : Context} {args data : Json}

/-- A position that is answered is a report of some balances with the places that were asked for. -/
theorem exists_report
    (h : (callOver chain schedule state context "get_staking_position" args).1 = .ok (.ok data)) :
    ∃ decimals, AsksPlaces args decimals ∧
      ∃ identifier contract user staked pending total share stakingToken rewardsToken,
        data = positionReport identifier contract user decimals staked pending total share
          stakingToken rewardsToken := by
  let preparation : Preparation := {
    tool := stakingPosition
    needs := [⟨"network", .text⟩, ⟨"stakingContract", .address⟩, ⟨"userAddress", .address⟩,
      ⟨"decimals", .places⟩] }
  have hmem : preparation ∈ preparations := List.mem_cons_self
  have hcases : (∃ accepted identifier network,
        Ready chain preparation args accepted identifier network) ∨
      ∀ schedule state, ∃ kind,
        FailsAs kind (callOver chain schedule state context preparation.tool.name args).1 :=
    ready_or_fails hmem
  rcases hcases with ⟨accepted, identifier, network, hready⟩ | hfails
  · have hneeds := hready.needs
    obtain ⟨contract, hcontract⟩ :=
      met_address.mpr (hneeds ⟨"stakingContract", .address⟩ (by simp [preparation]))
    obtain ⟨user, huser⟩ :=
      met_address.mpr (hneeds ⟨"userAddress", .address⟩ (by simp [preparation]))
    obtain ⟨decimals, hdecimals⟩ :=
      met_displayDecimals.mpr (hneeds ⟨"decimals", .places⟩ (by simp [preparation]))
    have hrun : callOver chain schedule state context preparation.tool.name args = _ :=
      callOver_of_shape hmem hready (.stakingPosition hcontract huser hdecimals) schedule state
    rw [show preparation.tool.name = "get_staking_position" from rfl] at hrun
    rw [hrun] at h
    obtain ⟨share, -, hreport⟩ := calculated_eq_ok (Envelope.eq_ok_of_ofResult h)
    exact ⟨decimals, asksPlaces_of_validate hready.valid hdecimals, _, _, _, _, _, _, _, _, _,
      hreport⟩
  · obtain ⟨kind, envelope, failure, houtcome, -, hdata, -⟩ := hfails schedule state
    rw [show preparation.tool.name = "get_staking_position" from rfl, h] at houtcome
    rw [← Except.ok.inj houtcome] at hdata
    cases hdata

/-- Every balance of a position is shown by two texts, and the first is the second divided by
`10 ^ decimals` as long as that power is a word. Beyond it nothing is divided. -/
theorem balances_shown (chain : Chain (StateM σ)) (schedule : Schedule) (state : σ)
    (context : Context) (args data : Json)
    (h : (callOver chain schedule state context "get_staking_position" args).1 = .ok (.ok data)) :
    ∃ decimals, AsksPlaces args decimals ∧
      ∀ place ∈ balancePlaces, ∃ formatted, ∃ balance : Uint256,
        data.at? place.1 = some (.string formatted) ∧
        data.at? place.2 = some (.string balance.text) ∧
        (Scales decimals formatted balance.text ↔ decimals ≤ maxDecimals ∨ balance = 0) ∧
        (maxDecimals < decimals → formatted = balance.text) := by
  obtain ⟨decimals, hasked, identifier, contract, user, staked, pending, total, share, stakingToken,
    rewardsToken, rfl⟩ := exists_report h
  refine ⟨decimals, hasked, fun place hplace => ?_⟩
  obtain ⟨balance, hformatted, hraw⟩ : ∃ balance : Uint256,
      (positionReport identifier contract user decimals staked pending total share stakingToken
        rewardsToken).at? place.1 = some (.string (formatUnits balance decimals)) ∧
      (positionReport identifier contract user decimals staked pending total share stakingToken
        rewardsToken).at? place.2 = some (.string balance.text) := by
    simp only [balancePlaces, List.mem_cons, List.not_mem_nil, or_false] at hplace
    rcases hplace with rfl | rfl | rfl
    · exact ⟨staked, by simp [Json.at?, positionReport, Json.lookup]⟩
    · exact ⟨pending, by simp [Json.at?, positionReport, Json.lookup]⟩
    · exact ⟨total, by simp [Json.at?, positionReport, Json.lookup]⟩
  exact ⟨_, balance, hformatted, hraw, scales_formatUnits_iff balance decimals,
    formatUnits_of_lt balance⟩

/-- A position of 1.5 tokens with six places. -/
theorem balances_shown_stablecoin :
    let args := Json.object [
      ("decimals", .nat 6), ("network", .string "arbitrum"),
      ("stakingContract", .string "0x00000000000000000000000000000000000000aa"),
      ("userAddress", .string "0x00000000000000000000000000000000000000bb")]
    let chain := answering fun
      | "balanceOf" => .ok [.uint 1500000]
      | "earned" => .ok [.uint 7]
      | "totalSupply" => .ok [.uint 3000000]
      | function => .error (.callFailed function "reverted")
    ∃ data, (callOver chain inOrder () {} "get_staking_position" args).1 = .ok (.ok data) ∧
      (data.at? ["position", "stakedFormatted"]).bind Json.string? = some "1.5" ∧
      Scales 6 "1.5" "1500000" ∧
      ∃ decimals, AsksPlaces args decimals ∧
        ∀ place ∈ balancePlaces, ∃ formatted, ∃ balance : Uint256,
          data.at? place.1 = some (.string formatted) ∧
          data.at? place.2 = some (.string balance.text) ∧
          (Scales decimals formatted balance.text ↔ decimals ≤ maxDecimals ∨ balance = 0) ∧
          (maxDecimals < decimals → formatted = balance.text) := by
  intro args chain
  obtain ⟨data, hdata⟩ := Option.isSome_iff_exists.mp
    (show ((callOver chain inOrder () {} "get_staking_position" args).1.toOption.bind
      (·.data)).isSome by decide +kernel)
  have hshown : (((callOver chain inOrder () {} "get_staking_position" args).1.toOption.bind
      (·.data)).bind (·.at? ["position", "stakedFormatted"])).bind Json.string? = some "1.5" := by
    decide +kernel
  rw [hdata] at hshown
  have hscales : Scales 6 (formatUnits 1500000 6) _ := scales_formatUnits 1500000 (by decide)
  rw [show formatUnits 1500000 6 = "1.5" by decide +kernel,
    show (1500000 : Uint256).text = "1500000" by decide +kernel] at hscales
  have houtcome := callOver_eq_ok_of_data hdata
  exact ⟨data, houtcome, hshown, hscales, balances_shown chain inOrder () {} args data houtcome⟩

/-- With 78 places a balance of 5 is shown as `5`. -/
theorem balances_undivided_at_seventyEight :
    let args := Json.object [
      ("decimals", .nat 78), ("network", .string "arbitrum"),
      ("stakingContract", .string "0x00000000000000000000000000000000000000aa"),
      ("userAddress", .string "0x00000000000000000000000000000000000000bb")]
    let chain := answering fun _ => .ok [.uint 5]
    AsksPlaces args 78 ∧
      ∃ data, (callOver chain inOrder () {} "get_staking_position" args).1 = .ok (.ok data) ∧
        ∀ place ∈ balancePlaces, (data.at? place.1).bind Json.string? = some "5" ∧
          (data.at? place.2).bind Json.string? = some "5" ∧ ¬ Scales 78 "5" "5" := by
  intro args chain
  obtain ⟨data, hdata⟩ := Option.isSome_iff_exists.mp
    (show ((callOver chain inOrder () {} "get_staking_position" args).1.toOption.bind
      (·.data)).isSome by decide +kernel)
  have hshown : ∀ place ∈ balancePlaces,
      (((callOver chain inOrder () {} "get_staking_position" args).1.toOption.bind
        (·.data)).bind (·.at? place.1)).bind Json.string? = some "5" ∧
      (((callOver chain inOrder () {} "get_staking_position" args).1.toOption.bind
        (·.data)).bind (·.at? place.2)).bind Json.string? = some "5" := by
    decide +kernel
  rw [hdata] at hshown
  have hunscaled : ¬ Scales 78 (5 : Uint256).text (5 : Uint256).text := by
    rw [scales_text_iff 5 (by decide)]
    decide
  rw [show (5 : Uint256).text = "5" by decide +kernel] at hunscaled
  exact ⟨rfl, data, callOver_eq_ok_of_data hdata, fun place hplace =>
    ⟨(hshown place hplace).1, (hshown place hplace).2, hunscaled⟩⟩

end Operation

end StakingGateway
