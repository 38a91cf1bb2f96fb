import StakingGateway.Proofs.HexDigits
import StakingGateway.Proofs.Preparation
import StakingGateway.Proofs.SchemaAgreement

/-!
# Reading what was accepted

Validation and the getters look at a value in different ways, and agree on it: what is accepted for
a parameter can be read in the form of its kind. Amounts with too many places or too large a number
are the accepted texts that a getter for decimal numbers may refuse. One spelling is accepted that
is never read, an address behind a capital marker.
-/

namespace StakingGateway.Tool

open Amount

/-- What the getter for a kind makes of the value under a name. -/
inductive ParamKind.ReadAs (args : Args) (name : String) : ParamKind → Json → Prop
  | string {text : String} (hread : args.text name = .ok text) :
      ReadAs args name .string (.string text)
  | number {n : Json.Number} (hread : args.get? name = some (.number n)) :
      ReadAs args name .number (.number n)
  | integer {n : ℕ} (hread : args.natural name = .ok n) :
      ReadAs args name .integer (.number (.integer n))
  | boolean {truth : Bool} (hread : args.get? name = some (.bool truth)) :
      ReadAs args name .boolean (.bool truth)
  | choice {values : List String} {text : String} (hmem : text ∈ values)
      (hread : args.text name = .ok text) : ReadAs args name (.choice values) (.string text)
  | address {text : String} {digits : List Char} {a : Address}
      (htext : text.toList = '0' :: 'x' :: digits) (hspells : Bytes.Spells digits a.toBytes)
      (hread : args.address name = .ok a) : ReadAs args name .address (.string text)
  | wei {text : String} {amount : Uint256} (hdenotes : Denotes text 0 amount)
      (hread : args.wei name = .ok amount) : ReadAs args name .wei (.string text)
  | decimal {text : String} {n : DecimalText} (htext : text.toList = n.chars)
      (hread : n.places ≤ 18 → n.value * 10 ^ 18 < 2 ^ 256 →
        ∃ amount, args.units name 18 = .ok amount ∧ (amount.toNat : ℚ) = n.value * 10 ^ 18)
      (hrefused : 18 < n.places ∨ 2 ^ 256 ≤ n.value * 10 ^ 18 →
        ∃ e, args.units name 18 = .error e) : ReadAs args name .decimal (.string text)

section Getters

variable {args : Args} {name text : String}

theorem text?_of_get? (h : args.get? name = some (.string text)) : args.text? name = some text := by
  rw [Args.text?, h]
  rfl

theorem exists_decimalText (h : ParamKind.isDecimal text = true) :
    ∃ n : DecimalText, text.toList = n.chars := by
  obtain ⟨whole, fraction, hne, hwhole, htext | ⟨htext, -, hfraction⟩⟩ :=
    (Pattern.finds_decimal text).mp (isDecimal_iff.mp h)
  · exact ⟨⟨whole, none, hne, hwhole, by simp⟩, htext⟩
  · exact ⟨⟨whole, some fraction, hne, hwhole, by simpa using hfraction⟩, htext⟩

theorem units_eq_ok_iff {n : DecimalText} (h : args.text? name = some text)
    (htext : text.toList = n.chars) (amount : Uint256) :
    args.units name 18 = .ok amount ↔ n.places ≤ 18 ∧ (amount.toNat : ℚ) = n.value * 10 ^ 18 := by
  unfold Args.units
  rw [Operation.read_eq_ok_iff]
  constructor
  · rintro ⟨other, hother, hread⟩
    obtain rfl : text = other := Option.some.inj (h.symm.trans hother)
    obtain ⟨m, hm, hamount⟩ := parseUnits_eq_ok_iff.mp hread
    have hchars : m.chars = n.chars := by
      rw [← Text.trimChars_eq_iff.mpr hm.trimmed, htext]
      exact Text.trimChars_eq_iff.mpr n.trims_chars
    obtain rfl := DecimalText.eq_of_chars_eq hchars
    exact ⟨hm.places, hamount⟩
  · rintro ⟨hplaces, hamount⟩
    refine ⟨text, h, parseUnits_eq_ok_iff.mpr ⟨n, ⟨?_, hplaces, by decide, ?_⟩, hamount⟩⟩
    · rw [htext]
      exact n.trims_chars
    · rw [← hamount]
      exact_mod_cast amount.isLt

theorem readAs_decimal (hget : args.get? name = some (.string text))
    (h : ParamKind.isDecimal text = true) : ParamKind.decimal.ReadAs args name (.string text) := by
  obtain ⟨n, hchars⟩ := exists_decimalText h
  have hunits := units_eq_ok_iff (text?_of_get? hget) hchars
  refine .decimal hchars (fun hplaces hfits => ?_) fun hlarge => ?_
  · rw [DecimalText.value_mul_pow hplaces] at hfits ⊢
    obtain ⟨amount, hamount⟩ := Word.exists_toNat_eq (by exact_mod_cast hfits)
    refine ⟨amount, (hunits amount).mpr ⟨hplaces, ?_⟩, ?_⟩
    · rw [DecimalText.value_mul_pow hplaces, hamount]
    · rw [hamount]
  · cases hread : args.units name 18 with
    | error e => exact ⟨e, rfl⟩
    | ok amount =>
        obtain ⟨hplaces, hamount⟩ := (hunits amount).mp hread
        have hword : (amount.toNat : ℚ) < 2 ^ 256 := by exact_mod_cast amount.isLt
        rcases hlarge with hmore | hlarge
        · omega
        · rw [hamount] at hword
          exact absurd hword (not_lt.mpr hlarge)

theorem readAs_wei (hget : args.get? name = some (.string text))
    (h : ParamKind.wei.accepts (.string text) = true) :
    ParamKind.wei.ReadAs args name (.string text) := by
  cases hparse : parseWei text with
  | error e =>
      rw [ParamKind.accepts, hparse] at h
      cases h
  | ok amount =>
      refine .wei (denotes_of_parseWei hparse) ?_
      exact Operation.read_eq_ok_iff.mpr ⟨text, text?_of_get? hget, hparse⟩

theorem readAs_address (hget : args.get? name = some (.string text))
    (h : Address.isText text = true)
    (hmarker : ¬ ParamKind.address.CapitalMarker (.string text)) :
    ParamKind.address.ReadAs args name (.string text) := by
  rcases isText_iff.mp h with hfinds | ⟨digits, htext, hlength, hdigits⟩
  · obtain ⟨digits, htext, hlength, hdigits⟩ := (Pattern.finds_address text).mp hfinds
    obtain ⟨a, hread, hspells⟩ := Address.exists_ofText? htext hlength hdigits
    refine .address htext hspells ?_
    exact Operation.address_eq_ok_iff.mpr ⟨text, text?_of_get? hget, hread⟩
  · exact absurd (.address htext hlength hdigits) hmarker

/-- What a kind accepts is read as such, unless it is an address behind a capital marker. -/
theorem readAs_of_accepts {kind : ParamKind} {value : Json} (hget : args.get? name = some value)
    (h : kind.accepts value = true) (hmarker : ¬ kind.CapitalMarker value) :
    kind.ReadAs args name value := by
  cases kind with
  | string =>
      cases value with
      | string text => exact .string (Operation.text_eq_ok_iff.mpr (text?_of_get? hget))
      | _ => cases h
  | number =>
      cases value with
      | number n => exact .number hget
      | _ => cases h
  | integer =>
      obtain ⟨n, hn, rfl⟩ := accepts_integer_iff.mp h
      refine .integer (Operation.natural_eq_ok_iff.mpr ?_)
      have hrange : (0 : ℤ) ≤ n ∧ (n : ℤ) < UInt64.size :=
        ⟨Int.natCast_nonneg n, Int.ofNat_lt.mpr hn⟩
      rw [Args.natural?, hget, Option.bind_some, Json.natural?, if_pos hrange, Int.toNat_natCast]
  | boolean =>
      cases value with
      | bool truth => exact .boolean hget
      | _ => cases h
  | choice values =>
      cases value with
      | string text =>
          refine .choice (List.contains_iff_mem.mp h) ?_
          exact Operation.text_eq_ok_iff.mpr (text?_of_get? hget)
      | _ => cases h
  | address =>
      cases value with
      | string text => exact readAs_address hget h hmarker
      | _ => cases h
  | wei =>
      cases value with
      | string text => exact readAs_wei hget h
      | _ => cases h
  | decimal =>
      cases value with
      | string text => exact readAs_decimal hget h
      | _ => cases h

theorem not_capitalMarker {digits : List Char} (h : text.toList = '0' :: 'x' :: digits) :
    ¬ ParamKind.address.CapitalMarker (.string text) := by
  rintro ⟨hcapital, -, -⟩
  rw [h] at hcapital
  simp at hcapital

theorem unread_of_capitalMarker {kind : ParamKind} {value : Json}
    (hget : args.get? name = some value) (h : kind.CapitalMarker value) :
    args.address name = .error ⟨name, "not a valid address"⟩ := by
  cases h with
  | @address text digits htext _ hdigits =>
      have hread := text?_of_get? hget
      have hnone := Address.ofText?_of_capital htext hdigits
      simp [Args.address, Args.text, hread, hnone, bind, Except.bind, throw, throwThe,
        MonadExceptOf.throw]

end Getters

/-- Every field of accepted arguments is declared, and is read as its kind says; an address behind
a capital marker is accepted and cannot be read. -/
theorem accepted_fields_read {params : List Param} {args : Json} {accepted : Args}
    (hnames : (params.map (·.name)).Nodup) (hdefaults : ∀ p ∈ params, p.default = none)
    (h : validate params args = .ok accepted) {name : String} {value : Json}
    (hfield : (name, value) ∈ accepted.fields) :
    ∃ p ∈ params, p.name = name ∧
      (¬ p.kind.CapitalMarker value → p.kind.ReadAs accepted name value) ∧
      (p.kind.CapitalMarker value →
        accepted.address name = .error ⟨name, "not a valid address"⟩) := by
  obtain ⟨p, hp, rfl, hholds⟩ := (mem_fields_of_validate h hnames name value).mp hfield
  obtain ⟨hkept, haccepts⟩ := kept_of_validate h hnames hp
  rw [hdefaults p hp, Option.or_none] at hkept
  have hgiven : givenValue args p.name = some value := by
    rcases hholds with hgiven | ⟨-, hdefault⟩
    · exact hgiven
    · rw [hdefaults p hp] at hdefault
      cases hdefault
  rw [hgiven] at hkept
  exact ⟨p, hp, rfl, readAs_of_accepts hkept (haccepts value hgiven), unread_of_capitalMarker hkept⟩

/-- An amount between blanks and an address in letters of both cases. -/
theorem accepted_fields_read_mixedCase :
    let params := [Param.mandatory "amount" .wei "Amount",
      Param.mandatory "userAddress" .address "User"]
    let user : Json := "0xAbCdEf0123456789aBcDeF0123456789abCDef01"
    let accepted : Args := ⟨Json.sortFields [("amount", " 7 "), ("userAddress", user)]⟩
    (params.map (·.name)).Nodup ∧ (∀ p ∈ params, p.default = none) ∧
      validate params (.object [("userAddress", user), ("amount", " 7 ")]) = .ok accepted ∧
      ("userAddress", user) ∈ accepted.fields ∧ ¬ ParamKind.address.CapitalMarker user ∧
      ∃ p ∈ params, p.name = "userAddress" ∧
        (¬ p.kind.CapitalMarker user → p.kind.ReadAs accepted "userAddress" user) ∧
        (p.kind.CapitalMarker user →
          accepted.address "userAddress" = .error ⟨"userAddress", "not a valid address"⟩) := by
  intro params user accepted
  have hnames : (params.map (·.name)).Nodup := by decide
  have hdefaults : ∀ p ∈ params, p.default = none := by simp [params, Param.mandatory]
  have hvalid : validate params (.object [("userAddress", user), ("amount", " 7 ")]) =
      .ok accepted := rfl
  have hfield : ("userAddress", user) ∈ accepted.fields := by
    apply Json.mem_of_lookup_eq_some
    rw [Json.lookup_sortFields]
    rfl
  have hsmall : "0xAbCdEf0123456789aBcDeF0123456789abCDef01".toList =
      '0' :: 'x' :: "AbCdEf0123456789aBcDeF0123456789abCDef01".toList := by
    decide +kernel
  exact ⟨hnames, hdefaults, hvalid, hfield, not_capitalMarker hsmall,
    accepted_fields_read hnames hdefaults hvalid hfield⟩

/-- The marker of this address is accepted and cannot be read. -/
theorem capital_marker_unread :
    let marked : Json := "0X1234567890123456789012345678901234567890"
    ∃ accepted, validate [.mandatory "userAddress" .address "User"]
        (.object [("userAddress", marked)]) = .ok accepted ∧
      ("userAddress", marked) ∈ accepted.fields ∧
      ∀ a, accepted.address "userAddress" ≠ .ok a := by
  intro marked
  refine ⟨⟨[("userAddress", marked)]⟩, rfl, List.mem_singleton.mpr rfl, ?_⟩
  have hcapital : "0X1234567890123456789012345678901234567890".toList =
      '0' :: 'X' :: "1234567890123456789012345678901234567890".toList := by
    decide +kernel
  have hmarker : ParamKind.address.CapitalMarker marked :=
    .address hcapital (by decide +kernel) (by decide +kernel)
  intro a
  rw [unread_of_capitalMarker rfl hmarker]
  simp

end StakingGateway.Tool
