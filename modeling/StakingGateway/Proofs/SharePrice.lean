import Mathlib.Tactic.GCongr
import StakingGateway.Proofs.CheckedAmounts

/-!
# Exact share prices

The price of a share is the pool divided by the shares, in units of `10 ^ -18` and rounded down. The
product behind it has a place in the wide word, so only the quotient can be too large, and then the
largest word stands in for it. Rounding down and the limit both respect order, so the price never
falls when the pool grows and never rises when the shares do.
-/

namespace StakingGateway.Amount

def exactPrice (pooled shares : Nat) : ℚ := pooled * 10 ^ 18 / shares

/-- The quotient behind a price as a word, if it is one. -/
def narrowPrice? (pooled shares : Uint256) : Option Uint256 :=
  Word.ofNat? ((pooled.wideMul (BitVec.ofNat 256 (Nat.pow 10 18))).toNat / shares.toNat)

/-- A price is the exact one rounded down, with the largest word as its limit, and the limit is
taken exactly where the exact price does not fit. -/
structure IsClampedPrice (pooled shares : Uint256) : Prop where
  floor : (sharePrice pooled shares).toNat =
    min ⌊exactPrice pooled.toNat shares.toNat⌋₊ (2 ^ 256 - 1)
  narrowed : sharePrice pooled shares = (narrowPrice? pooled shares).getD (BitVec.allOnes 256)
  clamped_iff : narrowPrice? pooled shares = none ↔
    2 ^ 256 ≤ exactPrice pooled.toNat shares.toNat

variable {pooled shares : Uint256}

theorem sharePrice_of_no_shares (pooled : Uint256) : sharePrice pooled 0 = 0 :=
  if_pos rfl

theorem sharePrice_eq_getD (hshares : shares.toNat ≠ 0) :
    sharePrice pooled shares = (narrowPrice? pooled shares).getD (BitVec.allOnes 256) := by
  rw [sharePrice, if_neg hshares]
  rfl

/-- Nothing is lost before the price is narrowed. -/
theorem narrowPrice?_eq (pooled shares : Uint256) :
    narrowPrice? pooled shares = Word.ofNat? ⌊exactPrice pooled.toNat shares.toNat⌋₊ := by
  have hunit : (BitVec.ofNat 256 (Nat.pow 10 18)).toNat = 10 ^ 18 := by decide +kernel
  have hfloor : ⌊exactPrice pooled.toNat shares.toNat⌋₊ =
      pooled.toNat * 10 ^ 18 / shares.toNat := by
    rw [exactPrice, ← Nat.floor_div_eq_div (K := ℚ)]
    push_cast
    rfl
  rw [narrowPrice?, Word.toNat_wideMul, hunit, hfloor]

theorem exactPrice_nonneg (pooled shares : Nat) : 0 ≤ exactPrice pooled shares := by
  unfold exactPrice
  positivity

theorem narrowPrice?_eq_none (pooled shares : Uint256) :
    narrowPrice? pooled shares = none ↔ 2 ^ 256 ≤ exactPrice pooled.toNat shares.toNat := by
  rw [narrowPrice?_eq, Word.ofNat?_eq_none, Nat.le_floor_iff (exactPrice_nonneg _ _), Nat.pow_eq,
    Nat.cast_pow, Nat.cast_ofNat]

theorem toNat_sharePrice (hshares : shares.toNat ≠ 0) :
    (sharePrice pooled shares).toNat =
      min ⌊exactPrice pooled.toNat shares.toNat⌋₊ (2 ^ 256 - 1) := by
  rw [sharePrice_eq_getD hshares, narrowPrice?_eq]
  exact Word.toNat_clamp _

theorem isClampedPrice (hshares : shares.toNat ≠ 0) : IsClampedPrice pooled shares where
  floor := toNat_sharePrice hshares
  narrowed := sharePrice_eq_getD hshares
  clamped_iff := narrowPrice?_eq_none pooled shares

theorem exactPrice_mono {pooled more less shares : Nat} (hpooled : pooled ≤ more)
    (hpos : 0 < less) (hshares : less ≤ shares) :
    exactPrice pooled shares ≤ exactPrice more less := by
  have hless : (0 : ℚ) < less := by exact_mod_cast hpos
  have hle : (less : ℚ) ≤ shares := by exact_mod_cast hshares
  have hmore : (pooled : ℚ) ≤ more := by exact_mod_cast hpooled
  unfold exactPrice
  gcongr

/-- A larger pool and fewer shares never lower the price, also across the limit. -/
theorem sharePrice_mono {more less : Uint256} (hpooled : pooled.toNat ≤ more.toNat)
    (hpos : 0 < less.toNat) (hshares : less.toNat ≤ shares.toNat) :
    (sharePrice pooled shares).toNat ≤ (sharePrice more less).toNat := by
  have hfewer : less.toNat ≠ 0 := Nat.ne_of_gt hpos
  have hmost : shares.toNat ≠ 0 := Nat.ne_of_gt (Nat.lt_of_lt_of_le hpos hshares)
  have hfloor : ⌊exactPrice pooled.toNat shares.toNat⌋₊ ≤ ⌊exactPrice more.toNat less.toNat⌋₊ :=
    Nat.floor_mono (exactPrice_mono hpooled hpos hshares)
  calc (sharePrice pooled shares).toNat
      = min ⌊exactPrice pooled.toNat shares.toNat⌋₊ (2 ^ 256 - 1) := toNat_sharePrice hmost
    _ ≤ min ⌊exactPrice more.toNat less.toNat⌋₊ (2 ^ 256 - 1) := min_le_min_right _ hfloor
    _ = (sharePrice more less).toNat := (toNat_sharePrice hfewer).symm

/-- A share has a price for all words, and no step to it fails: zero without shares, and otherwise
the exact price rounded down or the largest word where that does not fit. A larger pool never lowers
it, and more shares never raise it. -/
theorem sharePrice_exact :
    (∀ pooled shares : Uint256, priceSteps pooled shares = some (sharePrice pooled shares)) ∧
    (∀ pooled : Uint256, sharePrice pooled 0 = 0) ∧
    (∀ pooled shares : Uint256, 0 < shares.toNat → IsClampedPrice pooled shares) ∧
    ∀ pooled more less shares : Uint256, pooled.toNat ≤ more.toNat → 0 < less.toNat →
      less.toNat ≤ shares.toNat →
        (sharePrice pooled shares).toNat ≤ (sharePrice more less).toNat := by
  refine ⟨priceSteps_eq, sharePrice_of_no_shares, ?_, ?_⟩
  · intro pooled shares hshares
    exact isClampedPrice (Nat.ne_of_gt hshares)
  · intro pooled more less shares hpooled hpos hshares
    exact sharePrice_mono hpooled hpos hshares

/-- A tenth more ether than shares, and the largest pool: the exact price of a single share of it is
no word, and with `10 ^ 18` shares the exact price is the largest word. -/
theorem sharePrice_exact_tenth :
    let tenth : Uint256 := BitVec.ofNat 256 (110 * 10 ^ 18)
    let hundred : Uint256 := BitVec.ofNat 256 (100 * 10 ^ 18)
    let unit : Uint256 := BitVec.ofNat 256 (10 ^ 18)
    let largest : Uint256 := BitVec.allOnes 256
    sharePrice tenth 0 = 0 ∧
      sharePrice tenth hundred = BitVec.ofNat 256 1100000000000000000 ∧
      priceSteps tenth hundred = some (sharePrice tenth hundred) ∧
      (sharePrice largest 1 = largest ∧ 2 ^ 256 ≤ exactPrice largest.toNat 1) ∧
      (sharePrice largest unit = largest ∧ narrowPrice? largest unit = some largest) ∧
      IsClampedPrice tenth hundred ∧ IsClampedPrice largest 1 ∧ IsClampedPrice largest unit ∧
      (sharePrice tenth hundred).toNat ≤ (sharePrice largest unit).toNat := by
  intro tenth hundred unit largest
  obtain ⟨hsteps, hzero, hclamped, hmono⟩ := sharePrice_exact
  have hone : IsClampedPrice largest 1 := hclamped largest 1 (by decide +kernel)
  have hlimit : 2 ^ 256 ≤ exactPrice largest.toNat 1 := hone.clamped_iff.mp (by decide +kernel)
  refine ⟨hzero tenth, by decide +kernel, hsteps tenth hundred, ⟨by decide +kernel, hlimit⟩,
    ⟨by decide +kernel, by decide +kernel⟩, ?_, hone, ?_, ?_⟩
  · exact hclamped tenth hundred (by decide +kernel)
  · exact hclamped largest unit (by decide +kernel)
  · exact hmono tenth largest unit hundred (by decide +kernel) (by decide +kernel)
      (by decide +kernel)

end StakingGateway.Amount
