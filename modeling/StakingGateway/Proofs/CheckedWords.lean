import Mathlib.Algebra.Group.Nat.Defs
import StakingGateway.Word

/-!
# Checked and saturating words

A checked operation gives exactly the words that are the result, and a saturating one the nearest
word. Saturation is never lost: behind a saturated number every product saturates and every sum
overflows.
-/

namespace StakingGateway.Word

variable {bits : Nat}

theorem exists_toNat_eq {n : Nat} (h : n < 2 ^ bits) : ∃ w : Word bits, w.toNat = n :=
  ⟨BitVec.ofNatLT n h, BitVec.toNat_ofNatLT n h⟩

variable {x y w : Word bits}

theorem checkedAdd_eq_some : checkedAdd x y = some w ↔ w.toNat = x.toNat + y.toNat :=
  ofNat?_eq_some

theorem checkedMul_eq_some : checkedMul x y = some w ↔ w.toNat = x.toNat * y.toNat :=
  ofNat?_eq_some

theorem pow10?_eq_some {n : Nat} : (pow10? n : Option (Word bits)) = some w ↔ w.toNat = 10 ^ n := by
  unfold pow10?
  split
  next => exact ofNat?_eq_some
  next h =>
      simp only [reduceCtorEq, false_iff]
      intro hw
      have hle : 2 ^ bits ≤ 10 ^ n :=
        calc 2 ^ bits ≤ 10 ^ bits := Nat.pow_le_pow_left (by decide) bits
          _ ≤ 10 ^ n := Nat.pow_le_pow_right (by decide) (Nat.not_lt.mp h)
      exact absurd w.isLt (Nat.not_lt.mpr (hw ▸ hle))

theorem toNat_clamp (n : Nat) : (clamp n : Word bits).toNat = min n (2 ^ bits - 1) := by
  unfold clamp
  cases hw : (ofNat? n : Option (Word bits)) with
  | some w =>
      have hlt := w.isLt
      rw [ofNat?_eq_some.mp hw] at hlt
      rw [Option.getD_some, ofNat?_eq_some.mp hw]
      exact (Nat.min_eq_left (Nat.le_sub_one_of_lt hlt)).symm
  | none =>
      have hle : 2 ^ bits - 1 ≤ n := Nat.le_trans (Nat.sub_le _ 1) (ofNat?_eq_none.mp hw)
      rw [Option.getD_none, BitVec.toNat_allOnes]
      exact (Nat.min_eq_right hle).symm

theorem toNat_saturatingMul (x y : Word bits) :
    (saturatingMul x y).toNat = min (x.toNat * y.toNat) (2 ^ bits - 1) :=
  toNat_clamp _

/-- A saturated factor does not hide that the whole product is too large. -/
theorem toNat_saturatingMul_of_clamped {n : Nat} (hx : x.toNat = min n (2 ^ bits - 1)) :
    (saturatingMul x y).toNat = min (n * y.toNat) (2 ^ bits - 1) := by
  rw [toNat_saturatingMul, hx]
  rcases Nat.le_total n (2 ^ bits - 1) with hn | hn
  · rw [Nat.min_eq_left hn]
  · rw [Nat.min_eq_right hn]
    rcases Nat.eq_zero_or_pos y.toNat with hy | hy
    · rw [hy, Nat.mul_zero, Nat.mul_zero]
    · have hlimit : 2 ^ bits - 1 ≤ (2 ^ bits - 1) * y.toNat := Nat.le_mul_of_pos_right _ hy
      have hproduct := Nat.le_trans hlimit (Nat.mul_le_mul_right y.toNat hn)
      rw [Nat.min_eq_right hlimit, Nat.min_eq_right hproduct]

/-- Whatever is added to a saturated number, the sum overflows. -/
theorem checkedAdd_of_clamped {n : Nat} (hx : x.toNat = min n (2 ^ bits - 1)) (hy : 0 < y.toNat) :
    checkedAdd x y = ofNat? (n + y.toNat) := by
  rw [checkedAdd, hx]
  rcases Nat.le_total n (2 ^ bits - 1) with hn | hn
  · rw [Nat.min_eq_left hn]
  · have hlimit : 2 ^ bits ≤ 2 ^ bits - 1 + y.toNat := by omega
    rw [Nat.min_eq_right hn, ofNat?_eq_none.mpr hlimit,
      ofNat?_eq_none.mpr (Nat.le_trans hlimit (Nat.add_le_add_right hn _))]

end StakingGateway.Word
