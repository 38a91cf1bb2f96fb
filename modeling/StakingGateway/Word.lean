/-!
Unsigned words of 256 and 512 bits with the arithmetic that amounts need: checked operations
that answer nothing when the exact result does not fit, and saturating ones.
-/

namespace StakingGateway

abbrev Word (bits : Nat) := BitVec bits

abbrev Uint256 := Word 256

abbrev Uint512 := Word 512

namespace Word

variable {bits : Nat}

def ofNat? (n : Nat) : Option (Word bits) :=
  if h : n < Nat.pow 2 bits then some (BitVec.ofNatLT n h) else none

def checkedAdd (x y : Word bits) : Option (Word bits) :=
  ofNat? (x.toNat + y.toNat)

def checkedMul (x y : Word bits) : Option (Word bits) :=
  ofNat? (x.toNat * y.toNat)

/-- Ten to the power `n`, if it fits; with as many zeros as the word has bits it never does. -/
def pow10? (n : Nat) : Option (Word bits) :=
  if n < bits then ofNat? (Nat.pow 10 n) else none

/-- The word nearest to a number. -/
def clamp (n : Nat) : Word bits :=
  (ofNat? n).getD (BitVec.allOnes bits)

def saturatingMul (x y : Word bits) : Word bits :=
  clamp (x.toNat * y.toNat)

def saturatingSub (x y : Word bits) : Word bits :=
  BitVec.ofNat bits (x.toNat - y.toNat)

theorem ofNat?_eq_some {n : Nat} {w : Word bits} : ofNat? n = some w ↔ w.toNat = n := by
  unfold ofNat?
  split
  · next h =>
    constructor
    · rintro ⟨⟩
      exact BitVec.toNat_ofNatLT n h
    · intro hw
      subst hw
      simp
  · next h =>
    simp only [reduceCtorEq, false_iff]
    intro hw
    exact h (hw ▸ w.isLt)

theorem ofNat?_eq_none {n : Nat} : (ofNat? n : Option (Word bits)) = none ↔ Nat.pow 2 bits ≤ n := by
  unfold ofNat?
  split
  · next h => exact ⟨nofun, fun hle => absurd h (Nat.not_lt.mpr hle)⟩
  · next h => exact ⟨fun _ => Nat.not_lt.mp h, fun _ => rfl⟩

variable {m n : Nat}

/-- The whole product, which needs as many bits as both factors together. -/
def wideMul (x : Word m) (y : Word n) : Word (m + n) :=
  BitVec.ofNat (m + n) (x.toNat * y.toNat)

def widen (x : Word m) (n : Nat) : Word (m + n) :=
  BitVec.ofNat (m + n) x.toNat

theorem toNat_wideMul (x : Word m) (y : Word n) : (x.wideMul y).toNat = x.toNat * y.toNat := by
  have h : x.toNat * y.toNat < 2 ^ (m + n) := by
    rw [Nat.pow_add]
    exact Nat.mul_lt_mul'' x.isLt y.isLt
  rw [wideMul, BitVec.toNat_ofNat, Nat.mod_eq_of_lt h]

theorem toNat_widen (x : Word m) (n : Nat) : (x.widen n).toNat = x.toNat := by
  have h : x.toNat < 2 ^ (m + n) :=
    Nat.lt_of_lt_of_le x.isLt (Nat.pow_le_pow_right Nat.zero_lt_two (Nat.le_add_right m n))
  rw [widen, BitVec.toNat_ofNat, Nat.mod_eq_of_lt h]

def text (x : Word bits) : String :=
  String.ofList (Nat.toDigits 10 x.toNat)

end Word

end StakingGateway
