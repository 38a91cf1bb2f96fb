/-!
Finite binary floating-point numbers of 64 bits as exact values `± mantissa · 2 ^ exponent`.
Every operation computes the exact ratio and rounds it once, to the nearest value and to the even
mantissa on a tie.
-/

namespace StakingGateway

structure Binary64 where
  negative : Bool
  mantissa : Nat
  exponent : Int
deriving Repr, DecidableEq, Inhabited

namespace Binary64

/-- The exponent of the numbers nearest to zero. -/
def minExponent : Int := -1074

/-- The exponent of the largest finite numbers. -/
def maxExponent : Int := 971

def mantissaBound : Nat := Nat.pow 2 53

def zero (negative : Bool) : Binary64 := ⟨negative, 0, minExponent⟩

def isZero (x : Binary64) : Bool := x.mantissa == 0

def neg (x : Binary64) : Binary64 := { x with negative := !x.negative }

structure Ratio where
  num : Nat
  den : Nat

def Ratio.scaled (n : Nat) (base : Nat) (exponent : Int) : Ratio :=
  if exponent < 0 then ⟨n, base.pow exponent.natAbs⟩ else ⟨n * base.pow exponent.natAbs, 1⟩

def roundHalfEven (num den : Nat) : Nat :=
  let q := num / den
  let r := num % den
  if 2 * r < den then q
  else if den < 2 * r then q + 1
  else if q % 2 = 0 then q else q + 1

/-- The largest `k` with `2 ^ k` at most the ratio, for a ratio above zero. -/
def Ratio.log2 (r : Ratio) : Int :=
  let k : Int := (Nat.log2 r.num : Int) - (Nat.log2 r.den : Int)
  let reached :=
    if k < 0 then r.den ≤ r.num * Nat.pow 2 k.natAbs
    else r.den * Nat.pow 2 k.natAbs ≤ r.num
  if reached then k else k - 1

/-- Rounds a ratio; nothing, when the result is beyond the largest finite number. -/
def round? (negative : Bool) (r : Ratio) : Option Binary64 :=
  if r.num = 0 then some (zero negative)
  else
    let exponent := max (r.log2 - 52) minExponent
    let mantissa :=
      if exponent < 0 then roundHalfEven (r.num * Nat.pow 2 exponent.natAbs) r.den
      else roundHalfEven r.num (r.den * Nat.pow 2 exponent.natAbs)
    let (mantissa, exponent) :=
      if mantissa = mantissaBound then (mantissa / 2, exponent + 1) else (mantissa, exponent)
    if maxExponent < exponent then none else some ⟨negative, mantissa, exponent⟩

def magnitude (x : Binary64) : Ratio := Ratio.scaled x.mantissa 2 x.exponent

def ofNat? (n : Nat) : Option Binary64 := round? false ⟨n, 1⟩

def mul? (x y : Binary64) : Option Binary64 :=
  round? (x.negative != y.negative)
    ⟨x.magnitude.num * y.magnitude.num, x.magnitude.den * y.magnitude.den⟩

def div? (x y : Binary64) : Option Binary64 :=
  round? (x.negative != y.negative)
    ⟨x.magnitude.num * y.magnitude.den, x.magnitude.den * y.magnitude.num⟩

end Binary64

end StakingGateway
