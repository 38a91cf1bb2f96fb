/-!
The curve `y² = x³ + 7` over the field of `p` elements and multiples of its base point, in
coordinates `(x / z², y / z³)` that need no division before the end.
-/

namespace StakingGateway.Crypto.Secp256k1

/-- The number of elements of the field. -/
def p : Nat := Nat.pow 2 256 - Nat.pow 2 32 - 977

/-- The number of multiples of the base point. -/
def order : Nat := 0xFFFFFFFFFFFFFFFFFFFFFFFFFFFFFFFEBAAEDCE6AF48A03BBFD25E8CD0364141

def add (a b : Nat) : Nat := (a + b) % p

def sub (a b : Nat) : Nat := (a + (p - b % p)) % p

def mul (a b : Nat) : Nat := a * b % p

/-- A power by squaring, over the lowest `bits` bits of the exponent. -/
def pow (base exponent : Nat) : (bits : Nat) → Nat
  | 0 => 1
  | bits + 1 =>
    let half := pow base (exponent / 2) bits
    let square := mul half half
    if exponent % 2 = 1 then mul square base else square

def inverse (a : Nat) : Nat := pow a (p - 2) 256

/-- A point; `z = 0` is the neutral one. -/
structure Point where
  x : Nat
  y : Nat
  z : Nat
deriving Repr

def neutral : Point := ⟨1, 1, 0⟩

def base : Point :=
  { x := 0x79BE667EF9DCBBAC55A06295CE870B07029BFCDB2DCE28D959F2815B16F81798
    y := 0x483ADA7726A3C4655DA4FBFC0E1108A8FD17B448A68554199C47D08FFB10D4B8
    z := 1 }

def Point.double (a : Point) : Point :=
  if a.z = 0 then a
  else
    let yy := mul a.y a.y
    let s := mul 4 (mul a.x yy)
    let m := mul 3 (mul a.x a.x)
    let x := sub (mul m m) (add s s)
    { x := x
      y := sub (mul m (sub s x)) (mul 8 (mul yy yy))
      z := mul 2 (mul a.y a.z) }

def Point.plus (a b : Point) : Point :=
  if a.z = 0 then b
  else if b.z = 0 then a
  else
    let za := mul a.z a.z
    let zb := mul b.z b.z
    let u := mul a.x zb
    let v := mul b.x za
    let s := mul a.y (mul b.z zb)
    let t := mul b.y (mul a.z za)
    if u = v then
      if s = t then a.double else neutral
    else
      let h := sub v u
      let r := sub t s
      let hh := mul h h
      let hhh := mul h hh
      let w := mul u hh
      let x := sub (sub (mul r r) hhh) (add w w)
      { x := x
        y := sub (mul r (sub w x)) (mul s hhh)
        z := mul h (mul a.z b.z) }

/-- The multiple of a point by the lowest `bits` bits of a number. -/
def Point.times (a : Point) (n : Nat) : (bits : Nat) → Point
  | 0 => neutral
  | bits + 1 =>
    let twice := (a.times (n / 2) bits).double
    if n % 2 = 1 then twice.plus a else twice

def Point.affine (a : Point) : Nat × Nat :=
  let i := inverse a.z
  let ii := mul i i
  (mul a.x ii, mul a.y (mul i ii))

def publicPoint (secret : Nat) : Nat × Nat :=
  (base.times secret 256).affine

end StakingGateway.Crypto.Secp256k1
