import StakingGateway.Decimal.Binary64
import StakingGateway.Text.Digits

/-!
Decimal text of binary floating-point numbers: the fewest digits that read back as the same
number, of those the ones nearest to it, and to the even last digit on a tie.
-/

namespace StakingGateway.Binary64

/-- `digits · 10 ^ exponent`. -/
structure Decimal where
  digits : Nat
  exponent : Int
deriving Repr, DecidableEq

/-- The reals that round to one number, as multiples of `1 / den`; `closed` says whether the ends
belong to it. -/
structure Interval where
  low : Nat
  value : Nat
  high : Nat
  den : Nat
  closed : Bool

/-- Half the distance to each neighbour; below a power of two the neighbour is twice as near. -/
def interval (x : Binary64) : Interval :=
  let unit := Ratio.scaled 1 2 (x.exponent - 2)
  let below := if x.mantissa = mantissaBound / 2 && minExponent < x.exponent then 1 else 2
  { low := (4 * x.mantissa - below) * unit.num
    value := 4 * x.mantissa * unit.num
    high := (4 * x.mantissa + 2) * unit.num
    den := unit.den
    closed := x.mantissa % 2 = 0 }

def Interval.contains (i : Interval) (d : Decimal) : Bool :=
  let r := Ratio.scaled d.digits 10 d.exponent
  let x := r.num * i.den
  if i.closed then i.low * r.den ≤ x && x ≤ i.high * r.den
  else i.low * r.den < x && x < i.high * r.den

/-- The exponent of the first digit of `value / den`. -/
def Interval.firstDigit (i : Interval) : Int :=
  let k : Int := ((Text.digits i.value).length : Int) - ((Text.digits i.den).length : Int)
  let reached :=
    if k < 0 then i.den ≤ i.value * Nat.pow 10 k.natAbs
    else i.den * Nat.pow 10 k.natAbs ≤ i.value
  if reached then k else k - 1

/-- The two neighbours of the value among the multiples of `10 ^ exponent`, with twice the
remainder of the lower one and the step, both on the same scale. -/
def Interval.neighbours (i : Interval) (exponent : Int) : Nat × Nat × Nat :=
  let num := if exponent < 0 then i.value * Nat.pow 10 exponent.natAbs else i.value
  let den := if exponent < 0 then i.den else i.den * Nat.pow 10 exponent.natAbs
  (num / den, 2 * (num % den), den)

/-- The better neighbour with `count` digits, if one of them reads back. -/
def Interval.withDigits? (i : Interval) (count : Nat) : Option Decimal :=
  let exponent := i.firstDigit + 1 - count
  let (lower, twice, step) := i.neighbours exponent
  let down : Decimal := ⟨lower, exponent⟩
  let up : Decimal := ⟨lower + 1, exponent⟩
  match i.contains down, i.contains up with
  | true, true =>
    some (if twice < step || (twice = step && lower % 2 = 0) then down else up)
  | true, false => some down
  | false, true => some up
  | false, false => none

/-- The fewest digits that read back; seventeen always do. -/
def shortest (x : Binary64) : Decimal :=
  let i := x.interval
  ((List.range 17).findSome? fun n => i.withDigits? (n + 1)).getD ⟨0, 0⟩

structure Layout where
  /-- Below this exponent of the first digit the number is written with an exponent. -/
  leastPlain : Int
  /-- Above this exponent of the first digit the number is written with an exponent. -/
  mostPlain : Int

/-- Numbers from `0.00001` to below ten to the sixteenth are written plainly, with at least one
digit behind the point. -/
def layout : Layout := ⟨-5, 15⟩

def exponentText (e : Int) : List Char :=
  'e' :: (if e < 0 then '-' else '+') :: Text.digits e.natAbs

/-- Lays out digits without zeros at the end, the first of which has exponent `first`. -/
def Layout.write (l : Layout) (digits : List Char) (first : Int) : List Char :=
  if first < l.leastPlain || l.mostPlain < first then
    let lead := digits.take 1
    let rest := digits.drop 1
    lead ++ (if rest.isEmpty then [] else '.' :: rest) ++ exponentText first
  else if first < 0 then
    '0' :: '.' :: (List.replicate (first.natAbs - 1) '0' ++ digits)
  else
    let whole := digits.take (first.natAbs + 1)
    let rest := digits.drop (first.natAbs + 1)
    whole ++ List.replicate (first.natAbs + 1 - whole.length) '0' ++
      '.' :: (if rest.isEmpty then ['0'] else rest)

def textChars (x : Binary64) : List Char :=
  let body :=
    if x.isZero then ['0', '.', '0']
    else
      let d := x.shortest
      let digits := Text.digits d.digits
      let first := d.exponent + digits.length - 1
      layout.write (Text.dropTrailingZeros digits) first
  if x.negative then '-' :: body else body

def text (x : Binary64) : String :=
  String.ofList x.textChars

end StakingGateway.Binary64
