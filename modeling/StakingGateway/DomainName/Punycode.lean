/-!
Labels in ASCII letters and digits for labels in other characters. A label is built from its plain
characters by inserting the others, in the order of their codes. Each number of the encoding
counts the places that are passed over before the next insertion, where after the last place of
one code comes the first place of the following code. Numbers are written with the lowest digit
first; a digit below its threshold ends the number, and the thresholds adapt to the size of the
numbers before.
-/

namespace StakingGateway.DomainName.Punycode

/-- Letters count from zero, and the decimal digits follow them. -/
def digit? (c : Char) : Option Nat :=
  if 'a' ≤ c && c ≤ 'z' then some (c.toNat - 'a'.toNat)
  else if '0' ≤ c && c ≤ '9' then some (c.toNat - '0'.toNat + 26)
  else none

/-- The least digit that does not end a number, at the `place` reached in steps of 36. -/
def threshold (bias place : Nat) : Nat :=
  if place ≤ bias then 1 else if bias + 26 ≤ place then 26 else place - bias

/-- Scales a mean distance down to a bias; `base` grows with each division. -/
def biasFrom (base mean : Nat) : Nat :=
  if 455 < mean then biasFrom (base + 36) (mean / 35) else base + 36 * mean / (mean + 38)
termination_by mean
decreasing_by exact Nat.div_lt_self (by omega) (by omega)

/-- The bias after a number was read, when the text has `length` characters; the first number is
mostly far larger than the others. -/
def adaptedBias (number length : Nat) (isFirst : Bool) : Nat :=
  let damped := if isFirst then number / 700 else number / 2
  biasFrom 0 (damped + damped / length)

/-- A text under construction. The characters up to `code` are in, those of `code` itself up to
`position`; of the next number the digits below `place` are read, and led to `reached`. -/
structure Draft where
  text : List Char
  code : Nat
  position : Nat
  bias : Nat
  reached : Nat
  weight : Nat
  place : Nat
deriving Repr, DecidableEq

def Draft.ofPlain (text : List Char) : Draft where
  text
  code := 0x80
  position := 0
  bias := 72
  reached := 0
  weight := 1
  place := 36

def Draft.isComplete (draft : Draft) : Bool :=
  draft.place = 36

def Draft.insert (draft : Draft) (reached : Nat) : Option Draft :=
  let places := draft.text.length + 1
  let code := draft.code + reached / places
  let position := reached % places
  if code.isValidChar then
    some {
      text := draft.text.insertIdx position (Char.ofNat code)
      code
      position := position + 1
      bias := adaptedBias (reached - draft.position) places (draft.position = 0)
      reached := position + 1
      weight := 1
      place := 36 }
  else none

/-- Weights and places that need more than 32 bits are refused. -/
def Draft.read (draft : Draft) (c : Char) : Option Draft := do
  let digit ← digit? c
  let least := threshold draft.bias draft.place
  let reached := draft.reached + digit * draft.weight
  let weight := draft.weight * (36 - least)
  if UInt32.size ≤ reached then none
  else if digit < least then draft.insert reached
  else if UInt32.size ≤ weight then none
  else some { draft with reached, weight, place := draft.place + 36 }

/-- The plain characters before the last hyphen, and the digits after it. A hyphen in front marks
off nothing. -/
def split (cs : List Char) : List Char × List Char :=
  let digits := (cs.reverse.takeWhile (· ≠ '-')).reverse
  let plain := cs.take (cs.length - digits.length - 1)
  if plain.isEmpty then ([], cs) else (plain, digits)

def decode? (cs : List Char) : Option (List Char) := do
  let (plain, digits) := split cs
  let draft ← digits.foldlM Draft.read (Draft.ofPlain plain)
  if draft.isComplete then some draft.text else none

end StakingGateway.DomainName.Punycode
