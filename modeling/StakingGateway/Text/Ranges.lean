/-!
Sets of characters given as tables of code point ranges in rising order.
-/

namespace StakingGateway.Text

/-- A closed range of code points. -/
structure CodeRange where
  first : Nat
  last : Nat
deriving Repr, DecidableEq

def CodeRange.contains (r : CodeRange) (n : Nat) : Bool :=
  r.first ≤ n && n ≤ r.last

/-- Pairs up a flat list of bounds. -/
def CodeRange.ofBounds : List Nat → List CodeRange
  | first :: last :: rest => ⟨first, last⟩ :: ofBounds rest
  | _ => []

def memRanges (ranges : List CodeRange) (c : Char) : Bool :=
  ranges.any (·.contains c.toNat)

end StakingGateway.Text
