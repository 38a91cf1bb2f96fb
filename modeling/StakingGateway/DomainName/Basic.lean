import StakingGateway.DomainName.Label

/-!
Names of hosts in the domain name system, in the characters of any script.
-/

namespace StakingGateway.DomainName

/-- The characters that mean something else where a host is written. -/
def isForbidden (c : Char) : Bool :=
  c.toNat ≤ 0x20 || c = '\x7f' ||
    ['#', '%', '/', ':', '<', '>', '?', '@', '[', '\\', ']', '^', '|'].contains c

/-- Labels of both directions do not stand side by side unless each keeps to its own. -/
def keepDirections (labels : List (List Char)) : Bool :=
  !labels.any (·.any Text.turnsLeft) || labels.all keepsDirection

/-- The normal form of a name: two texts with one normal form name the same host. `none` for a
text that is no name. -/
def normalForm? (name : List Char) : Option (List Char) := do
  let mapped ← name.mapM mapChar?
  let normal := Text.composed mapped.flatten
  let labels ← (Text.splitOnChar '.' normal).mapM readLabel?
  if normal.any isForbidden || !labels.all isWellFormed || !keepDirections labels then none
  else some normal

end StakingGateway.DomainName
