import StakingGateway.DomainName.Mapping
import StakingGateway.DomainName.Punycode
import StakingGateway.Text.Composed
import StakingGateway.Text.Direction
import StakingGateway.Text.Joining

/-!
Labels of domain names, the parts between the full stops, and when they are well formed.
-/

namespace StakingGateway.DomainName

def isAscii (cs : List Char) : Bool :=
  cs.all (·.toNat < 0x80)

/-- The characters of a label that was encoded: at least one of them is beyond ASCII, each stands
for itself, and they are composed. -/
def decodeLabel? (encoded : List Char) : Option (List Char) :=
  if encoded.isEmpty || encoded.getLast? = some '-' || 2000 < encoded.length ||
      !isAscii encoded then none
  else (Punycode.decode? encoded).filter fun cs => cs.all isLasting && Text.isComposed cs

/-- The characters of a label; one that is encoded tells so by its first four. -/
def readLabel? : List Char → Option (List Char)
  | 'x' :: 'n' :: '-' :: '-' :: encoded => decodeLabel? encoded
  | label => if 1000 < label.length && !isAscii label then none else some label

/-- A joiner stands after a virama; one that parts letters may also stand between letters that
would join. The characters before it are given from the last one on. -/
def joinerFits (before : List Char) (c : Char) (rest : List Char) : Bool :=
  before.head?.any (Text.combiningClass · = Text.viramaClass) ||
    (c = nonJoiner && Text.firstLetterJoins Text.joinsNextLetter before &&
      Text.firstLetterJoins Text.joinsPreviousLetter rest)

def joinersFit (before : List Char) : (rest : List Char) → Bool
  | [] => true
  | c :: rest => (!isJoiner c || joinerFits before c rest) && joinersFit (c :: before) rest

/-- A label begins with no mark, and its joiners have their place. -/
def isWellFormed (label : List Char) : Bool :=
  !label.head?.any Text.isMark && joinersFit [] label

def fitsDirection (start : Text.Direction) (c : Char) : Bool :=
  match Text.direction c with
  | .europeanNumber | .neutral | .nonspacing => true
  | .arabicNumber => start = .rightToLeft
  | inside => inside = start

def endsDirection (start : Text.Direction) (c : Char) : Bool :=
  match Text.direction c with
  | .neutral | .nonspacing => false
  | _ => fitsDirection start c

/-- A label that cannot be read in two orders: it begins with a letter, keeps to its direction,
ends in a letter or digit before any marks, and does not mix both kinds of digits after letters
from right to left. -/
def keepsDirection : List Char → Bool
  | [] => true
  | first :: rest =>
    let start := Text.direction first
    let fromEnd := rest.reverse.dropWhile (Text.direction · = .nonspacing)
    (start = .leftToRight || start = .rightToLeft) &&
      fromEnd.all (fitsDirection start) && fromEnd.head?.all (endsDirection start) &&
      (start = .leftToRight ||
        !(fromEnd.any (Text.direction · = .europeanNumber) &&
          fromEnd.any (Text.direction · = .arabicNumber)))

end StakingGateway.DomainName
