import StakingGateway.Bytes.Percent
import StakingGateway.DomainName.Basic
import StakingGateway.Text.Digits

/-!
Hosts of URLs: names, addresses of four numbers, and addresses of eight pieces in brackets.
-/

namespace StakingGateway.Settings

inductive UrlError where
  | relative
  | emptyHost
  | badName
  | badNameCharacter
  | badAddress4
  | badAddress6
  | badPort
deriving Repr, DecidableEq

def UrlError.message : UrlError → String
  | relative => "relative URL without a base"
  | emptyHost => "empty host"
  | badName => "invalid international domain name"
  | badNameCharacter => "invalid domain character"
  | badAddress4 => "invalid IPv4 address"
  | badAddress6 => "invalid IPv6 address"
  | badPort => "invalid port number"

namespace Host

/-- A number in decimal, octal or hexadecimal digits, by its first characters. -/
def number? (part : List Char) : Option Nat :=
  let inBase (base : Nat) (isDigit : Char → Bool) (cs : List Char) : Option Nat :=
    if cs.all isDigit then
      some (cs.foldl (fun n c => n * base + (Bytes.hexValue? c).getD 0) 0)
    else none
  match part with
  | [] => none
  | '0' :: 'x' :: cs | '0' :: 'X' :: cs => inBase 16 Bytes.isHexDigit cs
  | '0' :: c :: cs => inBase 8 (fun d => '0' ≤ d && d ≤ '7') (c :: cs)
  | cs => inBase 10 Char.isDigit cs

/-- The parts between the points; an empty last part does not count. -/
def parts (name : List Char) : List (List Char) :=
  let all := Text.splitOnChar '.' name
  if 1 < all.length && all.getLast? = some [] then all.dropLast else all

/-- Does a name end in a part that reads as a number? Then it must be an address. -/
def endsInNumber (name : List Char) : Bool :=
  match (parts name).getLast? with
  | none => false
  | some last => (!last.isEmpty && last.all Char.isDigit) || (number? last).isSome

/-- Up to four numbers; all but the last are bytes, and the last fills what is left. -/
def checkAddress4 (name : List Char) : Except UrlError Unit :=
  let all := parts name
  match all.mapM number? with
  | none => .error .badAddress4
  | some numbers =>
    let last := numbers.getLastD 0
    if 4 < all.length || numbers.dropLast.any (255 < ·) ||
        Nat.pow 256 (4 - (numbers.length - 1)) ≤ last then
      .error .badAddress4
    else .ok ()

def isDottedBytes (cs : List Char) : Bool :=
  let all := Text.splitOnChar '.' cs
  all.length = 4 && all.all fun part =>
    !part.isEmpty && Text.areDigits part && Text.valueOfDigits part ≤ 255 &&
      (part.length = 1 || part.head? ≠ some '0')

/-- The pieces of an address from the current one on; `count` pieces have been read, and
`squeezed` tells whether a double colon stood among them. -/
def pieces6 : (fuel : Nat) → (count : Nat) → (squeezed : Bool) → List Char → Bool
  | 0, _, _, _ => false
  | _ + 1, count, squeezed, [] => squeezed || count = 8
  | fuel + 1, count, squeezed, c :: cs =>
    if count = 8 then false
    else if c = ':' then !squeezed && pieces6 fuel (count + 1) true cs
    else
      let digits := ((c :: cs).take 4).takeWhile Bytes.isHexDigit
      let rest := (c :: cs).drop digits.length
      match rest with
      | [] => pieces6 fuel (count + 1) squeezed []
      | ':' :: after => !after.isEmpty && pieces6 fuel (count + 1) squeezed after
      | '.' :: _ =>
        !digits.isEmpty && count ≤ 6 && isDottedBytes (c :: cs) &&
          (squeezed || count = 6)
      | _ => false

def isAddress6 : List Char → Bool
  | ':' :: ':' :: rest => pieces6 (rest.length + 1) 1 true rest
  | ':' :: _ => false
  | cs => 2 ≤ cs.length && pieces6 (cs.length + 1) 0 false cs

def checkBracketed (cs : List Char) : Except UrlError Unit :=
  if cs.getLast? = some ']' && isAddress6 cs.dropLast then .ok () else .error .badAddress6

def decodeName? (host : List Char) : Option (List Char) :=
  (String.fromUTF8? ⟨(Bytes.decodePercent (String.ofList host).toUTF8.toList).toArray⟩).map
    String.toList

def checkDomain (host : List Char) : Except UrlError Unit :=
  match host with
  | '[' :: rest => checkBracketed rest
  | _ =>
    match (decodeName? host).bind DomainName.normalForm? with
    | none => .error .badName
    | some [] => .error .emptyHost
    | some name => if endsInNumber name then checkAddress4 name else .ok ()

def isForbiddenOpaque (c : Char) : Bool :=
  ['\x00', '\t', '\n', '\r', ' ', '#', '/', ':', '<', '>', '?', '@', '[', '\\', ']', '^',
    '|'].contains c

def checkOpaque (host : List Char) : Except UrlError Unit :=
  match host with
  | '[' :: rest => checkBracketed rest
  | _ => if host.any isForbiddenOpaque then .error .badNameCharacter else .ok ()

end Host

end StakingGateway.Settings
