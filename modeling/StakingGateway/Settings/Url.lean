import StakingGateway.Settings.Host

/-!
Absolute URLs, as far as their acceptance goes: a scheme, and behind two slashes an authority of
user information, host and port.
-/

namespace StakingGateway.Settings.Url

inductive SchemeKind where
  /-- Hosts are names of the domain name system and must not be empty. -/
  | special
  | file
  | other
deriving Repr, DecidableEq

def SchemeKind.ofScheme (scheme : String) : SchemeKind :=
  if scheme = "file" then .file
  else if scheme ∈ ["http", "https", "ws", "wss", "ftp"] then .special
  else .other

def isSlash (c : Char) : Bool := c = '/' || c = '\\'

/-- Outer control characters and blanks do not count, and neither do line ends and tabs. -/
def clean (text : String) : List Char :=
  (Text.dropEndWhile (·.toNat ≤ 0x20) (text.toList.dropWhile (·.toNat ≤ 0x20))).filter
    fun c => c ≠ '\t' && c ≠ '\n' && c ≠ '\r'

def splitScheme (cs : List Char) : Option (String × List Char) :=
  let isPart (c : Char) : Bool := c.isAlphanum || c = '+' || c = '-' || c = '.'
  match cs.head?, cs.dropWhile isPart with
  | some first, ':' :: rest =>
    if first.isAlpha then
      some (String.ofList ((cs.takeWhile isPart).map Char.toLower), rest)
    else none
  | _, _ => none

def endsAuthority (kind : SchemeKind) (c : Char) : Bool :=
  c = '/' || c = '?' || c = '#' || (c = '\\' && kind ≠ .other)

/-- The user information before the last at sign of the authority, if there is one, and what
follows it. -/
def splitUser (kind : SchemeKind) (cs : List Char) : Option (List Char) × List Char :=
  let authority := cs.takeWhile (!endsAuthority kind ·)
  match authority.reverse.dropWhile (· ≠ '@') with
  | [] => (none, cs)
  | _ :: before => (some before.reverse, cs.drop (before.length + 1))

/-- Splits off the host, which ends before a colon outside of brackets. -/
def splitHost (kind : SchemeKind) (bracketed : Bool) : List Char → List Char × List Char
  | [] => ([], [])
  | c :: cs =>
    if (c = ':' && !bracketed) || endsAuthority kind c then ([], c :: cs)
    else
      let bracketed := if c = '[' then true else if c = ']' then false else bracketed
      let (host, rest) := splitHost kind bracketed cs
      (c :: host, rest)

/-- Digits of a number below `2 ^ 16` up to the path, the query or the fragment. -/
def checkPort (cs : List Char) : Except UrlError Unit :=
  let digits := cs.takeWhile Char.isDigit
  if UInt16.size ≤ Text.valueOfDigits digits then .error .badPort
  else
    match cs.drop digits.length with
    | [] => .ok ()
    | c :: _ => if isSlash c || c = '?' || c = '#' then .ok () else .error .badPort

def hasUser (user : List Char) : Bool :=
  user ≠ [] && user ≠ [':']

def checkAuthority (kind : SchemeKind) (cs : List Char) : Except UrlError Unit := do
  let (user, rest) := splitUser kind cs
  let (host, rest) := splitHost kind false rest
  if user = some [] && host.isEmpty && !rest.isEmpty && rest.head? ≠ some ':' then
    throw .emptyHost
  if host.isEmpty && kind = .special then throw .emptyHost
  if kind = .special then Host.checkDomain host else Host.checkOpaque host
  if host.isEmpty && (rest.head? = some ':' || hasUser (user.getD [])) then throw .emptyHost
  match rest with
  | ':' :: port => checkPort port
  | _ => return ()

/-- What follows the scheme of a file. A drive letter is part of the path. -/
def checkFile (cs : List Char) : Except UrlError Unit :=
  match cs with
  | a :: b :: rest =>
    if isSlash a && isSlash b then
      let host := rest.takeWhile (!endsAuthority .file ·)
      let isDrive :=
        match host with
        | [letter, mark] => letter.isAlpha && (mark = ':' || mark = '|')
        | _ => false
      if host.isEmpty || isDrive then .ok () else Host.checkDomain host
    else .ok ()
  | _ => .ok ()

def check (text : String) : Except UrlError Unit :=
  match splitScheme (clean text) with
  | none => .error .relative
  | some (scheme, rest) =>
    match SchemeKind.ofScheme scheme with
    | .file => checkFile rest
    | .special => checkAuthority .special (rest.dropWhile isSlash)
    | .other =>
      match rest with
      | '/' :: '/' :: authority => checkAuthority .other authority
      | _ => .ok ()

end StakingGateway.Settings.Url
