import StakingGateway.Text.Blank

/-!
Media types of request bodies: a type, a subtype with an optional suffix behind the last plus
sign, and parameters. Only the ASCII characters of the grammar are allowed.
-/

namespace StakingGateway.Service

structure MediaType where
  type : String
  subtype : String
  suffix : Option String
deriving Repr, DecidableEq

namespace MediaType

def isToken (c : Char) : Bool :=
  c.isAlphanum || ['!', '#', '$', '%', '&', '\x27', '*', '+', '-', '.', '^', '_', '\x60', '|',
    '~'].contains c

def isQuotable (c : Char) : Bool :=
  0x20 ≤ c.toNat && c.toNat < 0x7F

/-- What may stand between a quoted value and the next parameter; gives what follows. -/
def afterQuoted : List Char → Option (List Char)
  | [] => some []
  | ' ' :: rest => afterQuoted rest
  | ';' :: rest => some rest
  | _ => none

/-- A quoted value, whose opening mark has been read; the mark does not close an empty value. -/
def quotedValue (first : Bool) : List Char → Option (List Char)
  | [] => none
  | c :: rest =>
    if c = '"' && !first then afterQuoted rest
    else if isQuotable c then quotedValue false rest
    else none

def value (first : Bool) : List Char → Option (List Char)
  | [] => some []
  | c :: rest =>
    if c = '"' && first then quotedValue true rest
    else if isToken c then value false rest
    else if c = ';' && !first then some rest
    else none

def name (first : Bool) : List Char → Option (List Char)
  | [] => none
  | c :: rest =>
    if isToken c then name false rest
    else if c = '=' && !first then some rest
    else none

/-- Are the parameters well-formed? A semicolon may be the last character. -/
def areParams : (fuel : Nat) → List Char → Bool
  | 0, _ => false
  | fuel + 1, cs =>
    match cs.dropWhile (· == ' ') with
    | [] => true
    | cs =>
      match (name true cs).bind (value true) with
      | some rest => areParams fuel rest
      | none => false

/-- The part before the last plus sign and the part behind it; the sign cannot be the first. -/
def splitSuffix (cs : List Char) : List Char × Option (List Char) :=
  match (cs.drop 1).reverse.dropWhile (· != '+') with
  | [] => (cs, none)
  | _ :: before =>
    let front := cs.take 1 ++ before.reverse
    (front, some (cs.drop (front.length + 1)))

def ofText? (text : String) : Option MediaType :=
  let lower := text.toList.map Char.toLower
  match Text.splitFirst (· == '/') lower with
  | (_, none) => none
  | (type, some rest) =>
    let (whole, params) := Text.splitFirst (· == ';') rest
    let paramsAreGood :=
      match params with
      | none => true
      | some params => !whole.isEmpty && areParams (params.length + 1) params
    if !type.isEmpty && type.all isToken && whole.all isToken && paramsAreGood then
      let (subtype, suffix) := splitSuffix whole
      some ⟨String.ofList type, String.ofList subtype, suffix.map String.ofList⟩
    else none

def isJson (m : MediaType) : Bool :=
  m.type = "application" && (m.subtype = "json" || m.suffix = some "json")

end MediaType

end StakingGateway.Service
