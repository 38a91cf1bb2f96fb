import StakingGateway.Text.Blank
import StakingGateway.Text.Digits
import StakingGateway.Text.Lowercase

/-!
The supported networks and the spellings under which a caller may name them: canonical names,
aliases and chain identifiers, in any case, with any blanks around and any separators between
words.
-/

namespace StakingGateway

inductive Network where
  | ethereum
  | sepolia
  | arbitrum
  | optimism
  | base
  | polygon
  | bsc
deriving Repr, DecidableEq, Inhabited

namespace Network

def all : List Network := [ethereum, sepolia, arbitrum, optimism, base, polygon, bsc]

def name : Network → String
  | ethereum => "ethereum"
  | sepolia => "sepolia"
  | arbitrum => "arbitrum"
  | optimism => "optimism"
  | base => "base"
  | polygon => "polygon"
  | bsc => "bsc"

def chainId : Network → Nat
  | ethereum => 1
  | sepolia => 11155111
  | arbitrum => 42161
  | optimism => 10
  | base => 8453
  | polygon => 137
  | bsc => 56

/-- The public endpoint, used when no other one is configured. -/
def publicEndpoint : Network → String
  | ethereum => "https://eth.llamarpc.com"
  | sepolia => "https://rpc.sepolia.org"
  | arbitrum => "https://arb1.arbitrum.io/rpc"
  | optimism => "https://mainnet.optimism.io"
  | base => "https://mainnet.base.org"
  | polygon => "https://polygon-rpc.com"
  | bsc => "https://bsc-dataseed.binance.org"

def ofName? (name : String) : Option Network :=
  all.find? (·.name = name)

def ofChainId? (id : Nat) : Option Network :=
  all.find? (·.chainId = id)

/-- Other names of the networks, as they look in normal form. -/
def aliases : List (String × Network) :=
  [("mainnet", ethereum), ("main", ethereum), ("eth", ethereum), ("ethereum-mainnet", ethereum),
   ("arb", arbitrum), ("arbitrum-one", arbitrum), ("arb1", arbitrum),
   ("op", optimism), ("optimism-mainnet", optimism),
   ("base-mainnet", base),
   ("matic", polygon), ("polygon-pos", polygon),
   ("bnb", bsc), ("binance", bsc), ("bsc-mainnet", bsc), ("bnb-smart-chain", bsc),
   ("sepolia-testnet", sepolia), ("eth-sepolia", sepolia)]

/-- Blanks inside a name and underscores separate words just as hyphens do. -/
def asSeparator (c : Char) : Char :=
  if c = ' ' || c = '_' then '-' else c

/-- Leaves one hyphen of every run of hyphens. -/
def collapse (cs : List Char) : List Char :=
  cs.foldr (fun c rest => if c = '-' && rest.head? = some '-' then rest else c :: rest) []

/-- A name without differences of case, outer blanks and separators. -/
def plainChars (cs : List Char) : List Char :=
  collapse ((Text.lowercaseChars (Text.trimChars cs)).map asSeparator)

def ofChainText? (cs : List Char) : Option Network :=
  (Text.readUnsigned UInt64.size cs).bind ofChainId?

/-- The canonical name behind an alias or a chain identifier; any other name in plain form. -/
def normalForm (identifier : String) : String :=
  let plain := plainChars identifier.toList
  match aliases.lookup (String.ofList plain) with
  | some network => network.name
  | none =>
    match ofChainText? plain with
    | some network => network.name
    | none => String.ofList plain

def resolve? (identifier : String) : Option Network :=
  ofName? (normalForm identifier)

end Network

end StakingGateway
