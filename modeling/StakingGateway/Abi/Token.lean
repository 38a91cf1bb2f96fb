import StakingGateway.Address

/-!
Values that contract functions take and give, and the kinds of values that functions declare.
-/

namespace StakingGateway.Abi

inductive Token where
  | address (value : Address)
  | uint (value : Uint256)
  | int (value : Uint256)
  | bool (value : Bool)
  | string (text : String)
  | bytes (value : List UInt8)
  | fixedBytes (value : List UInt8)
  | array (items : List Token)
  | fixedArray (items : List Token)
  | tuple (items : List Token)
deriving Repr, Inhabited

/-- The declared kind of an argument or a result; every one takes a single word. -/
inductive Kind where
  | address
  | uint256
  | uint8
  | bool
deriving Repr, DecidableEq

def Kind.name : Kind → String
  | address => "address"
  | uint256 => "uint256"
  | uint8 => "uint8"
  | bool => "bool"

/-- Is a value of the declared kind? Unsigned numbers of different widths are one kind. -/
def Kind.accepts : Kind → Token → Bool
  | address, .address _ => true
  | uint256, .uint _ => true
  | uint8, .uint _ => true
  | bool, .bool _ => true
  | _, _ => false

def Token.uint? : Token → Option Uint256
  | .uint value => some value
  | _ => none

def Token.address? : Token → Option Address
  | .address value => some value
  | _ => none

end StakingGateway.Abi
