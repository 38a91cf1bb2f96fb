import StakingGateway.Chain.Error
import StakingGateway.Contract.Interface

/-!
One call of a contract function, whether it is read, simulated or sent, and the typed access to
the results of a call.
-/

namespace StakingGateway.Contract

open Abi

structure Call where
  interface : Interface
  target : Address
  function : String
  args : List Token := []
  /-- The native value that goes with the call. -/
  value : Option Uint256 := none
deriving Repr

namespace Call

def calldata (c : Call) : Except Chain.Error (List UInt8) :=
  ((c.interface.function c.function).bind (·.encode c.args)).mapError (.ofAbi c.function)

def decodeOutput (c : Call) (data : List UInt8) : Except Chain.Error (List Token) :=
  ((c.interface.function c.function).bind (·.decode data)).mapError (.ofAbi c.function)

end Call

def unexpectedOutput (function wanted : String) (index : Nat) : Chain.Error :=
  .abi function s!"expected {wanted} at output {index}"

def uintAt (tokens : List Token) (index : Nat) (function : String) :
    Except Chain.Error Uint256 :=
  match tokens[index]?.bind Token.uint? with
  | some value => .ok value
  | none => .error (unexpectedOutput function "uint256" index)

def addressAt (tokens : List Token) (index : Nat) (function : String) :
    Except Chain.Error Address :=
  match tokens[index]?.bind Token.address? with
  | some value => .ok value
  | none => .error (unexpectedOutput function "address" index)

end StakingGateway.Contract
