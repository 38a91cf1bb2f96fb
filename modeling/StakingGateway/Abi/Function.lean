import StakingGateway.Abi.Token

/-!
Declared contract functions, the encoding of their arguments and the decoding of their results.
Every argument and result takes one word of 32 bytes.
-/

namespace StakingGateway.Abi

structure Function where
  name : String
  inputs : List Kind
  outputs : List Kind
deriving Repr, DecidableEq

inductive Error where
  | unknownFunction (name : String)
  | invalidData
  | emptyOutput
deriving Repr, DecidableEq

def Error.message : Error → String
  | unknownFunction name => "Invalid name: " ++ name
  | invalidData => "Invalid data"
  | emptyOutput =>
    "Invalid name: please ensure the contract and method you're calling exist! failed to " ++
      "decode empty bytes. if you're using jsonrpc this is likely due to jsonrpc returning `0x` " ++
      "in case contract or method don't exist"

def kindsText (kinds : List Kind) : String :=
  ",".intercalate (kinds.map Kind.name)

/-- The text whose hash begins with the selector. -/
def Function.plainSignature (f : Function) : String :=
  s!"{f.name}({kindsText f.inputs})"

/-- The name, the arguments and, if there are any, the results. -/
def Function.signature (f : Function) : String :=
  if f.outputs.isEmpty then f.plainSignature
  else s!"{f.plainSignature}:({kindsText f.outputs})"

/-- The first four bytes of the hash of the signature. -/
def Function.selector (f : Function) : List UInt8 :=
  (Crypto.Keccak.hash f.plainSignature.toUTF8.toList).take 4

def wordSize : Nat := 32

def encodeWord : Token → Option (List UInt8)
  | .address value => some (Bytes.ofNat wordSize value.word.toNat)
  | .uint value => some (Bytes.ofNat wordSize value.toNat)
  | .bool value => some (Bytes.ofNat wordSize (if value then 1 else 0))
  | _ => none

/-- The value in a word. The upper bytes of an address are ignored; those of a truth value must
be zero, and only one in the last byte is true. -/
def decodeWord (kind : Kind) (word : List UInt8) : Option Token :=
  match kind with
  | .address => some (.address (Address.ofBytes word))
  | .uint256 | .uint8 => some (.uint (BitVec.ofNat 256 (Bytes.toNat word)))
  | .bool =>
    if (word.take (wordSize - 1)).all (· == 0) then
      some (.bool ((word.drop (wordSize - 1)).head? == some 1))
    else none

def encodeAll : List Kind → List Token → Option (List UInt8)
  | [], [] => some []
  | kind :: kinds, token :: tokens => do
    if kind.accepts token then
      return (← encodeWord token) ++ (← encodeAll kinds tokens)
    else none
  | _, _ => none

def decodeAll : List Kind → List UInt8 → Option (List Token)
  | [], _ => some []
  | kind :: kinds, data =>
    if data.length < wordSize then none
    else do
      let token ← decodeWord kind (data.take wordSize)
      return token :: (← decodeAll kinds (data.drop wordSize))

def Function.encode (f : Function) (args : List Token) : Except Error (List UInt8) :=
  match encodeAll f.inputs args with
  | some words => .ok (f.selector ++ words)
  | none => .error .invalidData

/-- Reads the results; bytes behind them are ignored. -/
def Function.decode (f : Function) (data : List UInt8) : Except Error (List Token) :=
  if data.isEmpty && !f.outputs.isEmpty then .error .emptyOutput
  else
    match decodeAll f.outputs data with
    | some tokens => .ok tokens
    | none => .error .invalidData

end StakingGateway.Abi
