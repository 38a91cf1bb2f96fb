import StakingGateway.Address
import StakingGateway.Json.Basic

/-!
The questions that a client asks a node, with their JSON form.
-/

namespace StakingGateway.Node

/-- A number in hexadecimal digits without leading zeros. -/
def quantity (n : Nat) : Json :=
  .string (String.ofList ('0' :: 'x' :: Nat.toDigits 16 n))

structure Message where
  sender : Option Address
  target : Address
  data : List UInt8
  value : Option Uint256
deriving Repr

/-- The kind of all transactions: those with a plain gas price. -/
def transactionType : Json := "0x00"

def optionalField (name : String) (value : Option Json) : List (String × Json) :=
  (value.map fun value => (name, value)).toList

def Message.fields (m : Message) : List (String × Json) :=
  [("type", transactionType), ("to", .string m.target.text),
    ("data", .string (Bytes.toHex m.data))] ++
    optionalField "from" (m.sender.map fun sender => .string sender.text) ++
    optionalField "value" (m.value.map fun value => quantity value.toNat)

/-- A call to be sent, whose gas is not known yet. -/
structure Draft where
  message : Message
  nonce : Uint256
  gasPrice : Uint256
deriving Repr

def Draft.fields (d : Draft) : List (String × Json) :=
  d.message.fields ++
    [("nonce", quantity d.nonce.toNat), ("gasPrice", quantity d.gasPrice.toNat)]

structure Transaction where
  sender : Address
  target : Address
  data : List UInt8
  value : Uint256
  nonce : Uint256
  gasPrice : Uint256
  gas : Uint256
  chainId : Nat
deriving Repr

def Transaction.toJson (t : Transaction) : Json :=
  .obj [
    ("type", transactionType),
    ("from", .string t.sender.text),
    ("to", .string t.target.text),
    ("data", .string (Bytes.toHex t.data)),
    ("gas", quantity t.gas.toNat),
    ("gasPrice", quantity t.gasPrice.toNat),
    ("nonce", quantity t.nonce.toNat),
    ("value", quantity t.value.toNat),
    ("chainId", .nat t.chainId)]

inductive Question where
  | call (message : Message)
  | transactionCount (account : Address)
  | gasPrice
  | estimateGas (draft : Draft)
  | submit (transaction : Transaction)
  | receipt (hash : TxHash)
deriving Repr

namespace Question

def method : Question → String
  | call _ => "eth_call"
  | transactionCount _ => "eth_getTransactionCount"
  | gasPrice => "eth_gasPrice"
  | estimateGas _ => "eth_estimateGas"
  | submit _ => "eth_sendRawTransaction"
  | receipt _ => "eth_getTransactionReceipt"

/-- The parameters of a question; a signed transaction is shown by its content. -/
def params : Question → Json
  | call message => .array [.obj message.fields, "latest"]
  | transactionCount account => .array [.string account.text, "latest"]
  | gasPrice => .null
  | estimateGas draft => .array [.obj draft.fields]
  | submit transaction => .array [transaction.toJson]
  | receipt hash => .array [.string hash.text]

end Question

end StakingGateway.Node
