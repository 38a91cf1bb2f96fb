import StakingGateway.Bytes.HexText
import StakingGateway.Json.Inspect
import StakingGateway.Json.Record
import StakingGateway.Node.Question

/-!
What comes back from a node, and how a client reads it: the results of questions, refusals, and
all that can be wrong with either.
-/

namespace StakingGateway.Node

inductive Reply where
  | result (value : Json)
  | refusal (value : Json)
  /-- The node is not reached. -/
  | lost (reason : String)
deriving Repr

inductive Misfit where
  | shape (fault : Json.Fault)
  | bytes (cause : Bytes.HexError)
  | digit (character : Char) (index : Nat)
deriving Repr, DecidableEq

def Misfit.message : Misfit → String
  | shape fault => fault.message
  | bytes cause => cause.message
  | digit character index => s!"invalid hex character: {character}, at {index}"

structure Refusal where
  code : Int
  message : String
  data : Option Json
deriving Repr

namespace Refusal

/-- The codes of refusals are signed 64-bit numbers. -/
def codeOf : Json → Except Json.Fault Int
  | .number (.integer value) =>
    if Int64.minValue.toInt ≤ value && value ≤ Int64.maxValue.toInt then .ok value
    else .error (.wrongValue (.number (.integer value)) "i64")
  | value => .error (.wrongType (.ofJson value) "i64")

def record : Json.Record :=
  ⟨"JsonRpcError",
    [⟨"code", .checked fun value => (codeOf value).map fun _ => ()⟩, ⟨"message", .text⟩,
      ⟨"data", .any⟩]⟩

def build (given : Json.Given) : Except Json.Fault Refusal := do
  let code ← match given.get? "code" with
    | some value => codeOf value
    | none => .error (given.absent "code")
  let message ← given.text "message"
  return ⟨code, message, ← given.side "data"⟩

def ofJson : Json → Except Json.Fault Refusal :=
  record.decode build

def text (r : Refusal) : String :=
  let shown := match r.data with
    | some data => "Some(" ++ data.inspect ++ ")"
    | none => "None"
  s!"(code: {r.code}, message: {r.message}, data: {shown})"

end Refusal

inductive Error where
  | refused (refusal : Refusal)
  | unreadable (cause : Misfit)
  | lost (reason : String)
deriving Repr

def Error.message : Error → String
  | refused refusal => refusal.text
  | unreadable cause => cause.message
  | lost reason => reason

/-- The words of the node itself, where it has refused. -/
def Error.reason : Error → String
  | refused refusal => refusal.message
  | e => e.message

/-- How many bytes a number or a hash is written with. -/
inductive Width where
  | exactly (bytes : Nat)
  | upTo (bytes : Nat)
deriving Repr, DecidableEq

namespace Width

def expectation (w : Width) : String :=
  let count := match w with
    | exactly bytes => s!"{bytes} bytes"
    | upTo bytes => s!"between (0; {bytes}] bytes"
  "a (both 0x-prefixed or not) hex string or byte array containing " ++ count

def admits : Width → Nat → Bool
  | exactly bytes, digits => digits = 2 * bytes
  | upTo bytes, digits => 0 < digits && digits ≤ 2 * bytes

/-- The values of digits; blanks between them are passed over. -/
def digitValues (index : Nat) : List UInt8 → Except Misfit (List Nat)
  | [] => .ok []
  | b :: rest =>
    let c := Char.ofNat b.toNat
    match Bytes.hexValue? c with
    | some value => (digitValues (index + 1) rest).map (value :: ·)
    | none =>
      if Bytes.isFiller c then digitValues (index + 1) rest else .error (.digit c index)

/-- Pairs of digits as bytes; a digit without a partner is dropped. -/
def pairs : List Nat → List UInt8
  | high :: low :: rest => UInt8.ofNat (high * 16 + low) :: pairs rest
  | _ => []

/-- Reads digits, with or without the marker `0x`. The length of the text with its blanks says
whether the first digit stands alone. -/
def read (w : Width) (text : String) : Except Misfit (List UInt8) := do
  let (body, index) := match text.toList with
    | '0' :: 'x' :: rest => (rest, 2)
    | cs => (cs, 0)
  let raw := (String.ofList body).toUTF8.toList
  if !w.admits raw.length then throw (.shape (.wrongLength raw.length w.expectation))
  let values ← digitValues index raw
  return pairs (if raw.length % 2 = 1 then 0 :: values else values)

def ofJson (w : Width) : Json → Except Misfit (List UInt8)
  | .string text => w.read text
  | value => .error (.shape (.wrongType (.ofJson value) w.expectation))

end Width

def bytesOf : Json → Except Misfit (List UInt8)
  | .string text => (Bytes.readHex text.toList).mapError .bytes
  | value => .error (.shape (.wrongType (.ofJson value) "a string"))

def numberOf (bytes : Nat) (value : Json) : Except Misfit Nat :=
  ((Width.upTo bytes).ofJson value).map Bytes.toNat

def wordOf (value : Json) : Except Misfit Uint256 :=
  (numberOf 32 value).map (BitVec.ofNat 256)

/-- A hash; bytes that blanks leave open at the end are zero. -/
def hashOf (value : Json) : Except Misfit TxHash :=
  ((Width.exactly 32).ofJson value).map fun bytes =>
    .ofBytes (bytes ++ List.replicate (32 - bytes.length) 0)

structure Receipt where
  status : Option Nat
  blockNumber : Option Nat
  gasUsed : Option Uint256
deriving Repr, DecidableEq

def accountOf (value : Json) : Except Misfit (List UInt8) :=
  (Width.exactly 20).ofJson value

def listOf {α : Type} (read : Json → Except Misfit α) : Json → Except Misfit (List α)
  | .array items => items.mapM read
  | value => .error (.shape (.wrongType (.ofJson value) "a sequence"))

/-- A field of a record. One that is not needed may be null or missing. -/
structure Part where
  name : String
  needed : Bool
  check : Json → Except Misfit Unit

namespace Part

def needs {α : Type} (name : String) (read : Json → Except Misfit α) : Part :=
  ⟨name, true, fun value => (read value).map fun _ => ()⟩

def admits {α : Type} (name : String) (read : Json → Except Misfit α) : Part :=
  ⟨name, false, fun value => (read value).map fun _ => ()⟩

def accept (part : Part) (value : Json) : Except Misfit Unit :=
  if value.isNull && !part.needed then .ok () else part.check value

/-- Fields without a part are passed over. -/
def acceptField (parts : List Part) (field : String × Json) : Except Misfit Unit :=
  match parts.find? (·.name = field.1) with
  | some part => part.accept field.2
  | none => .ok ()

/-- Looks at the fields as they come, and only then for one that is needed and missing. -/
def checkFields (parts : List Part) (fields : List (String × Json)) : Except Misfit Unit := do
  fields.forM (acceptField parts)
  match parts.find? fun part => part.needed && (Json.lookup part.name fields).isNone with
  | some part => .error (.shape (.missingField part.name))
  | none => .ok ()

/-- Looks at a list that holds the fields in their order. -/
def checkItems (record : String) (parts : List Part) (items : List Json) :
    Except Misfit Unit := do
  (parts.zip items).forM fun (part, value) => part.accept value
  if items.length < parts.length then
    throw (.shape (.wrongLength items.length s!"struct {record} with {parts.length} elements"))
  if parts.length < items.length then
    throw (.shape (.wrongLength items.length "fewer elements in array"))

end Part

def logParts : List Part := [
  .needs "address" accountOf,
  .needs "topics" (listOf hashOf),
  .needs "data" bytesOf,
  .admits "blockHash" hashOf,
  .admits "blockNumber" (numberOf 8),
  .admits "transactionHash" hashOf,
  .admits "transactionIndex" (numberOf 8),
  .admits "logIndex" (numberOf 32),
  .admits "transactionLogIndex" (numberOf 32),
  .admits "logType" fun value => (Json.Wanted.text.check value).mapError .shape,
  .admits "removed" fun value => (Json.Wanted.truth.check value).mapError .shape]

def checkLog : Json → Except Misfit Unit
  | .object fields => Part.checkFields logParts fields
  | .array items => Part.checkItems "Log" logParts items
  | value => .error (.shape (.wrongType (.ofJson value) "struct Log"))

/-- The fields of a receipt, most of which are looked at and left aside. -/
def receiptParts : List Part := [
  .needs "transactionHash" hashOf,
  .needs "transactionIndex" (numberOf 8),
  .admits "blockHash" hashOf,
  .admits "blockNumber" (numberOf 8),
  .needs "from" accountOf,
  .admits "to" accountOf,
  .needs "cumulativeGasUsed" wordOf,
  .admits "gasUsed" wordOf,
  .admits "contractAddress" accountOf,
  .needs "logs" (listOf checkLog),
  .admits "status" (numberOf 8),
  .admits "root" hashOf,
  .needs "logsBloom" (Width.exactly 256).ofJson,
  .admits "type" (numberOf 8),
  .admits "effectiveGasPrice" wordOf]

def optionalOf {α : Type} (read : Json → Except Misfit α) (value : Json) (name : String) :
    Except Misfit (Option α) :=
  ((value.get? name).filter (!·.isNull)).mapM read

def Receipt.gather (value : Json) : Except Misfit Receipt := do
  let blockNumber ← optionalOf (numberOf 8) value "blockNumber"
  let gasUsed ← optionalOf wordOf value "gasUsed"
  let status ← optionalOf (numberOf 8) value "status"
  return ⟨status, blockNumber, gasUsed⟩

/-- Null is no receipt. -/
def receiptOf? : Json → Except Misfit (Option Receipt)
  | .null => return none
  | .object fields => do
    Part.checkFields receiptParts fields
    let receipt ← Receipt.gather (.object fields)
    return some receipt
  | value => .error (.shape (.wrongType (.ofJson value) "struct TransactionReceipt"))

namespace Question

/-- What a node answers when it does. There is no receipt before a transaction is in a block. -/
abbrev Result : Question → Type
  | call _ => List UInt8
  | transactionCount _ => Uint256
  | gasPrice => Uint256
  | estimateGas _ => Uint256
  | submit _ => TxHash
  | receipt _ => Option Receipt

def read : (question : Question) → Json → Except Misfit question.Result
  | call _ => bytesOf
  | transactionCount _ => wordOf
  | gasPrice => wordOf
  | estimateGas _ => wordOf
  | submit _ => hashOf
  | receipt _ => receiptOf?

def resultOf (question : Question) : Reply → Except Error question.Result
  | .result value => (question.read value).mapError .unreadable
  | .refusal value =>
    match Refusal.ofJson value with
    | .ok refusal => .error (.refused refusal)
    | .error fault => .error (.unreadable (.shape fault))
  | .lost reason => .error (.lost reason)

end Question

end StakingGateway.Node
