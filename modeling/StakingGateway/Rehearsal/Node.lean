import StakingGateway.Node.Session
import StakingGateway.Rehearsal.Script

/-!
A rehearsed node: it answers questions from a script by method, and calls by their selector and
by whether they name a sender.
-/

namespace StakingGateway.Rehearsal

open Node

structure NodeStage where
  script : Script Reply := []
  /-- The number of transactions that got the next hash. -/
  sent : Nat := 0

/-- What a receipt must hold besides the fields that are scripted. -/
def plainFields : List (String × Json) := [
  ("transactionHash", .string (TxHash.ofNat 0).text),
  ("transactionIndex", quantity 0),
  ("from", .string Address.zero.text),
  ("cumulativeGasUsed", quantity 0),
  ("logs", .array []),
  ("logsBloom", .string (Bytes.toHex (List.replicate 256 0)))]

/-- A receipt with some fields, and with plain ones where it could not be read without them. -/
def receiptWith (fields : List (String × Json)) : Json :=
  .obj (fields ++ plainFields.filter fun field => (Json.lookup field.1 fields).isNone)

def usualReceipt : Json :=
  receiptWith [
    ("status", quantity 1),
    ("blockNumber", quantity 19000000),
    ("gasUsed", quantity 85000)]

def usualReply (question : Question) (sent : Nat) : Reply :=
  match question with
  | .call message =>
    if message.sender.isSome then .result "0x"
    else
      .refusal (.obj [("code", .int (-32000)), ("message", "no scripted answer")])
  | .transactionCount _ => .result (quantity 0)
  | .gasPrice => .result (quantity 1000000000)
  | .estimateGas _ => .result (quantity 100000)
  | .submit _ => .result (.string (TxHash.ofNat (sent + 1)).text)
  | .receipt _ => .result usualReceipt

def scriptKey : Question → String
  | .call message =>
    (if message.sender.isSome then "eth_call+from:" else "eth_call:") ++
      Bytes.toHex (message.data.take 4)
  | question => question.method

/-- A reply as it is scripted; a script of a receipt names only the fields that matter to it. -/
def scriptedReply : Question → Reply → Reply
  | .receipt _, .result (.object fields) => .result (receiptWith fields)
  | _, reply => reply

/-- The rehearsed node, which stands for the nodes of all clients. -/
def nodes : Nodes NodeStage := fun _ question stage =>
  let (reply, script) := stage.script.take (scriptKey question)
  let stage := { stage with script := script }
  match reply with
  | some reply => (scriptedReply question reply, stage)
  | none =>
    let sent :=
      match question with
      | .submit _ => stage.sent + 1
      | _ => stage.sent
    (usualReply question stage.sent, { stage with sent := sent })

end StakingGateway.Rehearsal
