import StakingGateway.Chain.Dialogue
import StakingGateway.Chain.Receipt
import StakingGateway.Contract.Call
import StakingGateway.Network

/-!
What tools ask of a chain: clients for a network, reads, rehearsals and submissions of calls, and
receipts. A program is a dialogue of such questions.
-/

namespace StakingGateway.Chain

open Contract

structure Account where
  network : Network
  address : Address
deriving Repr, DecidableEq

abbrev ReadAnswer := Except Error (List Abi.Token)

/-- The outcome of reads that are under way together. -/
inductive Gathered where
  /-- All answers, in the order of the calls. -/
  | all (answers : List ReadAnswer)
  /-- One answer decided the outcome and ended the other reads. -/
  | stopped (call : Call) (answer : ReadAnswer)

inductive Question where
  | reader (identifier : String)
  | account (key identifier : String)
  | read (network : Network) (call : Call)
  /-- Reads under way together; an answer that is `decisive` ends the others. -/
  | readAll (network : Network) (calls : List Call) (decisive : Call → ReadAnswer → Bool)
  | simulate (network : Network) (sender : Address) (call : Call)
  | write (account : Account) (call : Call)
  | receipt (network : Network) (hash : TxHash)

abbrev Question.Answer : Question → Type
  | reader _ => Except Error Network
  | account .. => Except Error Account
  | read .. => ReadAnswer
  | readAll .. => Gathered
  | simulate .. => Except Error Unit
  | write .. => Except Error TxHash
  | receipt .. => Except Error Receipt

abbrev Program := Dialogue Question Question.Answer

inductive Event where
  | reader (identifier : String) (answer : Except Error Network)
  | account (key identifier : String) (answer : Except Error Account)
  | read (network : Network) (call : Call) (answer : ReadAnswer)
  | simulate (network : Network) (sender : Address) (call : Call) (answer : Except Error Unit)
  | write (account : Account) (call : Call) (answer : Except Error TxHash)
  | receipt (network : Network) (hash : TxHash) (answer : Except Error Receipt)

end StakingGateway.Chain
