import StakingGateway.Node.Answer
import StakingGateway.Proofs.ByteOrder
import StakingGateway.Proofs.Records

/-!
# Reading what nodes answer

Digits written for some bytes are read back as these bytes. A record is taken exactly when all its
parts are, so the receipt of a mined transaction needs every field that a node must give.
-/

namespace StakingGateway.Node

/-! ## Digits -/

section Digits

variable {bytes : List UInt8}

/-- The halves of some bytes in a row, the high one first. -/
def halves (bytes : List UInt8) : List Nat := bytes.flatMap fun b => [b.toNat / 16, b.toNat % 16]

theorem digitValues_encodeHex (bytes : List UInt8) (index : Nat) :
    Width.digitValues index ((Bytes.encodeHex bytes).map Bytes.ofAscii) = .ok (halves bytes) := by
  induction bytes generalizing index with
  | nil => rfl
  | cons b rest ih =>
      have hb : b.toNat < 256 := b.toNat_lt
      have hwritten : (Bytes.encodeHex (b :: rest)).map Bytes.ofAscii =
          Bytes.ofAscii (Bytes.hexDigit (b.toNat / 16)) ::
            Bytes.ofAscii (Bytes.hexDigit (b.toNat % 16)) ::
            (Bytes.encodeHex rest).map Bytes.ofAscii := rfl
      simp only [hwritten, Width.digitValues, ih, Bytes.hexValue?_ofAscii (b.toNat / 16) (by omega),
        Bytes.hexValue?_ofAscii (b.toNat % 16) (by omega)]
      rfl

theorem pairs_halves (bytes : List UInt8) : Width.pairs (halves bytes) = bytes := by
  induction bytes with
  | nil => rfl
  | cons b rest ih => exact congrArg₂ List.cons (Bytes.ofNat_halves b) ih

theorem length_encodeHex (bytes : List UInt8) :
    (Bytes.encodeHex bytes).length = 2 * bytes.length := by
  simp [Bytes.encodeHex, Bytes.encodeByte, List.length_flatMap, Nat.mul_comm]

theorem read_toHex {w : Width} (h : w.admits (2 * bytes.length)) :
    w.read (Bytes.toHex bytes) = .ok bytes := by
  have hraw : (String.ofList (Bytes.encodeHex bytes)).toUTF8.toList =
      (Bytes.encodeHex bytes).map Bytes.ofAscii := by
    refine Bytes.toList_toUTF8_of_ascii fun c hc => ?_
    obtain ⟨b, -, hdigit⟩ := List.mem_flatMap.mp hc
    exact (Bytes.plain_of_mem_encodeByte hdigit).1
  have hlength : ((Bytes.encodeHex bytes).map Bytes.ofAscii).length = 2 * bytes.length := by
    rw [List.length_map, length_encodeHex]
  simp only [Width.read, Bytes.toHex, String.toList_ofList, hraw, hlength, h, digitValues_encodeHex,
    Nat.mul_mod_right]
  exact congrArg Except.ok (pairs_halves bytes)

end Digits

/-! ## Records -/

section Records

variable {parts : List Part} {fields : List (String × Json)}

theorem acceptField_eq_ok {field : String × Json} : Part.acceptField parts field = .ok () ↔
    ∀ part ∈ parts.find? (·.name = field.1), part.accept field.2 = .ok () := by
  rw [Part.acceptField]
  cases parts.find? (·.name = field.1) <;> simp

theorem find?_missing_eq_none :
    (parts.find? fun part => part.needed && (Json.lookup part.name fields).isNone) = none ↔
      ∀ part ∈ parts, part.needed → (Json.lookup part.name fields).isSome := by
  rw [List.find?_eq_none]
  refine forall₂_congr fun part _ => ?_
  cases Json.lookup part.name fields <;> simp

/-- A record is taken exactly when every field of it that has a part is, and no part is missing. -/
theorem checkFields_eq_ok : Part.checkFields parts fields = .ok () ↔
    (∀ field ∈ fields, ∀ part ∈ parts.find? (·.name = field.1), part.accept field.2 = .ok ()) ∧
      ∀ part ∈ parts, part.needed → (Json.lookup part.name fields).isSome := by
  have hforM : fields.forM (Part.acceptField parts) = .ok () ↔
      ∀ field ∈ fields, ∀ part ∈ parts.find? (·.name = field.1), part.accept field.2 = .ok () :=
    Json.listForM_eq_ok.trans (forall₂_congr fun _ _ => acceptField_eq_ok)
  rw [Part.checkFields, Json.bind_eq_ok, ← hforM, ← find?_missing_eq_none]
  constructor
  · rintro ⟨_, haccepted, hlast⟩
    refine ⟨haccepted, ?_⟩
    split at hlast
    · cases hlast
    · assumption
  · rintro ⟨haccepted, hnone⟩
    exact ⟨(), haccepted, by rw [hnone]⟩

end Records

theorem resultOf_receipt {value : Json} {found : Option Receipt}
    (h : receiptOf? value = .ok found) (hash : TxHash) :
    (Question.receipt hash).resultOf (.result value) = .ok found := by
  rw [Question.resultOf, Question.read, h]
  rfl

def emptyBloom : String := Bytes.toHex (List.replicate 256 0)

def receiptFields (hash : TxHash) : List (String × Json) := [
  ("transactionHash", .string hash.text), ("transactionIndex", "0x2"),
  ("blockHash", .string (TxHash.ofNat 0x10).text), ("blockNumber", "0x10"),
  ("from", .string (Address.ofNat 1).text), ("to", .string (Address.ofNat 2).text),
  ("cumulativeGasUsed", "0xc350"), ("gasUsed", "0x5208"), ("contractAddress", .null),
  ("logs", .array []), ("logsBloom", .string emptyBloom), ("status", "0x0"), ("type", "0x0"),
  ("effectiveGasPrice", "0x3b9aca00")]

/-- The receipt of a transaction that failed, as a node gives it. -/
def failedReceipt (hash : TxHash) : Json := .object (receiptFields hash)

theorem accept_hash (hash : TxHash) :
    ((hashOf (.string hash.text)).map fun _ => ()) = .ok () := by
  have hread : (Width.exactly 32).read hash.text = .ok hash.toBytes :=
    read_toHex (by simp [Width.admits, TxHash.toBytes])
  rw [hashOf, Width.ofJson, hread]
  rfl

theorem accept_account (a : Address) :
    ((accountOf (.string a.text)).map fun _ => ()) = .ok () := by
  have hread : (Width.exactly 20).read a.text = .ok a.toBytes :=
    read_toHex (by simp [Width.admits, Address.toBytes])
  rw [accountOf, Width.ofJson, hread]
  rfl

theorem accept_emptyBloom :
    (((Width.exactly 256).ofJson (.string emptyBloom)).map fun _ => ()) = .ok () := by
  have hread : (Width.exactly 256).read emptyBloom = .ok (List.replicate 256 0) := by
    refine read_toHex ?_
    rw [List.length_replicate]
    rfl
  rw [Width.ofJson, hread]
  rfl

theorem receiptOf_failedReceipt (hash : TxHash) :
    receiptOf? (failedReceipt hash) = .ok (some ⟨some 0, some 16, some 21000⟩) := by
  have haccepted : ∀ field ∈ receiptFields hash, ∀ part ∈ receiptParts.find? (·.name = field.1),
      part.accept field.2 = .ok () := by
    have hnumbers : ∀ text ∈ ["0x2", "0x10", "0x0"],
        ((numberOf 8 (.string text)).map fun _ => ()) = .ok () := by decide +kernel
    have hwords : ∀ text ∈ ["0xc350", "0x5208", "0x3b9aca00"],
        ((wordOf (.string text)).map fun _ => ()) = .ok () := by decide +kernel
    have hlogs : ((listOf checkLog (.array [])).map fun _ => ()) = .ok () := rfl
    simp [receiptFields, receiptParts, Part.needs, Part.admits, Part.accept, Json.isNull,
      accept_hash, accept_account, accept_emptyBloom, hnumbers, hwords, hlogs]
  have hpresent : ∀ part ∈ receiptParts, part.needed →
      (Json.lookup part.name (receiptFields hash)).isSome := by
    simp [receiptFields, receiptParts, Part.needs, Part.admits, Json.lookup]
  have hblock : (failedReceipt hash).get? "blockNumber" = some "0x10" := by
    simp [failedReceipt, receiptFields, Json.get?, Json.lookup]
  have hgas : (failedReceipt hash).get? "gasUsed" = some "0x5208" := by
    simp [failedReceipt, receiptFields, Json.get?, Json.lookup]
  have hstatus : (failedReceipt hash).get? "status" = some "0x0" := by
    simp [failedReceipt, receiptFields, Json.get?, Json.lookup]
  have hgathered : Receipt.gather (failedReceipt hash) = .ok ⟨some 0, some 16, some 21000⟩ := by
    rw [Receipt.gather, optionalOf, optionalOf, optionalOf, hblock, hgas, hstatus]
    decide +kernel
  rw [failedReceipt, receiptOf?, checkFields_eq_ok.mpr ⟨haccepted, hpresent⟩]
  exact congrArg (· >>= fun receipt => .ok (some receipt)) hgathered

theorem resultOf_failedReceipt (hash : TxHash) :
    (Question.receipt hash).resultOf (.result (failedReceipt hash)) =
      .ok (some ⟨some 0, some 16, some 21000⟩) :=
  resultOf_receipt (receiptOf_failedReceipt hash) hash

end StakingGateway.Node
