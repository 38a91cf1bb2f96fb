import Mathlib.Data.List.Forall2
import StakingGateway.Contract.Call
import StakingGateway.Proofs.HexDigits

/-!
# Calls and the functions they name

The data of a call is the selector of its function and one word for every argument, and reading the
words by the declared kinds gives the arguments back. Bytes that can be read as results of a call
give every result that its function declares.
-/

namespace StakingGateway

namespace Bytes

theorem toNat_ofNat (width n : Nat) : toNat (ofNat width n) = n % 256 ^ width := by
  induction width generalizing n with
  | zero => exact (Nat.mod_one n).symm
  | succ width ih =>
      have hbyte : (UInt8.ofNat (n % 256)).toNat = n % 256 :=
        UInt8.toNat_ofNat_of_lt' (Nat.mod_lt n (by decide))
      rw [ofNat_succ, toNat_append_singleton, ih, hbyte, Nat.pow_succ', Nat.mod_mul, Nat.mul_comm,
        Nat.add_comm]

theorem toNat_ofNat_of_lt {width n : Nat} (h : n < 256 ^ width) : toNat (ofNat width n) = n := by
  rw [toNat_ofNat, Nat.mod_eq_of_lt h]

end Bytes

namespace Abi

abbrev OfKinds (kinds : List Kind) (tokens : List Token) : Prop :=
  List.Forall₂ (fun kind token => kind.accepts token = true) kinds tokens

variable {kind : Kind} {kinds : List Kind} {token : Token} {tokens : List Token}

/-- A value of the declared kind has a word, and the word gives it back. -/
theorem exists_word (h : kind.accepts token = true) :
    ∃ word, encodeWord token = some word ∧ word.length = wordSize ∧
      decodeWord kind word = some token := by
  have huint : ∀ value : Uint256,
      BitVec.ofNat 256 (Bytes.toNat (Bytes.ofNat wordSize value.toNat)) = value := by
    intro value
    have hvalue : value.toNat < 256 ^ wordSize := value.isLt
    rw [Bytes.toNat_ofNat_of_lt hvalue, BitVec.ofNat_toNat, BitVec.setWidth_eq]
  cases kind <;> cases token <;> try cases h
  case address.address value =>
    refine ⟨_, rfl, Bytes.length_ofNat _ _, ?_⟩
    have hvalue : value.word.toNat < 256 ^ wordSize :=
      Nat.lt_of_lt_of_le value.word.isLt (by decide)
    simp only [decodeWord, Address.ofBytes, Bytes.toNat_ofNat_of_lt hvalue, Address.ofNat,
      BitVec.ofNat_toNat, BitVec.setWidth_eq]
  case uint256.uint value =>
    exact ⟨_, rfl, Bytes.length_ofNat _ _, by simp only [decodeWord, huint]⟩
  case uint8.uint value =>
    exact ⟨_, rfl, Bytes.length_ofNat _ _, by simp only [decodeWord, huint]⟩
  case bool.bool value =>
    refine ⟨_, rfl, Bytes.length_ofNat _ _, ?_⟩
    cases value <;> rfl

theorem length_hash (message : List UInt8) : (Crypto.Keccak.hash message).length = 32 := by
  simp only [Crypto.Keccak.hash, Crypto.Keccak.bytesOfLane, List.length_flatMap, List.length_map,
    List.length_range]
  rfl

theorem length_selector (f : Function) : f.selector.length = 4 := by
  rw [Function.selector, List.length_take, length_hash]
  rfl

/-- The words of arguments of the declared kinds, one for each. -/
theorem exists_words (h : OfKinds kinds tokens) :
    ∃ words : List (List UInt8), encodeAll kinds tokens = some words.flatten ∧
      words.length = tokens.length ∧ (∀ word ∈ words, word.length = wordSize) ∧
      decodeAll kinds words.flatten = some tokens := by
  induction h with
  | nil => exact ⟨[], rfl, rfl, by simp, rfl⟩
  | @cons kind token kinds tokens hkind _ ih =>
      obtain ⟨word, hword, hlength, hdecode⟩ := exists_word hkind
      obtain ⟨words, hwords, hcount, hlengths, hrest⟩ := ih
      refine ⟨word :: words, ?_, congrArg (· + 1) hcount,
        List.forall_mem_cons.mpr ⟨hlength, hlengths⟩, ?_⟩
      · simp [encodeAll, hkind, hword, hwords]
      · have htake : (word ++ words.flatten).take wordSize = word := by
          rw [← hlength]
          exact List.take_left
        have hdrop : (word ++ words.flatten).drop wordSize = words.flatten := by
          rw [← hlength]
          exact List.drop_left
        have hlong : ¬ (word ++ words.flatten).length < wordSize := by
          rw [List.length_append]
          omega
        rw [List.flatten_cons, decodeAll, if_neg hlong, htake, hdrop, hdecode, hrest]
        rfl

/-- Results that can be read are of the declared kinds. -/
theorem accepts_of_decodeWord {word : List UInt8} (h : decodeWord kind word = some token) :
    kind.accepts token = true := by
  cases kind with
  | address => cases h; rfl
  | uint256 => cases h; rfl
  | uint8 => cases h; rfl
  | bool =>
      simp only [decodeWord] at h
      split at h
      · cases h; rfl
      · cases h

theorem accepts_of_decodeAll {data : List UInt8} (h : decodeAll kinds data = some tokens) :
    OfKinds kinds tokens := by
  induction kinds generalizing data tokens with
  | nil =>
      obtain rfl := Option.some.inj h
      exact .nil
  | cons kind kinds ih =>
      unfold decodeAll at h
      split at h
      · cases h
      · obtain ⟨token, htoken, hrest⟩ := Option.bind_eq_some_iff.mp h
        obtain ⟨rest, hdecoded, hcons⟩ := Option.bind_eq_some_iff.mp hrest
        obtain rfl := Option.some.inj hcons
        exact .cons (accepts_of_decodeWord htoken) (ih hdecoded)

end Abi

namespace Contract

open Abi

/-- The call names a function of its interface and brings arguments of the declared kinds. -/
def Call.Fits (c : Call) : Prop :=
  ∃ f, c.interface.function c.function = .ok f ∧
    OfKinds f.inputs c.args

def Call.Declares (c : Call) (kinds : List Kind) (index : Nat) : Prop :=
  ∃ f, c.interface.function c.function = .ok f ∧ ∃ kind ∈ kinds, f.outputs[index]? = some kind

def Call.DeclaresUint (c : Call) (index : Nat) : Prop := c.Declares [.uint256, .uint8] index

def Call.DeclaresAddress (c : Call) (index : Nat) : Prop := c.Declares [.address] index

/-- Every number and every address that the function of the call declares is there. -/
structure Call.Readable (c : Call) (tokens : List Token) : Prop where
  uints : ∀ i, c.DeclaresUint i → ∃ value, uintAt tokens i c.function = .ok value
  addresses : ∀ i, c.DeclaresAddress i → ∃ value, addressAt tokens i c.function = .ok value

/-- What the data of a call looks like. -/
structure Call.Encoded (c : Call) (f : Function) (words : List (List UInt8)) : Prop where
  function : c.interface.function c.function = .ok f
  calldata : c.calldata = .ok (f.selector ++ words.flatten)
  selector : f.selector.length = 4
  count : words.length = c.args.length
  size : ∀ word ∈ words, word.length = wordSize
  recovered : decodeAll f.inputs words.flatten = some c.args

variable {c : Call} {tokens : List Token}

theorem encoded_of_fits (h : c.Fits) : ∃ f words, c.Encoded f words := by
  obtain ⟨f, hf, hargs⟩ := h
  obtain ⟨words, hwords, hcount, hsize, hrecovered⟩ := exists_words hargs
  refine ⟨f, words, hf, ?_, length_selector f, hcount, hsize, hrecovered⟩
  have hencode : f.encode c.args = .ok (f.selector ++ words.flatten) := by
    simp only [Function.encode, hwords]
  rw [Call.calldata, hf]
  exact congrArg (Except.mapError _) hencode

theorem calldata_of_fits (h : c.Fits) : ∃ data, c.calldata = .ok data := by
  obtain ⟨f, words, hencoded⟩ := encoded_of_fits h
  exact ⟨_, hencoded.calldata⟩

theorem accepts_of_decodeOutput {f : Function} {data : List UInt8}
    (hf : c.interface.function c.function = .ok f) (h : c.decodeOutput data = .ok tokens) :
    OfKinds f.outputs tokens := by
  simp only [Call.decodeOutput, hf, Except.bind, Function.decode] at h
  split at h
  · cases h
  · cases hdecoded : decodeAll f.outputs data with
    | none =>
        rw [hdecoded] at h
        cases h
    | some results =>
        rw [hdecoded] at h
        obtain rfl := Except.ok.inj h
        exact accepts_of_decodeAll hdecoded

/-- A declared result is among the results that could be read, and is of its kind. -/
theorem exists_result {data : List UInt8} {kinds : List Kind} {i : Nat}
    (h : c.decodeOutput data = .ok tokens) (hi : c.Declares kinds i) :
    ∃ kind ∈ kinds, ∃ token, tokens[i]? = some token ∧ kind.accepts token = true := by
  obtain ⟨f, hf, kind, hkind, houtput⟩ := hi
  obtain ⟨hlength, haccepts⟩ := List.forall₂_iff_get.mp (accepts_of_decodeOutput hf h)
  obtain ⟨hi, hget⟩ := List.getElem?_eq_some_iff.mp houtput
  refine ⟨kind, hkind, tokens.get ⟨i, hlength ▸ hi⟩, List.getElem?_eq_getElem _, ?_⟩
  have hat := haccepts i hi (hlength ▸ hi)
  rwa [List.get_eq_getElem, hget] at hat

/-- Bytes that can be read as results give every result that is declared. -/
theorem readable_of_decodeOutput {data : List UInt8} (h : c.decodeOutput data = .ok tokens) :
    c.Readable tokens where
  uints i hi := by
    obtain ⟨kind, hkind, token, htoken, haccepts⟩ := exists_result h hi
    have huint : ∃ value, token = .uint value := by
      simp only [List.mem_cons, List.not_mem_nil, or_false] at hkind
      rcases hkind with rfl | rfl <;> cases token <;> first | exact ⟨_, rfl⟩ | cases haccepts
    obtain ⟨value, rfl⟩ := huint
    exact ⟨value, by simp only [uintAt, htoken, Option.bind_some, Token.uint?]⟩
  addresses i hi := by
    obtain ⟨kind, hkind, token, htoken, haccepts⟩ := exists_result h hi
    obtain rfl := List.mem_singleton.mp hkind
    have haddress : ∃ value, token = .address value := by
      cases token <;> first | exact ⟨_, rfl⟩ | cases haccepts
    obtain ⟨value, rfl⟩ := haddress
    exact ⟨value, by simp only [addressAt, htoken, Option.bind_some, Token.address?]⟩

end Contract

end StakingGateway
