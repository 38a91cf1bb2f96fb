import Mathlib.Data.List.Induction
import Mathlib.Tactic.Ring
import StakingGateway.Address

/-!
# What hexadecimal digits spell

Two digits spell a byte by its halves, the high one first, and a letter may be small or capital.
Reading takes exactly the rows of digits that spell something. The number behind some bytes gives
back these bytes, so an address keeps the bytes that it was made of.
-/

namespace StakingGateway

namespace Bytes

/-- The digit stands for this half of a byte. -/
def StandsFor (c : Char) (n : Nat) : Prop :=
  n < 16 ∧ (c = n.digitChar ∨ c = n.digitChar.toUpper)

inductive Spells : List Char → List UInt8 → Prop
  | nil : Spells [] []
  | cons {hi lo : Char} {digits : List Char} {byte : UInt8} {bytes : List UInt8}
      (hhi : StandsFor hi (byte.toNat / 16)) (hlo : StandsFor lo (byte.toNat % 16))
      (hrest : Spells digits bytes) : Spells (hi :: lo :: digits) (byte :: bytes)

variable {c : Char} {n : Nat} {digits : List Char} {bytes : List UInt8}

def ofAscii (c : Char) : UInt8 := UInt8.ofNat c.toNat

/-- A byte is put together from its halves. -/
theorem ofNat_halves (b : UInt8) : UInt8.ofNat (b.toNat / 16 * 16 + b.toNat % 16) = b := by
  rw [Nat.div_add_mod', UInt8.ofNat_toNat]

theorem hexDigit_plain : ∀ n < 16,
    (hexDigit n).toNat < 128 ∧ hexDigit n ≠ '/' ∧ hexDigit n ≠ '?' ∧ hexDigit n ≠ '#' := by
  decide

theorem plain_of_mem_encodeByte {b : UInt8} (h : c ∈ encodeByte b) :
    c.toNat < 128 ∧ c ≠ '/' ∧ c ≠ '?' ∧ c ≠ '#' := by
  have hb : b.toNat < 256 := b.toNat_lt
  simp only [encodeByte, List.mem_cons, List.not_mem_nil, or_false] at h
  rcases h with rfl | rfl
  · exact hexDigit_plain _ (by omega)
  · exact hexDigit_plain _ (by omega)

theorem hexValue?_ofAscii : ∀ n < 16,
    hexValue? (Char.ofNat (ofAscii (hexDigit n)).toNat) = some n := by
  decide

theorem toNat_lt_of_hexValue? (h : hexValue? c = some n) : c.toNat < 103 := by
  unfold hexValue? at h
  simp only [Bool.and_eq_true, decide_eq_true_eq, Char.le_def] at h
  split_ifs at h with hdigit hsmall hcapital
  · exact Nat.lt_of_le_of_lt hdigit.2 (by decide)
  · exact Nat.lt_of_le_of_lt hsmall.2 (by decide)
  · exact Nat.lt_of_le_of_lt hcapital.2 (by decide)

theorem hexValue?_eq_some_iff : hexValue? c = some n ↔ StandsFor c n := by
  constructor
  · intro h
    -- All characters that have a value are among the first of the table.
    have hall : ∀ k < 103, ∀ n ∈ hexValue? (Char.ofNat k), n < 16 ∧
        (Char.ofNat k = n.digitChar ∨ Char.ofNat k = n.digitChar.toUpper) := by decide
    have hchar := hall c.toNat (toNat_lt_of_hexValue? h)
    rw [Char.ofNat_toNat] at hchar
    exact hchar n h
  · have hall : ∀ n < 16, hexValue? n.digitChar = some n ∧
        hexValue? n.digitChar.toUpper = some n := by decide
    rintro ⟨hlt, rfl | rfl⟩
    · exact (hall n hlt).1
    · exact (hall n hlt).2

theorem decodeHex_of_spells (h : Spells digits bytes) : decodeHex digits = some bytes := by
  induction h with
  | nil => rfl
  | @cons hi lo digits byte bytes hhi hlo _ ih =>
      rw [decodeHex, hexValue?_eq_some_iff.mpr hhi, hexValue?_eq_some_iff.mpr hlo, ih]
      exact congrArg (fun byte => some (byte :: bytes)) (ofNat_halves byte)

/-- An even number of digits spells some bytes. -/
theorem exists_spells (count : Nat) (hlength : digits.length = 2 * count)
    (hdigits : digits.all isHexDigit = true) :
    ∃ bytes, Spells digits bytes ∧ bytes.length = count := by
  induction count generalizing digits with
  | zero =>
      obtain rfl := List.length_eq_zero_iff.mp hlength
      exact ⟨[], .nil, rfl⟩
  | succ count ih =>
      match digits, hlength with
      | hi :: lo :: rest, hlength =>
          simp only [List.all_cons, Bool.and_eq_true] at hdigits
          obtain ⟨hhi, hlo, hall⟩ := hdigits
          obtain ⟨high, hhigh⟩ := Option.isSome_iff_exists.mp hhi
          obtain ⟨low, hlow⟩ := Option.isSome_iff_exists.mp hlo
          rw [hexValue?_eq_some_iff] at hhigh hlow
          have hrest : rest.length = 2 * count := by
            simp only [List.length_cons] at hlength
            omega
          obtain ⟨bytes, hspells, hcount⟩ := ih hrest hall
          have hbyte : (UInt8.ofNat (high * 16 + low)).toNat = high * 16 + low := by
            apply UInt8.toNat_ofNat_of_lt'
            have := hhigh.1
            have := hlow.1
            simp only [UInt8.size]
            omega
          refine ⟨UInt8.ofNat (high * 16 + low) :: bytes, .cons ?_ ?_ hspells, by simp [hcount]⟩
          · rw [hbyte]
            have hhalf : (high * 16 + low) / 16 = high := by
              have := hlow.1
              omega
            rwa [hhalf]
          · rw [hbyte]
            have hhalf : (high * 16 + low) % 16 = low := by
              have := hlow.1
              omega
            rwa [hhalf]

/-! ## Bytes and numbers -/

theorem toNat_append_singleton (bytes : List UInt8) (byte : UInt8) :
    toNat (bytes ++ [byte]) = toNat bytes * 256 + byte.toNat := by
  simp [toNat, List.foldl_append]

theorem toNat_lt (bytes : List UInt8) : toNat bytes < 256 ^ bytes.length := by
  induction bytes using List.reverseRecOn with
  | nil => decide
  | append_singleton bytes byte ih =>
      have hbyte := byte.toNat_lt
      calc toNat (bytes ++ [byte]) = toNat bytes * 256 + byte.toNat :=
            toNat_append_singleton bytes byte
        _ < toNat bytes * 256 + 256 := by omega
        _ = (toNat bytes + 1) * 256 := by ring
        _ ≤ 256 ^ bytes.length * 256 := Nat.mul_le_mul_right 256 ih
        _ = 256 ^ (bytes ++ [byte]).length := by
            rw [List.length_append, List.length_singleton, pow_succ]

theorem ofNat_succ (width n : Nat) :
    ofNat (width + 1) n = ofNat width (n / 256) ++ [UInt8.ofNat (n % 256)] := by
  simp only [ofNat, List.range_succ_eq_map, List.reverse_cons, List.map_append, List.map_reverse,
    List.map_map, List.map_cons, List.map_nil]
  refine congrArg₂ (· ++ ·) (congrArg List.reverse (List.map_congr_left fun i _ => ?_)) ?_
  · have hshift : n / 256 ^ (i + 1) = n / 256 / 256 ^ i := by
      rw [Nat.div_div_eq_div_mul, Nat.pow_succ']
    exact congrArg (fun high => UInt8.ofNat (high % 256)) hshift
  · simp

theorem ofNat_toNat (bytes : List UInt8) : ofNat bytes.length (toNat bytes) = bytes := by
  induction bytes using List.reverseRecOn with
  | nil => rfl
  | append_singleton bytes byte ih =>
      have hbyte := byte.toNat_lt
      have hfront : (toNat bytes * 256 + byte.toNat) / 256 = toNat bytes := by omega
      have hback : (toNat bytes * 256 + byte.toNat) % 256 = byte.toNat := by omega
      rw [List.length_append, List.length_singleton, ofNat_succ, toNat_append_singleton, hfront,
        hback, ih, UInt8.ofNat_toNat]

theorem isFiller_of_isHexDigit (h : isHexDigit c = true) : isFiller c = false := by
  by_contra hfiller
  simp only [isFiller, Bool.not_eq_false, Bool.or_eq_true, decide_eq_true_eq] at hfiller
  rcases hfiller with ((rfl | rfl) | rfl) | rfl <;> exact absurd h (by decide)

theorem filter_isFiller (h : digits.all isHexDigit = true) :
    digits.filter (!isFiller ·) = digits := by
  rw [List.filter_eq_self]
  intro c hc
  rw [isFiller_of_isHexDigit (List.all_eq_true.mp h c hc)]
  rfl

end Bytes

namespace Address

open Bytes

variable {text : String} {digits : List Char} {bytes : List UInt8}

theorem toBytes_ofBytes (h : bytes.length = 20) : (ofBytes bytes).toBytes = bytes := by
  have hlt : Bytes.toNat bytes < 2 ^ 160 := by
    have hbound := toNat_lt bytes
    rw [h] at hbound
    exact hbound
  rw [ofBytes, toBytes, Address.ofNat, BitVec.toNat_ofNat, Nat.mod_eq_of_lt hlt, ← h, ofNat_toNat]

/-- Forty digits behind the marker are read as the bytes that they spell. -/
theorem exists_ofText? (htext : text.toList = '0' :: 'x' :: digits) (hlength : digits.length = 40)
    (hdigits : digits.all isHexDigit = true) :
    ∃ a, ofText? text = some a ∧ Spells digits a.toBytes := by
  obtain ⟨bytes, hspells, hcount⟩ := exists_spells 20 hlength hdigits
  refine ⟨ofBytes bytes, ?_, by rwa [toBytes_ofBytes hcount]⟩
  simp only [ofText?, htext, filter_isFiller hdigits, decodeHex_of_spells hspells, hcount, if_true]

/-- A capital marker is no marker for reading, and its letter is no digit. -/
theorem ofText?_of_capital (htext : text.toList = '0' :: 'X' :: digits)
    (hdigits : digits.all isHexDigit = true) : ofText? text = none := by
  have hkept : ('0' :: 'X' :: digits).filter (!isFiller ·) = '0' :: 'X' :: digits := by
    rw [List.filter_cons_of_pos (by decide), List.filter_cons_of_pos (by decide),
      filter_isFiller hdigits]
  have hletter : hexValue? 'X' = none := by decide
  simp [ofText?, htext, hkept, decodeHex, hletter]

end Address

end StakingGateway
