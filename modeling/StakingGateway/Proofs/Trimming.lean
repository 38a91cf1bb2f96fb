import Mathlib.Data.List.Basic
import Mathlib.Data.List.DropRight
import StakingGateway.Text.Blank

/-!
# Texts between blanks and separators

Trimming and splitting are fixed by what they leave. A trimmed text stands between blanks and has
none at its own ends, and there is only one such text; a split text has its first separator between
its two parts.
-/

namespace StakingGateway.Text

/-- `cs` is `body` with blanks around it, and `body` neither begins nor ends with a blank. -/
structure Trims (cs body : List Char) : Prop where
  around : ∃ front back, cs = front ++ (body ++ back) ∧ (∀ c ∈ front, isBlank c = true) ∧
    ∀ c ∈ back, isBlank c = true
  head : ∀ c ∈ body.head?, isBlank c = false
  last : ∀ c ∈ body.getLast?, isBlank c = false

variable {cs body front rest : List Char} {p : Char → Bool}

theorem not_of_mem_head?_dropWhile {c : Char} (h : c ∈ (cs.dropWhile p).head?) : p c = false := by
  have hhead := List.head?_dropWhile_not p cs
  rw [Option.mem_def.mp h] at hhead
  exact hhead

/-- What is dropped at the end is a stretch of characters that satisfy `p`. -/
theorem dropEndWhile_append (p : Char → Bool) (cs : List Char) :
    ∃ back, cs = dropEndWhile p cs ++ back ∧ ∀ c ∈ back, p c = true :=
  ⟨cs.rtakeWhile p, List.rdropWhile_append_rtakeWhile.symm,
    fun _ hc => List.mem_rtakeWhile_imp hc⟩

theorem not_of_mem_getLast?_dropEndWhile {c : Char} (h : c ∈ (dropEndWhile p cs).getLast?) :
    p c = false := by
  obtain ⟨hne, rfl⟩ := List.mem_getLast?_eq_getLast h
  exact eq_false_of_ne_true (List.rdropWhile_last_not p cs hne)

theorem trims_trimChars (cs : List Char) : Trims cs (trimChars cs) where
  around := by
    obtain ⟨back, hsplit, hback⟩ := dropEndWhile_append isBlank (dropBlanks cs)
    refine ⟨cs.takeWhile isBlank, back, ?_, fun _ hc => List.mem_takeWhile_imp hc, hback⟩
    rw [trimChars, ← hsplit]
    exact List.takeWhile_append_dropWhile.symm
  head c hc := by
    obtain ⟨back, hsplit, -⟩ := dropEndWhile_append isBlank (dropBlanks cs)
    have hmem : c ∈ (trimChars cs ++ back).head? := List.mem_head?_append_of_mem_head? hc
    rw [trimChars, ← hsplit] at hmem
    exact not_of_mem_head?_dropWhile hmem
  last _ hc := not_of_mem_getLast?_dropEndWhile hc

theorem dropWhile_append_of_head (hfront : ∀ c ∈ front, p c = true)
    (hrest : ∀ c ∈ rest.head?, p c = false) : (front ++ rest).dropWhile p = rest := by
  rw [List.dropWhile_append_of_pos hfront]
  cases rest with
  | nil => rfl
  | cons c rest =>
      rw [List.dropWhile_cons_of_neg]
      simp [hrest c (by simp)]

theorem dropEndWhile_append_of_last (hback : ∀ c ∈ front, p c = true)
    (hrest : ∀ c ∈ rest.getLast?, p c = false) : dropEndWhile p (rest ++ front) = rest := by
  rw [dropEndWhile, List.reverse_append, dropWhile_append_of_head, List.reverse_reverse]
  · simpa using hback
  · simpa using hrest

theorem dropWhile_append_cons {c : Char} (hc : p c = false) :
    (front ++ c :: rest).dropWhile p = front.dropWhile p ++ c :: rest := by
  rw [List.dropWhile_append, List.dropWhile_cons_of_neg (by simp [hc])]
  split_ifs with hempty
  · rw [List.isEmpty_iff.mp hempty, List.nil_append]
  · rfl

theorem dropEndWhile_append_cons {c : Char} (hc : p c = false) :
    dropEndWhile p (front ++ c :: rest) = front ++ c :: dropEndWhile p rest := by
  simp only [dropEndWhile, List.reverse_append, List.reverse_cons, List.append_assoc,
    List.singleton_append, dropWhile_append_cons hc, List.reverse_reverse]

/-- Only what stands outside two characters that are no blanks can be trimmed. -/
theorem trimChars_between {back : List Char} {x y : Char} (hx : isBlank x = false)
    (hy : isBlank y = false) (between : List Char) :
    trimChars (front ++ x :: (between ++ y :: back)) =
      dropBlanks front ++ x :: (between ++ y :: dropEndWhile isBlank back) := by
  rw [trimChars, dropBlanks, dropWhile_append_cons hx, ← dropBlanks, ← List.cons_append,
    ← List.append_assoc, dropEndWhile_append_cons hy, List.append_assoc, List.cons_append]

theorem trimChars_eq_iff : trimChars cs = body ↔ Trims cs body := by
  constructor
  · rintro rfl
    exact trims_trimChars cs
  · rintro ⟨⟨front, back, rfl, hfront, hback⟩, hhead, hlast⟩
    cases body with
    | nil =>
        have hblank : ∀ c ∈ front ++ ([] ++ back), isBlank c = true := by
          simpa using fun c hc => hc.elim (hfront c) (hback c)
        rw [trimChars, dropBlanks, List.dropWhile_eq_nil_iff.mpr hblank]
        rfl
    | cons c rest =>
        have hbody : ∀ other ∈ (c :: rest ++ back).head?, isBlank other = false := by
          simpa using hhead c (by simp)
        rw [trimChars, dropBlanks, dropWhile_append_of_head hfront hbody]
        exact dropEndWhile_append_of_last hback hlast

theorem trims_self (h : ∀ c ∈ cs, isBlank c = false) : Trims cs cs where
  around := ⟨[], [], by simp, by simp, by simp⟩
  head c hc := h c (List.mem_of_mem_head? hc)
  last c hc := h c (List.mem_of_mem_getLast? hc)

/-! ## Splitting -/

theorem splitFirst_of_forall (h : ∀ c ∈ cs, p c = false) : splitFirst p cs = (cs, none) := by
  have hdrop : cs.dropWhile (fun c => !p c) = [] :=
    List.dropWhile_eq_nil_iff.mpr fun c hc => by simp [h c hc]
  rw [splitFirst, hdrop]

theorem splitFirst_append_cons {c : Char} (hfront : ∀ c ∈ front, p c = false) (hc : p c = true) :
    splitFirst p (front ++ c :: rest) = (front, some rest) := by
  have hnot : ∀ c ∈ front, (!p c) = true := fun c hmem => by simp [hfront c hmem]
  have hdrop : (front ++ c :: rest).dropWhile (fun c => !p c) = c :: rest :=
    dropWhile_append_of_head hnot (by simp [hc])
  have htake : (front ++ c :: rest).takeWhile (fun c => !p c) = front := by
    rw [List.takeWhile_append_of_pos hnot]
    simp [hc]
  simp only [splitFirst, hdrop, htake]

/-- The text is what is before the first separator, alone or with the rest behind a separator. -/
theorem splitFirst_cases (p : Char → Bool) (cs : List Char) :
    splitFirst p cs = (cs, none) ∨
      ∃ front c rest, cs = front ++ c :: rest ∧ p c = true ∧
        splitFirst p cs = (front, some rest) := by
  cases hdrop : cs.dropWhile (fun c => !p c) with
  | nil => exact Or.inl (by rw [splitFirst, hdrop])
  | cons c rest =>
      refine Or.inr ⟨cs.takeWhile fun c => !p c, c, rest, ?_, ?_, by simp only [splitFirst, hdrop]⟩
      · rw [← hdrop, List.takeWhile_append_dropWhile]
      · have hmem : c ∈ (cs.dropWhile fun c => !p c).head? := by simp [hdrop]
        simpa using not_of_mem_head?_dropWhile hmem

end StakingGateway.Text
