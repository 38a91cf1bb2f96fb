import Mathlib.Data.List.Basic
import Mathlib.Tactic.SplitIfs
import StakingGateway.Text.Blank
import StakingGateway.Text.Lowercase

/-!
# Lower case

A lower-case text is its own lower case. For single characters this is a fact about the table: no
lower case in it has another one, and none is a blank. In a text only a capital sigma looks at what
stands around it, and there at no more than which kind of character comes first on either side.
-/

namespace StakingGateway.Text

/-! ## The table -/

/-- The lower cases of a row have places that the characters of another row do not have: the two
ranges do not meet, or their characters alternate. -/
def CaseRow.avoids (row other : CaseRow) : Bool :=
  let first := (row.first + row.shift).toNat
  let last := (row.last + row.shift).toNat
  Nat.blt last other.first || Nat.blt other.last first ||
    (other.step == 2 && (row.step == 2 || row.first == row.last) && (first + other.first) % 2 == 1)

theorem CaseRow.contains_eq_false_of_avoids {row other : CaseRow} (h : row.avoids other = true)
    (hshift : 0 ≤ row.first + row.shift) {n : Nat} (hn : row.contains n = true) :
    other.contains (n + row.shift).toNat = false := by
  simp only [contains, Bool.and_eq_true, decide_eq_true_eq, beq_iff_eq] at hn
  obtain ⟨⟨hfirst, hlast⟩, hstep⟩ := hn
  simp only [avoids, Bool.or_eq_true, Bool.and_eq_true, beq_iff_eq, Nat.blt_eq] at h
  rw [← Bool.not_eq_true, contains, Bool.and_eq_true, Bool.and_eq_true, decide_eq_true_eq,
    decide_eq_true_eq, beq_iff_eq]
  rintro ⟨⟨hother, hend⟩, hplace⟩
  rcases h with (hbefore | hbehind) | ⟨⟨heven, halternate⟩, hodd⟩
  · omega
  · omega
  · rw [heven] at hplace
    rcases halternate with htwo | hsingle
    · rw [htwo] at hstep
      omega
    · omega

def blankRows : List CaseRow := CaseRow.ofEntries [
  9, 13, 1, 0, 0x20, 0x20, 1, 0, 0x85, 0x85, 1, 0, 0xA0, 0xA0, 1, 0, 0x1680, 0x1680, 1, 0,
  0x2000, 0x200A, 1, 0, 0x2028, 0x2029, 1, 0, 0x202F, 0x202F, 1, 0, 0x205F, 0x205F, 1, 0,
  0x3000, 0x3000, 1, 0]

theorem exists_blankRow {c : Char} (h : isBlank c = true) :
    ∃ row ∈ blankRows, row.contains c.toNat = true := by
  simp only [isBlank, Bool.or_eq_true, Bool.and_eq_true, decide_eq_true_eq, beq_iff_eq] at h
  simp only [blankRows, CaseRow.ofEntries, CaseRow.contains, Int.reduceToNat, Nat.mod_one,
    List.mem_cons, List.not_mem_nil, or_false, exists_eq_or_imp, exists_eq_left, Bool.and_eq_true,
    decide_eq_true_eq, beq_self_eq_true, and_true]
  omega

/-- The characters that no lower case in the table is: those that have one themselves, the dotted
capital I, and the blanks. -/
def avoidedRows : List CaseRow :=
  caseRows ++ ⟨dottedCapitalI.toNat, dottedCapitalI.toNat, 1, 0⟩ :: blankRows

theorem caseRows_avoid : (caseRows.all fun row => avoidedRows.all row.avoids) = true := by
  decide +kernel

theorem shift_nonneg : ∀ row ∈ caseRows, 0 ≤ row.first + row.shift := by decide +kernel

/-! ## Characters -/

variable {c d : Char}

/-- The character stands for itself in lower case, wherever it is. -/
structure IsLower (c : Char) : Prop where
  lower : lowerChar c = [c]
  ne_sigma : c ≠ capitalSigma

instance (c : Char) : Decidable (IsLower c) :=
  decidable_of_iff (lowerChar c = [c] ∧ c ≠ capitalSigma)
    ⟨fun h => ⟨h.1, h.2⟩, fun h => ⟨h.lower, h.ne_sigma⟩⟩

/-- What no row has is its own lower case and no blank. -/
theorem isLower_of_avoided (h : ∀ row ∈ avoidedRows, row.contains c.toNat = false) :
    IsLower c ∧ isBlank c = false := by
  have hrows : ∀ row ∈ caseRows, row.contains c.toNat = false := fun row hrow =>
    h row (List.mem_append_left _ hrow)
  have hsigma : c ≠ capitalSigma := by
    rintro rfl
    revert hrows
    decide +kernel
  have hblank : isBlank c = false := by
    rw [← Bool.not_eq_true]
    intro hblank
    obtain ⟨row, hrow, hcontains⟩ := exists_blankRow hblank
    rw [h row (List.mem_append_right _ (List.mem_cons_of_mem _ hrow))] at hcontains
    cases hcontains
  refine ⟨⟨?_, hsigma⟩, hblank⟩
  unfold lowerChar
  split_ifs with hascii hupper hdotted
  · -- The capital letters of ASCII are a row as well.
    have hletters := hrows ⟨65, 90, 1, 32⟩ (by decide +kernel)
    rw [Bool.and_eq_true, decide_eq_true_eq, decide_eq_true_eq] at hupper
    simp [CaseRow.contains, Char.le_def, UInt32.le_iff_toNat_le, Nat.mod_one] at hletters hupper
    omega
  · rfl
  · subst hdotted
    have hdotted := h _ (List.mem_append_right caseRows List.mem_cons_self)
    revert hdotted
    decide +kernel
  · have hnone : caseRows.find? (·.contains c.toNat) = none :=
      List.find?_eq_none.mpr fun row hrow => by simp [hrows row hrow]
    rw [hnone]

theorem isLower_ofNat_of_avoided {n : Nat} (h : ∀ row ∈ avoidedRows, row.contains n = false) :
    IsLower (Char.ofNat n) ∧ isBlank (Char.ofNat n) = false := by
  apply isLower_of_avoided
  by_cases hvalid : n.isValidChar
  · rw [Char.ofNat, dif_pos hvalid]
    exact h
  · rw [Char.ofNat, dif_neg hvalid]
    decide +kernel

/-- The lower case of a character of ASCII is one of ASCII, and its own lower case. -/
theorem isLower_of_ascii : ∀ n < 128, ((lowerChar (Char.ofNat n)).all fun d =>
    IsLower d ∧ (isBlank (Char.ofNat n) = false → isBlank d = false)) = true := by
  decide +kernel

/-- A lower case is its own lower case, and only of a blank it is a blank. -/
theorem isLower_of_mem_lowerChar (h : d ∈ lowerChar c) :
    IsLower d ∧ (isBlank c = false → isBlank d = false) := by
  by_cases hascii : c.toNat < 128
  · rw [← Char.ofNat_toNat c] at h ⊢
    exact of_decide_eq_true (List.all_eq_true.mp (isLower_of_ascii c.toNat hascii) d h)
  by_cases hdotted : c = dottedCapitalI
  · subst hdotted
    have hall : ((lowerChar dottedCapitalI).all fun d => IsLower d ∧ isBlank d = false) = true := by
      decide +kernel
    obtain ⟨hlower, hblank⟩ := of_decide_eq_true (List.all_eq_true.mp hall d h)
    exact ⟨hlower, fun _ => hblank⟩
  rw [lowerChar, if_neg hascii, if_neg hdotted] at h
  cases hfind : caseRows.find? (·.contains c.toNat) with
  | none =>
      rw [hfind] at h
      obtain rfl := List.mem_singleton.mp h
      refine ⟨⟨?_, ?_⟩, id⟩
      · rw [lowerChar, if_neg hascii, if_neg hdotted, hfind]
      · rintro rfl
        revert hfind
        decide +kernel
  | some row =>
      rw [hfind] at h
      obtain rfl := List.mem_singleton.mp h
      have hrow := List.mem_of_find?_eq_some hfind
      have hcontains : row.contains c.toNat = true := by simpa using List.find?_some hfind
      have havoids := List.all_eq_true.mp caseRows_avoid row hrow
      obtain ⟨hlower, hblank⟩ := isLower_ofNat_of_avoided fun other hother =>
        CaseRow.contains_eq_false_of_avoids (List.all_eq_true.mp havoids other hother)
          (shift_nonneg row hrow) hcontains
      exact ⟨hlower, fun _ => hblank⟩

/-! ## Characters in a text -/

def casedFirst (c : Char) (rest : Bool) : Bool :=
  if isCaseIgnorable c then rest else isCased c

theorem casedComesFirst_eq (cs : List Char) : casedComesFirst cs = cs.foldr casedFirst false := by
  induction cs with
  | nil => rfl
  | cons c cs ih =>
      rw [List.foldr_cons, ← ih, casedFirst, casedComesFirst]
      by_cases hpassed : isCaseIgnorable c = true
      · rw [List.dropWhile_cons_of_pos hpassed, if_pos hpassed]
        rfl
      · rw [List.dropWhile_cons_of_neg hpassed, if_neg hpassed]

/-- The lower case of a character, by what comes first on either side of it. -/
def lowerAt (before after : Bool) (c : Char) : List Char :=
  if c = capitalSigma then
    if before && !after then [finalSigma] else [smallSigma]
  else lowerChar c

def lowerWithin (before after : Bool) : List Char → List Char
  | [] => []
  | c :: rest =>
    lowerAt before (rest.foldr casedFirst after) c ++ lowerWithin (casedFirst c before) after rest

variable {before after : Bool} {cs ds : List Char}

theorem lowerAfter_eq (front cs : List Char) :
    lowerAfter front cs = lowerWithin (casedComesFirst front) false cs := by
  induction cs generalizing front with
  | nil => rfl
  | cons c cs ih =>
      rw [lowerAfter, lowerWithin, ih, lowerAt, ← casedComesFirst_eq cs,
        casedComesFirst_eq (c :: front), List.foldr_cons, ← casedComesFirst_eq front]

theorem lowercaseChars_eq (cs : List Char) : lowercaseChars cs = lowerWithin false false cs :=
  lowerAfter_eq [] cs

theorem lowerWithin_append (before after : Bool) (cs ds : List Char) :
    lowerWithin before after (cs ++ ds) =
      lowerWithin before (ds.foldr casedFirst after) cs ++
        lowerWithin (cs.foldl (fun rest c => casedFirst c rest) before) after ds := by
  induction cs generalizing before with
  | nil => rfl
  | cons c cs ih =>
      rw [List.cons_append, lowerWithin, lowerWithin, ih, List.foldr_append, List.append_assoc,
        List.foldl_cons]

theorem isLower_of_mem_lowerAt (h : d ∈ lowerAt before after c) :
    IsLower d ∧ (isBlank c = false → isBlank d = false) := by
  have hfinal : IsLower finalSigma ∧ isBlank finalSigma = false := by decide +kernel
  have hsmall : IsLower smallSigma ∧ isBlank smallSigma = false := by decide +kernel
  unfold lowerAt at h
  split_ifs at h
  · rw [List.mem_singleton.mp h]
    exact ⟨hfinal.1, fun _ => hfinal.2⟩
  · rw [List.mem_singleton.mp h]
    exact ⟨hsmall.1, fun _ => hsmall.2⟩
  · exact isLower_of_mem_lowerChar h

theorem lowerAt_ne_nil : lowerAt before after c ≠ [] := by
  unfold lowerAt lowerChar
  split_ifs <;> try exact List.cons_ne_nil _ _
  cases caseRows.find? (·.contains c.toNat) <;> exact List.cons_ne_nil _ _

theorem isLower_of_mem_lowerWithin (h : d ∈ lowerWithin before after cs) : IsLower d := by
  induction cs generalizing before with
  | nil => cases h
  | cons c cs ih =>
      rw [lowerWithin] at h
      rcases List.mem_append.mp h with hmem | hmem
      · exact (isLower_of_mem_lowerAt hmem).1
      · exact ih hmem

theorem isLower_of_mem_lowercaseChars (h : d ∈ lowercaseChars cs) : IsLower d := by
  rw [lowercaseChars_eq] at h
  exact isLower_of_mem_lowerWithin h

theorem lowerWithin_of_isLower (h : ∀ c ∈ cs, IsLower c) : lowerWithin before after cs = cs := by
  induction cs generalizing before with
  | nil => rfl
  | cons c cs ih =>
      obtain ⟨hc, hcs⟩ := List.forall_mem_cons.mp h
      rw [lowerWithin, lowerAt, if_neg hc.ne_sigma, hc.lower, ih hcs, List.singleton_append]

theorem lowercaseChars_of_isLower (h : ∀ c ∈ cs, IsLower c) : lowercaseChars cs = cs := by
  rw [lowercaseChars_eq, lowerWithin_of_isLower h]

/-- The lower case begins and ends with a blank only if the text does. -/
theorem isBlank_of_mem_head?_lowercaseChars (h : ∀ c ∈ cs.head?, isBlank c = false)
    (hd : d ∈ (lowercaseChars cs).head?) : isBlank d = false := by
  cases cs with
  | nil => cases hd
  | cons c cs =>
      rw [lowercaseChars_eq, lowerWithin, List.head?_append_of_ne_nil _ lowerAt_ne_nil] at hd
      exact (isLower_of_mem_lowerAt (List.mem_of_mem_head? hd)).2 (h c rfl)

theorem isBlank_of_mem_getLast?_lowercaseChars (h : ∀ c ∈ cs.getLast?, isBlank c = false)
    (hd : d ∈ (lowercaseChars cs).getLast?) : isBlank d = false := by
  rcases List.eq_nil_or_concat cs with rfl | ⟨front, c, rfl⟩
  · cases hd
  · rw [List.concat_eq_append] at h hd
    rw [lowercaseChars_eq, lowerWithin_append, lowerWithin, lowerWithin, List.append_nil,
      List.getLast?_append_of_ne_nil _ lowerAt_ne_nil] at hd
    exact (isLower_of_mem_lowerAt (List.mem_of_mem_getLast? hd)).2 (h c (by simp))

/-! ## A run that no letter looks across -/

/-- A character of its own lower case at which the search for a cased letter ends without one. -/
structure Divides (c : Char) : Prop where
  lower : IsLower c
  ignorable : isCaseIgnorable c = false
  cased : isCased c = false

theorem Divides.casedFirst (h : Divides c) (rest : Bool) : casedFirst c rest = false := by
  rw [Text.casedFirst, h.ignorable, if_neg Bool.false_ne_true, h.cased]

theorem foldr_casedFirst_of_divides (hne : cs ≠ []) (h : ∀ c ∈ cs, Divides c) :
    cs.foldr casedFirst after = false := by
  cases cs with
  | nil => exact absurd rfl hne
  | cons c cs => exact (h c List.mem_cons_self).casedFirst _

theorem foldl_casedFirst_of_divides (hne : cs ≠ []) (h : ∀ c ∈ cs, Divides c) :
    cs.foldl (fun rest c => casedFirst c rest) before = false := by
  rw [← List.foldr_reverse]
  exact foldr_casedFirst_of_divides (by simpa using hne) fun c hc => h c (List.mem_reverse.mp hc)

/-- What stands on the two sides of such a run is put into lower case on its own. -/
theorem lowercaseChars_append_append {front run back : List Char} (hne : run ≠ [])
    (hrun : ∀ c ∈ run, Divides c) :
    lowercaseChars (front ++ (run ++ back)) =
      lowercaseChars front ++ (run ++ lowercaseChars back) := by
  rw [lowercaseChars_eq, lowercaseChars_eq, lowercaseChars_eq, lowerWithin_append,
    lowerWithin_append, List.foldr_append, foldr_casedFirst_of_divides hne hrun,
    foldl_casedFirst_of_divides hne hrun, lowerWithin_of_isLower fun c hc => (hrun c hc).lower]

/-! ## Letters of ASCII -/

theorem exists_capital (h : c.toLower ≠ c) : ∃ i < 26, c = Char.ofNat (65 + i) := by
  unfold Char.toLower at h
  split_ifs at h with hupper
  · have hrange : 65 ≤ c.toNat ∧ c.toNat ≤ 90 := hupper
    have hcode : 65 + (c.toNat - 65) = c.toNat := by omega
    exact ⟨c.toNat - 65, by omega, by rw [hcode, Char.ofNat_toNat]⟩
  · exact absurd rfl h

/-- No range of characters that are passed over holds a letter of ASCII. -/
theorem caseIgnorableRanges_avoid : (caseIgnorableRanges.all fun range =>
    Nat.blt range.last 65 || Nat.blt 122 range.first ||
      Nat.blt 90 range.first && Nat.blt range.last 97) = true := by
  decide +kernel

theorem isCaseIgnorable_of_letter (hfirst : 65 ≤ c.toNat) (hlast : c.toNat ≤ 122)
    (hletter : c.toNat ≤ 90 ∨ 97 ≤ c.toNat) : isCaseIgnorable c = false := by
  rw [isCaseIgnorable, memRanges, List.any_eq_false]
  intro range hrange hcontains
  have havoid := List.all_eq_true.mp caseIgnorableRanges_avoid range hrange
  simp only [Bool.or_eq_true, Bool.and_eq_true, Nat.blt_eq] at havoid
  simp only [CodeRange.contains, Bool.and_eq_true, decide_eq_true_eq] at hcontains
  omega

/-- Both forms of a letter have one lower case and play one part for their neighbours. -/
theorem capital_alike : ∀ i < 26, let c := Char.ofNat (65 + i)
    c.toNat = 65 + i ∧ c.toLower.toNat = 97 + i ∧ lowerChar c.toLower = lowerChar c ∧
      isCased c.toLower = isCased c ∧ isBlank c.toLower = isBlank c ∧
      c ≠ capitalSigma ∧ c.toLower ≠ capitalSigma := by
  decide +kernel

theorem isBlank_toLower (c : Char) : isBlank c.toLower = isBlank c := by
  by_cases hsame : c.toLower = c
  · rw [hsame]
  · obtain ⟨i, hi, rfl⟩ := exists_capital hsame
    obtain ⟨-, -, -, -, hblank, -⟩ := capital_alike i hi
    exact hblank

theorem casedFirst_toLower (c : Char) : casedFirst c.toLower = casedFirst c := by
  by_cases hsame : c.toLower = c
  · rw [hsame]
  · obtain ⟨i, hi, rfl⟩ := exists_capital hsame
    obtain ⟨hcapital, hsmall, -, hcased, -⟩ := capital_alike i hi
    have hpassed := isCaseIgnorable_of_letter (c := Char.ofNat (65 + i)) (by omega) (by omega)
      (by omega)
    have hpassed' := isCaseIgnorable_of_letter (c := (Char.ofNat (65 + i)).toLower) (by omega)
      (by omega) (by omega)
    funext rest
    rw [casedFirst, casedFirst, hpassed, hpassed', hcased]

theorem lowerAt_toLower (before after : Bool) (c : Char) :
    lowerAt before after c.toLower = lowerAt before after c := by
  by_cases hsame : c.toLower = c
  · rw [hsame]
  · obtain ⟨i, hi, rfl⟩ := exists_capital hsame
    obtain ⟨-, -, hlower, -, -, hne, hne'⟩ := capital_alike i hi
    rw [lowerAt, lowerAt, if_neg hne, if_neg hne', hlower]

theorem lowerWithin_map_toLower (before after : Bool) (cs : List Char) :
    lowerWithin before after (cs.map Char.toLower) = lowerWithin before after cs := by
  induction cs generalizing before with
  | nil => rfl
  | cons c cs ih =>
      have hrest : (cs.map Char.toLower).foldr casedFirst after = cs.foldr casedFirst after := by
        rw [List.foldr_map]
        simp only [casedFirst_toLower]
      rw [List.map_cons, lowerWithin, lowerWithin, ih, hrest, lowerAt_toLower, casedFirst_toLower]

/-- The lower case does not depend on the case of letters of ASCII. -/
theorem lowercaseChars_map_toLower (cs : List Char) :
    lowercaseChars (cs.map Char.toLower) = lowercaseChars cs := by
  rw [lowercaseChars_eq, lowercaseChars_eq, lowerWithin_map_toLower]

end StakingGateway.Text
