import StakingGateway.Proofs.NetworkNames

/-!
# Spellings of one network

The plain name of an identifier does not change when the identifier is spelled in another way. A run
of separators may change its length and its characters only where it stands between two characters
that are no blanks, for trimming takes blanks at the ends of a text, and leaves hyphens there.
-/

namespace StakingGateway.Network

open Text

structure IsRun (run : List Char) : Prop where
  ne_nil : run ≠ []
  separators : ∀ c ∈ run, c = '-' ∨ c = '_' ∨ c = ' '

/-- Both texts are spellings of one name: any number of changes leads from one to the other, and
each change is of outer blanks, of the case of letters of ASCII or of one inner run. -/
inductive Respelling : List Char → List Char → Prop where
  | blanks (cs front back : List Char) (hfront : ∀ c ∈ front, isBlank c = true)
      (hback : ∀ c ∈ back, isBlank c = true) : Respelling cs (front ++ (cs ++ back))
  | letterCase {cs ds : List Char} (h : cs.map Char.toLower = ds.map Char.toLower) :
      Respelling cs ds
  | separators (front back : List Char) {x y : Char} (hx : isBlank x = false)
      (hy : isBlank y = false) {run other : List Char} (hrun : IsRun run) (hother : IsRun other) :
      Respelling (front ++ x :: (run ++ y :: back)) (front ++ x :: (other ++ y :: back))
  | symm {cs ds : List Char} (h : Respelling cs ds) : Respelling ds cs
  | trans {cs ds es : List Char} (h : Respelling cs ds) (h' : Respelling ds es) : Respelling cs es

variable {cs front back run : List Char}

/-! ## Outer blanks -/

theorem trimChars_append_blanks (hfront : ∀ c ∈ front, isBlank c = true)
    (hback : ∀ c ∈ back, isBlank c = true) : trimChars (front ++ (cs ++ back)) = trimChars cs := by
  obtain ⟨⟨front', back', hcs, hfront', hback'⟩, hhead, hlast⟩ := trims_trimChars cs
  refine trimChars_eq_iff.mpr ⟨⟨front ++ front', back' ++ back, ?_, ?_, ?_⟩, hhead, hlast⟩
  · conv_lhs => rw [hcs]
    simp only [List.append_assoc]
  · exact List.forall_mem_append.mpr ⟨hfront, hfront'⟩
  · exact List.forall_mem_append.mpr ⟨hback', hback⟩

/-! ## Letters -/

theorem trimChars_map_toLower (cs : List Char) :
    trimChars (cs.map Char.toLower) = (trimChars cs).map Char.toLower := by
  have hblank : isBlank ∘ Char.toLower = isBlank := funext isBlank_toLower
  rw [trimChars, dropBlanks, dropEndWhile, List.dropWhile_map, hblank, ← List.map_reverse,
    List.dropWhile_map, hblank, ← List.map_reverse, trimChars, dropEndWhile, dropBlanks]

theorem plainChars_map_toLower (cs : List Char) :
    plainChars (cs.map Char.toLower) = plainChars cs := by
  rw [plainChars, trimChars_map_toLower, lowercaseChars_map_toLower, plainChars]

/-! ## Inner runs -/

/-- No letter is looked for across a separator. -/
theorem IsRun.divides (h : IsRun run) : ∀ c ∈ run, Divides c := by
  intro c hc
  rcases h.separators c hc with rfl | rfl | rfl <;>
    exact ⟨by decide +kernel, by decide +kernel, by decide +kernel⟩

theorem IsRun.map_asSeparator (h : IsRun run) :
    run.map asSeparator = List.replicate run.length '-' := by
  rw [List.eq_replicate_iff]
  refine ⟨List.length_map _, fun c hc => ?_⟩
  obtain ⟨d, hd, rfl⟩ := List.mem_map.mp hc
  rcases h.separators d hd with rfl | rfl | rfl <;> rfl

theorem collapse_replicate (count : Nat) (cs : List Char) :
    collapse (List.replicate (count + 1) '-' ++ cs) = collapse ('-' :: cs) := by
  induction count with
  | zero => rfl
  | succ count ih =>
      rw [List.replicate_succ, List.replicate_succ, List.cons_append, List.cons_append,
        collapse_hyphens, ← List.cons_append, ← List.replicate_succ, ih]

theorem collapse_append_congr {ds es : List Char} (h : collapse ds = collapse es) (cs : List Char) :
    collapse (cs ++ ds) = collapse (cs ++ es) := by
  rw [collapse, collapse, List.foldr_append, List.foldr_append, ← collapse, ← collapse, h]

/-- A run leaves one hyphen, whichever it is. -/
theorem collapse_append_run (h : IsRun run) (cs ds : List Char) :
    collapse (cs ++ (run.map asSeparator ++ ds)) = collapse (cs ++ '-' :: ds) := by
  have hlength : run.length - 1 + 1 = run.length :=
    Nat.succ_pred_eq_of_pos (List.length_pos_iff.mpr h.ne_nil)
  apply collapse_append_congr
  rw [h.map_asSeparator, ← hlength, collapse_replicate]

/-- Only the two sides of a run are left in the plain name. -/
theorem plainChars_between {x y : Char} (hx : isBlank x = false) (hy : isBlank y = false)
    (hrun : IsRun run) :
    plainChars (front ++ x :: (run ++ y :: back)) =
      collapse ((lowercaseChars (dropBlanks front ++ [x])).map asSeparator ++
        '-' :: (lowercaseChars (y :: dropEndWhile isBlank back)).map asSeparator) := by
  rw [plainChars, trimChars_between hx hy, List.append_cons,
    lowercaseChars_append_append hrun.ne_nil hrun.divides, List.map_append, List.map_append,
    collapse_append_run hrun]

/-! ## Spellings -/

theorem Respelling.plainChars_eq {cs ds : List Char} (h : Respelling cs ds) :
    plainChars cs = plainChars ds := by
  induction h with
  | blanks cs front back hfront hback =>
      rw [plainChars, plainChars, trimChars_append_blanks hfront hback]
  | letterCase h => rw [← plainChars_map_toLower, h, plainChars_map_toLower]
  | separators front back hx hy hrun hother =>
      rw [plainChars_between hx hy hrun, plainChars_between hx hy hother]
  | symm _ ih => exact ih.symm
  | trans _ _ ih ih' => exact ih.trans ih'

/-- Spellings of one name name the same network, or none of them names one. -/
theorem respellings_agree {identifier other : String}
    (h : Respelling identifier.toList other.toList) : resolve? identifier = resolve? other := by
  rw [resolve?, normalForm_congr h.plainChars_eq, resolve?]

/-- Outer blanks, letters and an inner run at once. -/
theorem respellings_agree_arbitrum :
    Respelling " Arbitrum_-One".toList "aRBITRUM one\t".toList ∧
      resolve? " Arbitrum_-One" = some arbitrum ∧ resolve? "aRBITRUM one\t" = some arbitrum := by
  have hblanks : Respelling "Arbitrum_-One".toList " Arbitrum_-One".toList :=
    .blanks _ [' '] [] (List.forall_mem_singleton.mpr rfl) (List.forall_mem_nil _)
  have hletters : Respelling "Arbitrum_-One".toList "aRBITRUM_-one".toList :=
    .letterCase (by decide)
  have hmixed : IsRun ['_', '-'] := ⟨by simp, by simp⟩
  have hsingle : IsRun [' '] := ⟨by simp, by simp⟩
  have hrun : Respelling "aRBITRUM_-one".toList "aRBITRUM one".toList :=
    .separators ['a', 'R', 'B', 'I', 'T', 'R', 'U'] ['n', 'e'] (x := 'M') (y := 'o') (by decide)
      (by decide) hmixed hsingle
  have hbehind : Respelling "aRBITRUM one".toList "aRBITRUM one\t".toList :=
    .blanks _ [] ['\t'] (List.forall_mem_nil _) (List.forall_mem_singleton.mpr rfl)
  have hspelled := hblanks.symm.trans (hletters.trans (hrun.trans hbehind))
  have hnamed : resolve? " Arbitrum_-One" = some arbitrum := by decide +kernel
  exact ⟨hspelled, hnamed, respellings_agree hspelled ▸ hnamed⟩

end StakingGateway.Network
