import Mathlib.Data.List.Infix
import Mathlib.Logic.Function.Iterate
import StakingGateway.Proofs.LowerCase
import StakingGateway.Proofs.OpenedClients
import StakingGateway.Proofs.Trimming
import StakingGateway.Settings.Config

/-!
# The normal form of network names

A plain name has no outer blanks, is in lower case, and has single hyphens as its only separators.
Nothing is left to change in it, so the normal form of a normal form is the same text. The pairs of
hyphens may be replaced pass by pass: each pass shortens the text, so the passes come to an end, and
they end at the text in which every run is one hyphen.
-/

namespace StakingGateway.Network

open Text

variable {cs ds : List Char} {c : Char}

/-! ## Runs of hyphens -/

def HasPair (cs : List Char) : Prop := ['-', '-'] <:+: cs

theorem hasPair_cons : HasPair (c :: cs) ↔ (c = '-' ∧ cs.head? = some '-') ∨ HasPair cs := by
  rw [HasPair, List.infix_cons_iff]
  refine or_congr_left ?_
  cases cs <;> simp [eq_comm]

theorem not_hasPair_nil : ¬ HasPair [] := by simp [HasPair]

theorem collapse_cons (c : Char) (cs : List Char) :
    collapse (c :: cs) =
      if c = '-' && (collapse cs).head? = some '-' then collapse cs else c :: collapse cs := rfl

theorem head?_collapse (cs : List Char) : (collapse cs).head? = cs.head? := by
  cases cs with
  | nil => rfl
  | cons c cs =>
      rw [collapse_cons]
      split_ifs with hpair
      · simp only [Bool.and_eq_true, decide_eq_true_eq] at hpair
        rw [hpair.2, hpair.1, List.head?_cons]
      · rfl

theorem getLast?_collapse (cs : List Char) : (collapse cs).getLast? = cs.getLast? := by
  induction cs with
  | nil => rfl
  | cons c cs ih =>
      rw [collapse_cons]
      split_ifs with hpair
      · simp only [Bool.and_eq_true, decide_eq_true_eq, head?_collapse] at hpair
        obtain ⟨rest, rfl⟩ := List.head?_eq_some_iff.mp hpair.2
        rw [ih, List.getLast?_cons_cons]
      · rw [List.getLast?_cons, List.getLast?_cons, ih]

theorem mem_of_mem_collapse (h : c ∈ collapse cs) : c ∈ cs := by
  induction cs with
  | nil => exact h
  | cons d cs ih =>
      rw [collapse_cons] at h
      split_ifs at h
      · exact List.mem_cons_of_mem _ (ih h)
      · rcases List.mem_cons.mp h with rfl | hmem
        · exact List.mem_cons_self
        · exact List.mem_cons_of_mem _ (ih hmem)

theorem not_hasPair_collapse (cs : List Char) : ¬ HasPair (collapse cs) := by
  induction cs with
  | nil => exact not_hasPair_nil
  | cons c cs ih =>
      rw [collapse_cons]
      split_ifs with hpair
      · exact ih
      · rw [hasPair_cons]
        simpa [ih] using hpair

theorem collapse_of_not_hasPair (h : ¬ HasPair cs) : collapse cs = cs := by
  induction cs with
  | nil => rfl
  | cons c cs ih =>
      rw [hasPair_cons, not_or] at h
      rw [collapse_cons, ih h.2, if_neg]
      simpa using h.1

/-! ## Passes over pairs -/

/-- One pass, which replaces every pair of hyphens by one hyphen, from the left. -/
def replacePairs : List Char → List Char
  | '-' :: '-' :: rest => '-' :: replacePairs rest
  | c :: rest => c :: replacePairs rest
  | [] => []

theorem collapse_hyphens (cs : List Char) : collapse ('-' :: '-' :: cs) = collapse ('-' :: cs) := by
  rw [collapse_cons, if_pos]
  simp [head?_collapse]

theorem collapse_replacePairs (cs : List Char) : collapse (replacePairs cs) = collapse cs := by
  fun_induction replacePairs cs with
  | case1 rest ih => rw [collapse_hyphens, collapse_cons, ih, ← collapse_cons]
  | case2 c rest _ ih => rw [collapse_cons, ih, ← collapse_cons]
  | case3 => rfl

theorem length_replacePairs_le (cs : List Char) : (replacePairs cs).length ≤ cs.length := by
  fun_induction replacePairs cs with
  | case1 rest ih => simp only [List.length_cons]; omega
  | case2 c rest _ ih => simpa using ih
  | case3 => rfl

theorem length_replacePairs_lt (h : HasPair cs) : (replacePairs cs).length < cs.length := by
  fun_induction replacePairs cs with
  | case1 rest _ =>
      have hle := length_replacePairs_le rest
      simp only [List.length_cons]
      omega
  | case2 c rest hnot ih =>
      rcases hasPair_cons.mp h with ⟨hc, hhead⟩ | hrest
      · obtain ⟨more, hmore⟩ := List.head?_eq_some_iff.mp hhead
        exact absurd hmore (hnot more hc)
      · simpa using ih hrest
  | case3 => exact absurd h not_hasPair_nil

/-- Passes are made as long as there is a pair, so often that none is left, and then the result
stands. -/
structure Passes (count : Nat) (cs result : List Char) : Prop where
  goesOn : ∀ k < count, HasPair (replacePairs^[k] cs)
  stops : ¬ HasPair (replacePairs^[count] cs)
  result : replacePairs^[count] cs = result

/-- Each pass makes the text shorter, so the passes end. -/
theorem exists_passes (cs : List Char) : ∃ count, Passes count cs (collapse cs) := by
  induction hlength : cs.length using Nat.strong_induction_on generalizing cs with
  | _ length ih =>
      by_cases hpair : HasPair cs
      · obtain ⟨count, hpasses⟩ :=
          ih _ (hlength ▸ length_replacePairs_lt hpair) (replacePairs cs) rfl
        rw [collapse_replacePairs] at hpasses
        refine ⟨count + 1, fun k hk => ?_, hpasses.stops, hpasses.result⟩
        cases k with
        | zero => exact hpair
        | succ k => exact hpasses.goesOn k (Nat.lt_of_succ_lt_succ hk)
      · exact ⟨0, fun k hk => absurd hk (Nat.not_lt_zero k), hpair,
          (collapse_of_not_hasPair hpair).symm⟩

/-! ## Plain names -/

/-- The text as it stands before the runs of hyphens are made single. -/
def separated (cs : List Char) : List Char :=
  (lowercaseChars (trimChars cs)).map asSeparator

structure Plain (cs : List Char) : Prop where
  lower : ∀ c ∈ cs, IsLower c
  separator : ∀ c ∈ cs, asSeparator c = c
  head : ∀ c ∈ cs.head?, isBlank c = false
  last : ∀ c ∈ cs.getLast?, isBlank c = false
  single : ¬ HasPair cs

theorem asSeparator_cases (c : Char) : asSeparator c = '-' ∨ asSeparator c = c := by
  unfold asSeparator
  split_ifs
  · exact Or.inl rfl
  · exact Or.inr rfl

theorem asSeparator_asSeparator (c : Char) : asSeparator (asSeparator c) = asSeparator c := by
  rcases asSeparator_cases c with hhyphen | hsame
  · rw [hhyphen]
    rfl
  · rw [hsame, hsame]

theorem isBlank_asSeparator (h : isBlank c = false) : isBlank (asSeparator c) = false := by
  rcases asSeparator_cases c with hhyphen | hsame
  · rw [hhyphen]
    decide
  · rwa [hsame]

theorem isLower_hyphen : IsLower '-' := by decide +kernel

theorem isLower_asSeparator (h : IsLower c) : IsLower (asSeparator c) := by
  rcases asSeparator_cases c with hhyphen | hsame
  · rw [hhyphen]
    exact isLower_hyphen
  · rwa [hsame]

theorem plain_plainChars (cs : List Char) : Plain (plainChars cs) := by
  have htrims := trims_trimChars cs
  have horigin : ∀ c ∈ plainChars cs, ∃ d ∈ lowercaseChars (trimChars cs), asSeparator d = c :=
    fun c hc => List.mem_map.mp (mem_of_mem_collapse hc)
  refine ⟨fun c hc => ?_, fun c hc => ?_, fun c hc => ?_, fun c hc => ?_, not_hasPair_collapse _⟩
  · obtain ⟨d, hd, rfl⟩ := horigin c hc
    exact isLower_asSeparator (isLower_of_mem_lowercaseChars hd)
  · obtain ⟨d, -, rfl⟩ := horigin c hc
    exact asSeparator_asSeparator d
  · rw [plainChars, head?_collapse, List.head?_map] at hc
    obtain ⟨d, hd, rfl⟩ := Option.map_eq_some_iff.mp hc
    exact isBlank_asSeparator (isBlank_of_mem_head?_lowercaseChars htrims.head hd)
  · rw [plainChars, getLast?_collapse, List.getLast?_map] at hc
    obtain ⟨d, hd, rfl⟩ := Option.map_eq_some_iff.mp hc
    exact isBlank_asSeparator (isBlank_of_mem_getLast?_lowercaseChars htrims.last hd)

theorem Plain.plainChars_eq (h : Plain cs) : plainChars cs = cs := by
  have htrim : trimChars cs = cs :=
    trimChars_eq_iff.mpr ⟨⟨[], [], by simp, by simp, by simp⟩, h.head, h.last⟩
  have hmap : cs.map asSeparator = cs := (List.map_congr_left h.separator).trans (List.map_id' cs)
  rw [plainChars, htrim, lowercaseChars_of_isLower h.lower, hmap,
    collapse_of_not_hasPair h.single]

theorem plainChars_plainChars (cs : List Char) : plainChars (plainChars cs) = plainChars cs :=
  (plain_plainChars cs).plainChars_eq

/-! ## Normal forms -/

variable {identifier other : String} {network : Network}

theorem normalForm_name (network : Network) : normalForm network.name = network.name := by
  cases network <;> decide +kernel

theorem normalForm_congr (h : plainChars identifier.toList = plainChars other.toList) :
    normalForm identifier = normalForm other := by
  simp only [normalForm, h]

/-- The normal form is the name of a network, or the plain name. -/
theorem normalForm_cases (identifier : String) :
    (∃ network : Network, normalForm identifier = network.name) ∨
      normalForm identifier = String.ofList (plainChars identifier.toList) := by
  simp only [normalForm]
  generalize plainChars identifier.toList = plain
  cases aliases.lookup (String.ofList plain) with
  | some network => exact Or.inl ⟨network, rfl⟩
  | none =>
      cases ofChainText? plain with
      | some network => exact Or.inl ⟨network, rfl⟩
      | none => exact Or.inr rfl

theorem normalForm_normalForm (identifier : String) :
    normalForm (normalForm identifier) = normalForm identifier := by
  rcases normalForm_cases identifier with ⟨network, hname⟩ | hplain
  · rw [hname, normalForm_name]
  · have hsame : plainChars (normalForm identifier).toList = plainChars identifier.toList := by
      rw [hplain, String.toList_ofList, plainChars_plainChars]
    exact normalForm_congr hsame

theorem normalForm_of_resolve? (h : resolve? identifier = some network) :
    normalForm identifier = network.name := by
  simpa [eq_comm] using List.find?_some h

theorem resolve?_name (network : Network) : resolve? network.name = some network := by
  cases network <;> decide +kernel

theorem resolve?_chainId (network : Network) :
    resolve? (toString network.chainId) = some network := by
  cases network <;> decide +kernel

theorem readEntry_of_unresolved (h : resolve? identifier = none) (url : String) :
    Settings.readEntry (identifier, url) = .error (.unsupportedNetwork identifier) := by
  simp only [Settings.readEntry, h]

theorem openAccount_of_unresolved {m : Type → Type} (h : resolve? identifier = none)
    (chain : Chain m) (key : String) :
    chain.openAccount key identifier = .error (.unsupportedNetwork identifier) := by
  simp only [Chain.openAccount, Chain.openReader_of_unresolved h]

/-- The normal form is reached after finitely many passes and is its own normal form. An identifier
that names a network has the name of that network as its normal form, and the name and the chain
identifier name the network as well; one that names none is reported as it was given, wherever a
client is opened and where an endpoint is configured. -/
theorem normalForm_stable (identifier : String) :
    (∃ count, Passes count (separated identifier.toList) (plainChars identifier.toList)) ∧
    normalForm (normalForm identifier) = normalForm identifier ∧
    (∀ network, resolve? identifier = some network →
      normalForm identifier = network.name ∧ resolve? network.name = some network ∧
        resolve? (toString network.chainId) = some network) ∧
    (resolve? identifier = none →
      (∀ {m : Type → Type} (chain : Chain m),
        chain.openReader identifier = .error (.unsupportedNetwork identifier) ∧
        ∀ key, chain.openAccount key identifier = .error (.unsupportedNetwork identifier)) ∧
      ∀ url, Settings.readEntry (identifier, url) = .error (.unsupportedNetwork identifier)) := by
  refine ⟨exists_passes _, normalForm_normalForm identifier, fun network hnamed => ?_,
    fun hnone => ⟨fun chain => ?_, readEntry_of_unresolved hnone⟩⟩
  · exact ⟨normalForm_of_resolve? hnamed, resolve?_name network, resolve?_chainId network⟩
  · exact ⟨Chain.openReader_of_unresolved hnone, openAccount_of_unresolved hnone chain⟩

/-- A name with blanks, mixed case and mixed separators, and one that no network has. -/
theorem normalForm_stable_spelled :
    resolve? " BNB__Smart-chain\t" = some bsc ∧ normalForm " BNB__Smart-chain\t" = "bsc" ∧
      resolve? "Doge Chain " = none ∧
      Settings.readEntry ("Doge Chain ", "") = .error (.unsupportedNetwork "Doge Chain ") :=
  have hnamed : resolve? " BNB__Smart-chain\t" = some bsc := by decide +kernel
  have hnone : resolve? "Doge Chain " = none := by decide +kernel
  ⟨hnamed, ((normalForm_stable " BNB__Smart-chain\t").2.2.1 bsc hnamed).1, hnone,
    ((normalForm_stable "Doge Chain ").2.2.2 hnone).2 ""⟩

end StakingGateway.Network
