import Mathlib.Data.List.Nodup
import StakingGateway.Settings.Config

/-!
# Entries for endpoints in any order

The entries of a setting come out of a map, in an order that nobody chose. Whether they are read at
all does not depend on that order. The endpoints do, as soon as two entries name one network with
different URLs: the last of them is the one that stays.
-/

namespace StakingGateway.Settings

def entriesOf? (raw : String) : Option (List (String × String)) :=
  match Json.parseRaw raw.toList with
  | .error _ => none
  | .ok value => (textFields? value).map lastByName

theorem entriesOf?_eq_some {raw : String} {entries : List (String × String)}
    (h : entriesOf? raw = some entries) :
    ∃ value fields, Json.parseRaw raw.toList = .ok value ∧ textFields? value = some fields ∧
      entries = lastByName fields := by
  unfold entriesOf? at h
  cases hvalue : Json.parseRaw raw.toList with
  | error e =>
      rw [hvalue] at h
      cases h
  | ok value =>
      rw [hvalue] at h
      obtain ⟨fields, hfields, rfl⟩ := Option.map_eq_some_iff.mp h
      exact ⟨value, fields, rfl, hfields, rfl⟩

theorem parseEndpoints_eq_readEntries {raw : String} {entries : List (String × String)}
    (h : entriesOf? raw = some entries) : parseEndpoints raw = readEntries entries := by
  obtain ⟨value, fields, hvalue, hfields, rfl⟩ := entriesOf?_eq_some h
  simp only [parseEndpoints, hvalue, hfields]

/-- Putting an entry in the place of its namesake changes no name. -/
theorem map_fst_replace (kept : List (String × String)) (entry : String × String) :
    (kept.map fun old => if old.1 = entry.1 then entry else old).map Prod.fst =
      kept.map Prod.fst := by
  rw [List.map_map]
  apply List.map_congr_left
  intro old _
  by_cases hname : old.1 = entry.1
  · simp [hname]
  · simp [hname]

theorem nodup_lastByName (fields : List (String × String)) :
    ((lastByName fields).map Prod.fst).Nodup := by
  unfold lastByName
  refine List.foldlRecOn (motive := fun kept : List (String × String) =>
    (kept.map Prod.fst).Nodup) fields _ List.nodup_nil fun kept hkept entry _ => ?_
  by_cases hany : kept.any (·.1 = entry.1) = true
  · rwa [if_pos hany, map_fst_replace]
  · have hfresh : entry.1 ∉ kept.map Prod.fst := by simpa using hany
    rw [if_neg hany, List.map_append, List.map_singleton, ← List.concat_eq_append]
    exact List.Nodup.concat hfresh hkept

theorem nodup_of_entriesOf? {raw : String} {entries : List (String × String)}
    (h : entriesOf? raw = some entries) : (entries.map Prod.fst).Nodup := by
  obtain ⟨value, fields, -, -, rfl⟩ := entriesOf?_eq_some h
  exact nodup_lastByName fields

variable {entries visited : List (String × String)}

def Sound (entry : String × String) : Prop :=
  (∃ network, Network.resolve? entry.1 = some network) ∧ Url.check entry.2 = .ok ()

/-- Two entries give one network different URLs. -/
def Clash (entries : List (String × String)) : Prop :=
  ∃ a ∈ entries, ∃ b ∈ entries, ∃ network, Network.resolve? a.1 = some network ∧
    Network.resolve? b.1 = some network ∧ a.2 ≠ b.2

def endpointsOf (entries : List (String × String)) : List (Network × String) :=
  entries.filterMap fun entry => (Network.resolve? entry.1).map fun network => (network, entry.2)

theorem mem_endpointsOf {network : Network} {url : String} :
    (network, url) ∈ endpointsOf entries ↔
      ∃ entry ∈ entries, Network.resolve? entry.1 = some network ∧ entry.2 = url := by
  simp [endpointsOf, List.mem_filterMap]

theorem readEntry_of_sound {entry : String × String} {network : Network}
    (hnetwork : Network.resolve? entry.1 = some network) (hurl : Url.check entry.2 = .ok ()) :
    readEntry entry = .ok (network, entry.2) := by
  simp only [readEntry, hnetwork, hurl]

theorem readEntry_of_not_sound {entry : String × String} (h : ¬ Sound entry) :
    ∃ e, readEntry entry = .error e := by
  unfold readEntry
  cases hnetwork : Network.resolve? entry.1 with
  | none => exact ⟨_, rfl⟩
  | some network =>
      cases hurl : Url.check entry.2 with
      | ok => exact absurd ⟨⟨network, hnetwork⟩, hurl⟩ h
      | error cause => exact ⟨_, rfl⟩

theorem readEntries_of_sound (h : ∀ entry ∈ entries, Sound entry) :
    readEntries entries = .ok (endpointsOf entries) := by
  induction entries with
  | nil => rfl
  | cons entry rest ih =>
      obtain ⟨⟨⟨network, hnetwork⟩, hurl⟩, hrest⟩ := List.forall_mem_cons.mp h
      have hread := ih hrest
      rw [readEntries] at hread ⊢
      rw [List.mapM_cons, readEntry_of_sound hnetwork hurl, hread]
      simp [endpointsOf, hnetwork, pure, Except.pure, bind, Except.bind]

theorem readEntries_of_not_sound (h : ∃ entry ∈ entries, ¬ Sound entry) :
    ∃ e, readEntries entries = .error e := by
  induction entries with
  | nil => simp at h
  | cons entry rest ih =>
      rw [readEntries, List.mapM_cons]
      cases hentry : readEntry entry with
      | error e => exact ⟨e, rfl⟩
      | ok endpoint =>
          have hrest : ∃ entry ∈ rest, ¬ Sound entry := by
            obtain ⟨bad, hbad, hnot⟩ := h
            rcases List.mem_cons.mp hbad with rfl | hbad
            · obtain ⟨e, he⟩ := readEntry_of_not_sound hnot
              rw [hentry] at he
              cases he
            · exact ⟨bad, hbad, hnot⟩
          obtain ⟨e, he⟩ := ih hrest
          rw [readEntries] at he
          exact ⟨e, by rw [he]; rfl⟩

section Endpoints

variable {endpoints : List (Network × String)} {network : Network} {url : String}

theorem mem_of_endpoint? (h : endpoint? endpoints network = some url) :
    (network, url) ∈ endpoints := by
  obtain ⟨before, after, hsplit, -⟩ := List.lookup_eq_some_iff.mp h
  apply List.mem_reverse.mp
  rw [hsplit]
  simp

theorem endpoint?_eq_none_iff :
    endpoint? endpoints network = none ↔ ∀ url, (network, url) ∉ endpoints := by
  simp only [endpoint?, List.lookup_eq_none_iff, List.mem_reverse, Prod.forall, bne_iff_ne]
  constructor
  · intro h url hmem
    exact h network url hmem rfl
  · rintro h _ url hmem rfl
    exact h url hmem

/-- A network that is given one URL only is reached there, wherever in the list that stands. -/
theorem endpoint?_of_mem (hmem : (network, url) ∈ endpoints)
    (honly : ∀ other, (network, other) ∈ endpoints → other = url) :
    endpoint? endpoints network = some url := by
  cases hfound : endpoint? endpoints network with
  | none => exact absurd hmem (endpoint?_eq_none_iff.mp hfound url)
  | some other => rw [honly other (mem_of_endpoint? hfound)]

/-- The last of two endpoints is the one that stays. -/
theorem endpoint?_concat : endpoint? (endpoints ++ [(network, url)]) network = some url := by
  simp [endpoint?]

end Endpoints

/-- Where no two entries clash, a network is reached at the URL of an entry that names it. -/
theorem endpoint?_endpointsOf (hclash : ¬ Clash entries) {network : Network} {url : String} :
    endpoint? (endpointsOf entries) network = some url ↔
      ∃ entry ∈ entries, Network.resolve? entry.1 = some network ∧ entry.2 = url := by
  rw [← mem_endpointsOf]
  refine ⟨mem_of_endpoint?, fun hmem => endpoint?_of_mem hmem fun other hother => ?_⟩
  by_contra hne
  obtain ⟨a, ha, hresolved, rfl⟩ := mem_endpointsOf.mp hother
  obtain ⟨b, hb, hnamed, rfl⟩ := mem_endpointsOf.mp hmem
  exact hclash ⟨a, ha, b, hb, network, hresolved, hnamed, hne⟩

/-- Two readings agree: both fail, or both give every network the same endpoint. -/
inductive SameEndpoints :
    Except ConfigError (List (Network × String)) → Except ConfigError (List (Network × String)) →
      Prop
  | failed (d e : ConfigError) : SameEndpoints (.error d) (.error e)
  | read {left right : List (Network × String)}
      (h : ∀ network, endpoint? left network = endpoint? right network) :
      SameEndpoints (.ok left) (.ok right)

theorem sameEndpoints_of_perm (hperm : visited.Perm entries)
    (h : ¬ ((∀ entry ∈ entries, Sound entry) ∧ Clash entries)) :
    SameEndpoints (readEntries visited) (readEntries entries) := by
  by_cases hsound : ∀ entry ∈ entries, Sound entry
  · have hclash : ¬ Clash entries := fun hclash => h ⟨hsound, hclash⟩
    have hvisited : ¬ Clash visited := by simpa only [Clash, hperm.mem_iff] using hclash
    rw [readEntries_of_sound hsound,
      readEntries_of_sound fun entry hmem => hsound entry (hperm.mem_iff.mp hmem)]
    refine .read fun network => Option.ext fun url => ?_
    rw [endpoint?_endpointsOf hvisited, endpoint?_endpointsOf hclash]
    simp only [hperm.mem_iff]
  · push Not at hsound
    obtain ⟨entry, hmem, hnot⟩ := hsound
    obtain ⟨d, hd⟩ := readEntries_of_not_sound ⟨entry, hperm.mem_iff.mpr hmem, hnot⟩
    obtain ⟨e, he⟩ := readEntries_of_not_sound ⟨entry, hmem, hnot⟩
    rw [hd, he]
    exact .failed d e

/-- With an entry at the end, the network that it names is reached at its URL. -/
theorem readEntries_concat {entry : String × String} {network : Network}
    (hsound : ∀ e ∈ entries ++ [entry], Sound e)
    (hnamed : Network.resolve? entry.1 = some network) :
    ∃ endpoints, readEntries (entries ++ [entry]) = .ok endpoints ∧
      endpoint? endpoints network = some entry.2 := by
  refine ⟨_, readEntries_of_sound hsound, ?_⟩
  rw [endpointsOf, List.filterMap_append, List.filterMap_cons, hnamed]
  exact endpoint?_concat

/-- Two entries can be brought to the end, in either order. -/
theorem exists_perm_concat {a b : String × String} (ha : a ∈ entries) (hb : b ∈ entries)
    (hdistinct : b ≠ a) :
    ∃ others, (others ++ [b] ++ [a]).Perm entries ∧ (others ++ [a] ++ [b]).Perm entries := by
  let others := (entries.erase a).erase b
  have herase : (entries.erase a).Perm (b :: others) :=
    List.perm_cons_erase ((List.mem_erase_of_ne hdistinct).mpr hb)
  have hlast : (others ++ [b] ++ [a]).Perm entries :=
    calc (others ++ [b] ++ [a]).Perm (a :: (others ++ [b])) := List.perm_append_singleton a _
      List.Perm _ (a :: b :: others) := (List.perm_append_singleton b others).cons a
      List.Perm _ (a :: entries.erase a) := herase.symm.cons a
      List.Perm _ entries := (List.perm_cons_erase ha).symm
  have hswap : (others ++ [a] ++ [b]).Perm (others ++ [b] ++ [a]) := by
    simpa using (List.Perm.swap b a []).append_left others
  exact ⟨others, hlast, hswap.trans hlast⟩

/-- Two entries that clash are read differently when they change places at the end, where nothing
replaces the second of them. -/
theorem exists_orders_of_clash (hsound : ∀ entry ∈ entries, Sound entry) (hclash : Clash entries) :
    ∃ first second : List (String × String), first.Perm entries ∧ second.Perm entries ∧
      ¬ SameEndpoints (readEntries first) (readEntries second) := by
  obtain ⟨a, ha, b, hb, network, hfirst, hsecond, hne⟩ := hclash
  have hdistinct : b ≠ a := by
    rintro rfl
    exact hne rfl
  obtain ⟨others, hlast, hfront⟩ := exists_perm_concat ha hb hdistinct
  obtain ⟨left, hleft, hurl⟩ := readEntries_concat
    (fun entry hmem => hsound entry (hlast.mem_iff.mp hmem)) hfirst
  obtain ⟨right, hright, hother⟩ := readEntries_concat
    (fun entry hmem => hsound entry (hfront.mem_iff.mp hmem)) hsecond
  refine ⟨_, _, hlast, hfront, ?_⟩
  rw [hleft, hright]
  rintro ⟨⟩
  next hsame =>
    have hsome := hsame network
    rw [hurl, hother] at hsome
    exact hne (Option.some.inj hsome)

/-- Entries are read alike in all orders, unless each of them can be read and two clash. -/
theorem readings_agree_iff (entries : List (String × String)) :
    (∀ first second : List (String × String), first.Perm entries → second.Perm entries →
      SameEndpoints (readEntries first) (readEntries second)) ↔
    ¬ ((∀ entry ∈ entries, Sound entry) ∧ Clash entries) := by
  constructor
  · rintro hagree ⟨hsound, hclash⟩
    obtain ⟨first, second, hfirst, hsecond, hdiffer⟩ := exists_orders_of_clash hsound hclash
    exact hdiffer (hagree first second hfirst hsecond)
  · intro h first second hfirst hsecond
    apply sameEndpoints_of_perm (hfirst.trans hsecond.symm)
    simpa only [Clash, hsecond.mem_iff] using h

/-- An alias and the canonical name are different keys, and whichever comes last decides. -/
theorem order_decides_between_alias_and_name :
    let raw := "\x7b\"eth\": \"http://a\", \"ethereum\": \"http://b\"\x7d"
    let entries := [("eth", "http://a"), ("ethereum", "http://b")]
    entriesOf? raw = some entries ∧ (entries.map Prod.fst).Nodup ∧
      readEntries entries = .ok [(.ethereum, "http://a"), (.ethereum, "http://b")] ∧
      readEntries entries.reverse = .ok [(.ethereum, "http://b"), (.ethereum, "http://a")] ∧
      ¬ SameEndpoints (readEntries entries) (readEntries entries.reverse) := by
  intro raw entries
  have hfirst : readEntries entries = .ok [(.ethereum, "http://a"), (.ethereum, "http://b")] := by
    decide +kernel
  have hsecond : readEntries entries.reverse =
      .ok [(.ethereum, "http://b"), (.ethereum, "http://a")] := by
    decide +kernel
  refine ⟨by decide +kernel, by decide, hfirst, hsecond, ?_⟩
  rw [hfirst, hsecond]
  rintro ⟨⟩
  next hsame =>
    have hother := hsame .ethereum
    revert hother
    decide

end StakingGateway.Settings
