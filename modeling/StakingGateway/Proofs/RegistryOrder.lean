import Mathlib.Data.List.Nodup
import Mathlib.Data.String.Basic
import Mathlib.Tactic.SplitIfs
import StakingGateway.Tool.Registry

/-!
# The order of a registry

A registry keeps its tools in the order of their names. A definition goes to its place unless its
name is taken, and then it is refused, so the first definition under a name is the one that is found
and what is found under each name fixes the registry. Registrations one after the other end at the
first that is refused, and the ones before it stay.
-/

namespace StakingGateway

namespace Tool

variable {tools others : List Tool} {tool : Tool} {name : String}

theorem find?_name_eq_some_iff (h : (tools.map (·.name)).Nodup) :
    tools.find? (·.name = name) = some tool ↔ tool ∈ tools ∧ tool.name = name := by
  constructor
  · intro hfind
    exact ⟨List.mem_of_find?_eq_some hfind, by simpa using List.find?_some hfind⟩
  · rintro ⟨hmem, rfl⟩
    cases hfind : tools.find? (·.name = tool.name) with
    | none =>
        have hnone := List.find?_eq_none.mp hfind tool hmem
        simp at hnone
    | some found =>
        have hname : found.name = tool.name := by simpa using List.find?_some hfind
        rw [List.inj_on_of_nodup_map h (List.mem_of_find?_eq_some hfind) hmem hname]

theorem find?_name_of_perm (hperm : tools.Perm others) (h : (tools.map (·.name)).Nodup) :
    tools.find? (·.name = name) = others.find? (·.name = name) := by
  have hothers : (others.map (·.name)).Nodup := (hperm.map _).nodup_iff.mp h
  refine Option.ext fun tool => ?_
  rw [find?_name_eq_some_iff h, find?_name_eq_some_iff hothers, hperm.mem_iff]

namespace Registry

variable {registry larger : Registry}

theorem contains_iff :
    registry.contains name = true ↔ ∃ tool ∈ registry.tools, tool.name = name := by
  simp [contains, get?, List.find?_isSome]

theorem contains_eq_false_iff :
    registry.contains name = false ↔ ∀ tool ∈ registry.tools, tool.name ≠ name := by
  rw [← Bool.not_eq_true, contains_iff]
  push Not
  rfl

/-! ## The order of names -/

/-- The tools stand in the order of their names; no name is there twice. -/
def Ordered (registry : Registry) : Prop :=
  registry.tools.Pairwise fun a b => a.name < b.name

theorem Ordered.nodup (h : registry.Ordered) : (registry.tools.map (·.name)).Nodup :=
  List.pairwise_map.mpr (h.imp ne_of_lt)

theorem Ordered.get?_eq_some_iff (h : registry.Ordered) :
    registry.get? name = some tool ↔ tool ∈ registry.tools ∧ tool.name = name :=
  find?_name_eq_some_iff h.nodup

/-- What is found under each name fixes an ordered registry. -/
theorem Ordered.ext (h : registry.Ordered) (hlarger : larger.Ordered)
    (hget : ∀ name, registry.get? name = larger.get? name) : registry = larger := by
  have hmem : ∀ tool, tool ∈ registry.tools ↔ tool ∈ larger.tools := by
    intro tool
    have hiff : registry.get? tool.name = some tool ↔
        tool ∈ registry.tools ∧ tool.name = tool.name := h.get?_eq_some_iff
    rw [hget, hlarger.get?_eq_some_iff] at hiff
    simpa using hiff.symm
  have hperm : registry.tools.Perm larger.tools :=
    (List.perm_ext_iff_of_nodup h.nodup.of_map hlarger.nodup.of_map).mpr hmem
  have hlist : registry.tools = larger.tools :=
    hperm.eq_of_pairwise (fun _ _ _ _ hab hba => absurd hab (lt_asymm hba)) h hlarger
  cases registry
  cases larger
  exact congrArg Registry.mk hlist

theorem perm_place (tool : Tool) (tools : List Tool) : (place tool tools).Perm (tool :: tools) := by
  induction tools with
  | nil => exact List.Perm.refl _
  | cons head rest ih =>
      unfold place
      split_ifs
      · exact List.Perm.refl _
      · exact (ih.cons head).trans (List.Perm.swap tool head rest)

theorem pairwise_place (h : tools.Pairwise fun a b => a.name < b.name)
    (hfresh : ∀ other ∈ tools, other.name ≠ tool.name) :
    (place tool tools).Pairwise fun a b => a.name < b.name := by
  induction tools with
  | nil => exact List.pairwise_singleton _ _
  | cons head rest ih =>
      obtain ⟨hhead, hrest⟩ := List.pairwise_cons.mp h
      obtain ⟨hne, hothers⟩ := List.forall_mem_cons.mp hfresh
      unfold place
      split_ifs with hlt
      · refine List.pairwise_cons.mpr ⟨List.forall_mem_cons.mpr ⟨hlt, fun other hother => ?_⟩, h⟩
        exact lt_trans hlt (hhead other hother)
      · have hgt : head.name < tool.name := lt_of_le_of_ne (not_lt.mp hlt) hne
        refine List.pairwise_cons.mpr ⟨fun other hother => ?_, ih hrest hothers⟩
        rcases List.mem_cons.mp ((perm_place tool rest).mem_iff.mp hother) with rfl | hmem
        · exact hgt
        · exact hhead other hmem

/-! ## One registration -/

theorem register_of_contains (h : registry.contains tool.name = true) :
    registry.register tool = .error (.duplicate tool.name) := by
  rw [register, if_pos h]

theorem register_of_fresh (h : registry.contains tool.name = false) :
    registry.register tool = .ok ⟨place tool registry.tools⟩ := by
  rw [register, if_neg (Bool.eq_false_iff.mp h)]

/-- The larger registry has the added tools besides the old ones, and is in order if the old one
was. -/
structure Extends (registry : Registry) (added : List Tool) (larger : Registry) : Prop where
  perm : larger.tools.Perm (added ++ registry.tools)
  ordered : registry.Ordered → larger.Ordered

theorem Extends.refl (registry : Registry) : registry.Extends [] registry :=
  ⟨List.Perm.refl _, id⟩

theorem Extends.trans {middle : Registry} {added more : List Tool}
    (h : registry.Extends added middle) (hmore : middle.Extends more larger) :
    registry.Extends (added ++ more) larger where
  perm :=
    calc larger.tools.Perm (more ++ middle.tools) := hmore.perm
      List.Perm _ (more ++ (added ++ registry.tools)) := h.perm.append_left more
      List.Perm _ (more ++ added ++ registry.tools) := by rw [List.append_assoc]
      List.Perm _ (added ++ more ++ registry.tools) := List.perm_append_comm.append_right _
  ordered hordered := hmore.ordered (h.ordered hordered)

theorem Extends.contains_iff {added : List Tool} (h : registry.Extends added larger) :
    larger.contains name = true ↔
      (∃ tool ∈ added, tool.name = name) ∨ registry.contains name = true := by
  simp only [Registry.contains_iff, h.perm.mem_iff, List.mem_append, or_and_right, exists_or]

theorem Extends.get?_eq (h : registry.Extends [tool] larger) (hordered : registry.Ordered)
    (hfresh : registry.contains tool.name = false) :
    larger.get? name = (registry.get? name).or ([tool].find? (·.name = name)) := by
  have hall : larger.get? name = ([tool] ++ registry.tools).find? (·.name = name) :=
    find?_name_of_perm h.perm (h.ordered hordered).nodup
  rw [hall, List.find?_append]
  by_cases hname : tool.name = name
  · subst hname
    have hnone : registry.get? tool.name = none := by
      rw [← Option.not_isSome_iff_eq_none]
      exact Bool.eq_false_iff.mp hfresh
    rw [hnone, Option.none_or]
    simp
  · have hother : [tool].find? (·.name = name) = none := by simp [hname]
    rw [hother, Option.none_or, Option.or_none]
    rfl

theorem register_cases (registry : Registry) (tool : Tool) :
    (registry.contains tool.name = true ∧
        registry.register tool = .error (.duplicate tool.name)) ∨
      registry.contains tool.name = false ∧
        ∃ larger, registry.register tool = .ok larger ∧ registry.Extends [tool] larger := by
  cases htaken : registry.contains tool.name with
  | true => exact Or.inl ⟨rfl, register_of_contains htaken⟩
  | false =>
      refine Or.inr ⟨rfl, _, register_of_fresh htaken, perm_place tool registry.tools, fun h => ?_⟩
      exact pairwise_place h (contains_eq_false_iff.mp htaken)

/-! ## Registrations one after the other -/

theorem registerAll_cons_of_ok (h : registry.register tool = .ok larger) :
    registry.registerAll (tool :: tools) = larger.registerAll tools := by
  rw [registerAll, h]

theorem registerAll_cons_of_contains (h : registry.contains tool.name = true) :
    registry.registerAll (tool :: tools) = (registry, .error (.duplicate tool.name)) := by
  rw [registerAll, register_of_contains h]

theorem Ordered.registerAll (h : registry.Ordered) (tools : List Tool) :
    (registry.registerAll tools).1.Ordered := by
  induction tools generalizing registry with
  | nil => exact h
  | cons tool rest ih =>
      rcases registry.register_cases tool with ⟨htaken, -⟩ | ⟨-, larger, hregister, hextends⟩
      · rw [registerAll_cons_of_contains htaken]
        exact h
      · rw [registerAll_cons_of_ok hregister]
        exact ih (hextends.ordered h)

/-- Definitions under new and distinct names are all added before the rest is looked at. -/
theorem registerAll_append (hnames : (tools.map (·.name)).Nodup)
    (hfresh : ∀ tool ∈ tools, registry.contains tool.name = false) :
    ∃ larger, registry.Extends tools larger ∧
      ∀ rest, registry.registerAll (tools ++ rest) = larger.registerAll rest := by
  induction tools generalizing registry with
  | nil => exact ⟨registry, Extends.refl registry, fun _ => rfl⟩
  | cons tool tools ih =>
      obtain ⟨htool, htools⟩ := List.forall_mem_cons.mp hfresh
      obtain ⟨hdistinct, hnodup⟩ := List.nodup_cons.mp hnames
      rcases registry.register_cases tool with ⟨htaken, -⟩ | ⟨-, middle, hregister, hextends⟩
      · rw [htool] at htaken
        cases htaken
      · have hstill : ∀ other ∈ tools, middle.contains other.name = false := by
          intro other hother
          rw [← Bool.not_eq_true, hextends.contains_iff, htools other hother]
          rintro (⟨same, hsame, hname⟩ | hcontains)
          · rw [List.mem_singleton.mp hsame] at hname
            exact hdistinct (List.mem_map.mpr ⟨other, hother, hname.symm⟩)
          · cases hcontains
        obtain ⟨larger, hlarger, hrest⟩ := ih hnodup hstill
        refine ⟨larger, hextends.trans hlarger, fun rest => ?_⟩
        rw [List.cons_append, registerAll_cons_of_ok hregister, hrest]

/-- The definitions that are handed to the registry one after the other, up to one that is
refused. -/
def tried (registry : Registry) : List Tool → List Tool
  | [] => []
  | tool :: rest =>
    match registry.register tool with
    | .ok larger => tool :: tried larger rest
    | .error _ => [tool]

/-- The first of all tried definitions under a name is the one that is found. -/
theorem Ordered.get?_registerAll (h : registry.Ordered) (tools : List Tool) (name : String) :
    (registry.registerAll tools).1.get? name =
      (registry.get? name).or ((registry.tried tools).find? (·.name = name)) := by
  induction tools generalizing registry with
  | nil => simp [Registry.registerAll, tried]
  | cons tool rest ih =>
      rcases registry.register_cases tool with
        ⟨htaken, hregister⟩ | ⟨hfresh, larger, hregister, hextends⟩
      · rw [registerAll_cons_of_contains htaken, tried, hregister]
        -- The name is taken, so what was found before stays.
        by_cases hname : tool.name = name
        · subst hname
          obtain ⟨found, hfound⟩ := Option.isSome_iff_exists.mp htaken
          rw [hfound, Option.some_or]
        · simp [hname]
      · rw [registerAll_cons_of_ok hregister, tried, hregister, ih (hextends.ordered h),
          hextends.get?_eq h hfresh, Option.or_assoc, ← List.find?_append]
        rfl

theorem registerAll_of_fresh (hnames : (tools.map (·.name)).Nodup)
    (hfresh : ∀ tool ∈ tools, registry.contains tool.name = false) :
    ∃ larger, registry.registerAll tools = (larger, .ok ()) ∧ registry.Extends tools larger := by
  obtain ⟨larger, hextends, hrest⟩ := registerAll_append hnames hfresh
  refine ⟨larger, ?_, hextends⟩
  rw [← List.append_nil tools, hrest, registerAll]

/-- The first definition under a taken name ends the registrations, and the ones before it stay. -/
theorem registerAll_of_clash {before : List Tool} (hnames : (before.map (·.name)).Nodup)
    (hfresh : ∀ tool ∈ before, registry.contains tool.name = false)
    (htaken : registry.contains tool.name = true) (rest : List Tool) :
    ∃ larger, registry.registerAll (before ++ tool :: rest) =
        (larger, .error (.duplicate tool.name)) ∧ registry.Extends before larger := by
  obtain ⟨larger, hextends, hrest⟩ := registerAll_append hnames hfresh
  refine ⟨larger, ?_, hextends⟩
  rw [hrest, registerAll_cons_of_contains (hextends.contains_iff.mpr (Or.inr htaken))]

/-- All of the names are new, or there is a first that is taken. -/
theorem fresh_or_clash (registry : Registry) (tools : List Tool) :
    (∀ tool ∈ tools, registry.contains tool.name = false) ∨
      ∃ before tool rest, tools = before ++ tool :: rest ∧
        (∀ other ∈ before, registry.contains other.name = false) ∧
        registry.contains tool.name = true := by
  cases hfind : tools.find? fun tool => registry.contains tool.name with
  | none => exact Or.inl fun tool hmem => by simpa using List.find?_eq_none.mp hfind tool hmem
  | some tool =>
      obtain ⟨htaken, before, rest, hsplit, hbefore⟩ := List.find?_eq_some_iff_append.mp hfind
      exact Or.inr ⟨before, tool, rest, hsplit,
        fun other hother => by simpa using hbefore other hother, htaken⟩

end Registry

end Tool

end StakingGateway
