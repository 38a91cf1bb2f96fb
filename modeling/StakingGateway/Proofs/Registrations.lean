import StakingGateway.Proofs.ByteOrder
import StakingGateway.Proofs.Invocation
import StakingGateway.Proofs.RequestHandling
import StakingGateway.Service.Http

/-!
# What registrations leave

A history adds single definitions and the whole catalogue to a new registry, in any order and with
any clashes. Whatever is tried later, the first definition under a name is the one that is found.
Hence the registry does not depend on the order of registrations under different names, and all that
can be asked of it agrees with one list in the order of the bytes of the names.
-/

namespace StakingGateway

namespace Tool

variable {tools others : List Tool} {tool : Tool} {name : String}

namespace Registry

variable {registry : Registry}

/-! ## Whole histories -/

/-- A call that adds to a registry: of one definition, or of the whole catalogue. -/
inductive Registration where
  | one (tool : Tool)
  | catalogue

def Registration.brought : Registration → List Tool
  | one tool => [tool]
  | catalogue => Operation.catalogue

/-- What a call leaves of the registry, and its answer. -/
def perform (registry : Registry) : Registration → Registry × Except Error Unit
  | .one tool =>
    match registry.register tool with
    | .ok larger => (larger, .ok ())
    | .error e => (registry, .error e)
  | .catalogue => registry.registerAll Operation.catalogue

theorem perform_eq (registry : Registry) (call : Registration) :
    registry.perform call = registry.registerAll call.brought := by
  cases call with
  | catalogue => rfl
  | one tool =>
      rw [perform, Registration.brought, registerAll]
      cases registry.register tool <;> rfl

def performAll (registry : Registry) (calls : List Registration) : Registry :=
  calls.foldl (fun registry call => (registry.perform call).1) registry

def after (calls : List Registration) : Registry := empty.performAll calls

def triedBy (registry : Registry) : List Registration → List Tool
  | [] => []
  | call :: calls => registry.tried call.brought ++ triedBy (registry.perform call).1 calls

variable {call : Registration} {calls : List Registration}

theorem Ordered.perform (h : registry.Ordered) (call : Registration) :
    (registry.perform call).1.Ordered := by
  rw [perform_eq]
  exact h.registerAll call.brought

theorem Ordered.performAll (h : registry.Ordered) (calls : List Registration) :
    (registry.performAll calls).Ordered := by
  induction calls generalizing registry with
  | nil => exact h
  | cons call calls ih => exact ih (h.perform call)

theorem Ordered.get?_performAll (h : registry.Ordered) (calls : List Registration) (name : String) :
    (registry.performAll calls).get? name =
      (registry.get? name).or ((registry.triedBy calls).find? (·.name = name)) := by
  induction calls generalizing registry with
  | nil => simp [Registry.performAll, triedBy]
  | cons call calls ih =>
      have hcall := h.get?_registerAll call.brought name
      rw [← perform_eq] at hcall
      rw [triedBy, List.find?_append, ← Option.or_assoc, ← hcall]
      exact ih (h.perform call)

/-! ## What every history leaves -/

def listedNames (listing : Json) : List String :=
  match listing.get? "tools" with
  | some (.array entries) => entries.filterMap fun entry => (entry.get? "name").bind Json.string?
  | _ => []

theorem listedNames_descriptors (registry : Registry) :
    listedNames registry.descriptors = registry.tools.map (·.name) := by
  have hlisting : registry.descriptors.get? "tools" =
      some (.array (registry.tools.map descriptor)) := rfl
  have hname : ∀ tool : Tool, (descriptor tool).get? "name" = some (.string tool.name) := by
    intro tool
    rw [descriptor, Json.get?_obj]
    rfl
  simp [listedNames, hlisting, List.filterMap_map, Function.comp_def, hname, Json.string?]

/-- What can be asked of a registry agrees with its tools, which are in the order of the bytes of
their names. -/
structure Observed (registry : Registry) : Prop where
  rising : (registry.tools.map fun tool => Text.bytesOf tool.name).Pairwise (· < ·)
  listed : listedNames registry.descriptors = registry.tools.map (·.name)
  found : ∀ name tool, registry.get? name = some tool ↔ tool ∈ registry.tools ∧ tool.name = name
  contained : ∀ name, registry.contains name = true ↔ name ∈ registry.tools.map (·.name)
  size : ∀ names : List String, names.Nodup →
    (∀ name, name ∈ names ↔ registry.contains name = true) → registry.size = names.length
  isEmpty : registry.isEmpty = true ↔ ∀ name, registry.contains name = false

theorem Ordered.observed (h : registry.Ordered) : registry.Observed where
  rising := List.pairwise_map.mpr (h.imp Text.bytesOf_lt_iff.mpr)
  listed := listedNames_descriptors registry
  found _ _ := h.get?_eq_some_iff
  contained name := by rw [contains_iff, List.mem_map]
  size names hnodup hnames := by
    have hperm : names.Perm (registry.tools.map (·.name)) :=
      (List.perm_ext_iff_of_nodup hnodup h.nodup).mpr fun name => by
        rw [hnames, contains_iff, List.mem_map]
    rw [hperm.length_eq, List.length_map]
    rfl
  isEmpty := by
    simp only [contains_eq_false_iff, Registry.isEmpty, List.isEmpty_iff,
      List.eq_nil_iff_forall_not_mem]
    exact ⟨fun hnone name tool hmem => absurd hmem (hnone tool),
      fun hnone tool hmem => hnone tool.name tool hmem rfl⟩

/-- The registration of one definition: it is refused if its name is taken, and nothing changes, or
it is added. -/
structure RegistersOne (registry : Registry) (tool : Tool) : Prop where
  refused : registry.contains tool.name = true →
    registry.perform (.one tool) = (registry, .error (.duplicate tool.name))
  added : registry.contains tool.name = false →
    ∃ larger, registry.perform (.one tool) = (larger, .ok ()) ∧
      larger.tools.Perm (tool :: registry.tools)

theorem registersOne (registry : Registry) (tool : Tool) : registry.RegistersOne tool where
  refused htaken := by rw [perform, register_of_contains htaken]
  added hfresh := by
    rw [perform, register_of_fresh hfresh]
    exact ⟨_, rfl, perm_place tool registry.tools⟩

/-- The registration of the catalogue: it succeeds exactly if no name is taken, and ends at the
first that is. -/
structure RegistersCatalogue (registry : Registry) : Prop where
  succeeds : (registry.perform .catalogue).2 = .ok () ↔
    ∀ tool ∈ Operation.catalogue, registry.contains tool.name = false
  added : (∀ tool ∈ Operation.catalogue, registry.contains tool.name = false) →
    (registry.perform .catalogue).1.tools.Perm (Operation.catalogue ++ registry.tools)
  clash : ∀ before tool rest, Operation.catalogue = before ++ tool :: rest →
    (∀ other ∈ before, registry.contains other.name = false) →
    registry.contains tool.name = true →
      ∃ larger, registry.perform .catalogue = (larger, .error (.duplicate tool.name)) ∧
        larger.tools.Perm (before ++ registry.tools)

theorem registersCatalogue (registry : Registry) : registry.RegistersCatalogue := by
  have hfresh : (∀ tool ∈ Operation.catalogue, registry.contains tool.name = false) →
      ∃ larger, registry.perform .catalogue = (larger, .ok ()) ∧
        registry.Extends Operation.catalogue larger :=
    registerAll_of_fresh Operation.catalogue_names
  have hclash : ∀ before tool rest, Operation.catalogue = before ++ tool :: rest →
      (∀ other ∈ before, registry.contains other.name = false) →
      registry.contains tool.name = true →
        ∃ larger, registry.perform .catalogue = (larger, .error (.duplicate tool.name)) ∧
          larger.tools.Perm (before ++ registry.tools) := by
    intro before tool rest hsplit hbefore htaken
    have hnames := Operation.catalogue_names
    rw [hsplit, List.map_append] at hnames
    obtain ⟨larger, hregister, hextends⟩ :=
      registerAll_of_clash hnames.of_append_left hbefore htaken rest
    rw [← hsplit] at hregister
    exact ⟨larger, hregister, hextends.perm⟩
  refine ⟨⟨fun hok => ?_, fun hall => ?_⟩, fun hall => ?_, hclash⟩
  · rcases registry.fresh_or_clash Operation.catalogue with
      hall | ⟨before, tool, rest, hsplit, hbefore, htaken⟩
    · exact hall
    · obtain ⟨larger, hregister, -⟩ := hclash before tool rest hsplit hbefore htaken
      rw [hregister] at hok
      cases hok
  · obtain ⟨larger, hregister, -⟩ := hfresh hall
    rw [hregister]
  · obtain ⟨larger, hregister, hextends⟩ := hfresh hall
    rw [hregister]
    exact hextends.perm

theorem ordered_empty : empty.Ordered := List.Pairwise.nil

theorem ordered_after (calls : List Registration) : (after calls).Ordered :=
  ordered_empty.performAll calls

theorem tried_single (registry : Registry) (tool : Tool) : registry.tried [tool] = [tool] := by
  rw [tried]
  cases registry.register tool <;> rfl

theorem triedBy_map_one (registry : Registry) (tools : List Tool) :
    registry.triedBy (tools.map .one) = tools := by
  induction tools generalizing registry with
  | nil => rfl
  | cons tool tools ih =>
      rw [List.map_cons, triedBy, ih, Registration.brought, tried_single, List.singleton_append]

/-- Definitions under distinct names may be registered in any order. -/
theorem Ordered.performAll_of_perm (h : registry.Ordered) (hnames : (tools.map (·.name)).Nodup)
    (hperm : tools.Perm others) :
    registry.performAll (tools.map .one) = registry.performAll (others.map .one) := by
  refine (h.performAll _).ext (h.performAll _) fun name => ?_
  rw [h.get?_performAll, h.get?_performAll, triedBy_map_one, triedBy_map_one,
    find?_name_of_perm hperm hnames]

end Registry

end Tool

namespace Service

/-- A server publishes the list of its registry, to a request for it and on its page. -/
structure Publishes (server : Server) : Prop where
  request : ∀ version id params, id ≠ .null → server.handle ⟨version, id, "tools/list", params⟩ =
    .done (.ok (some (.result id server.registry.descriptors)))
  page : ∀ exchange : Http.Exchange, exchange.method = "GET" →
    Http.resource? exchange.target = some .tools →
      Http.handle server exchange = .done (.ok ⟨200, .json server.registry.descriptors⟩)

theorem publishes (server : Server) : Publishes server where
  request version id params hid := by
    have hanswered : ¬ (⟨version, id, "tools/list", params⟩ : Request).isNotification = true :=
      fun hnull => hid (Lines.isNull_iff.mp hnull)
    rw [Server.handle, if_neg hanswered]
    rfl
  page exchange hmethod htarget := by
    have hread : Http.readOnly exchange server.registry.descriptors =
        ⟨200, .json server.registry.descriptors⟩ := if_pos hmethod
    rw [Http.handle, hmethod, if_neg (by decide), htarget]
    exact congrArg (fun reply => Dialogue.done (Except.ok reply)) hread

end Service

namespace Tool.Registry

/-- After every history of registrations, the first definition that was tried under a name is the
one that is found, the observers agree with the ordered list of tools, a name that is taken is
refused and changes nothing, and definitions under distinct names could have come in any order. -/
theorem first_definitions_kept (calls : List Registration) :
    (after calls).Observed ∧
    (∀ context, Service.Publishes ⟨after calls, context⟩) ∧
    (∀ name, (after calls).get? name = (empty.triedBy calls).find? (·.name = name)) ∧
    (∀ tool, (after calls).RegistersOne tool) ∧
    (after calls).RegistersCatalogue ∧
    ∀ tools others : List Tool, (tools.map (·.name)).Nodup → tools.Perm others →
      after (calls ++ tools.map .one) = after (calls ++ others.map .one) := by
  have hordered := ordered_after calls
  refine ⟨hordered.observed, fun context => Service.publishes _, fun name => ?_,
    registersOne _, registersCatalogue _, fun tools others hnames hperm => ?_⟩
  · rw [after, ordered_empty.get?_performAll]
    exact Option.none_or
  · have hsplit : ∀ more, after (calls ++ more) = (after calls).performAll more :=
      fun more => List.foldl_append
    rw [hsplit, hsplit]
    exact hordered.performAll_of_perm hnames hperm

/-- A definition under the name of the eighth tool ends the registration of the catalogue there. -/
theorem first_definitions_kept_impostor :
    let impostor : Tool := { Operation.wrapSteth with description := "another" }
    let calls : List Registration := [.one impostor]
    let before := [Operation.stakingPosition, Operation.stakeTokens, Operation.unstakeTokens,
      Operation.claimRewards, Operation.stakingRate, Operation.stakingDirectory,
      Operation.stakeEther]
    let pair := [Operation.wrapSteth, Operation.lidoStats]
    (after calls).get? "wrap_steth" = some impostor ∧
      listedNames (after (calls ++ [.catalogue])).descriptors = ["claim_staking_rewards",
        "get_staking_apr", "get_staking_position", "get_staking_protocols", "stake_eth_lido",
        "stake_tokens", "unstake_tokens", "wrap_steth"] ∧
      (∃ larger, (after calls).perform .catalogue =
          (larger, .error (.duplicate "wrap_steth")) ∧
        larger.tools.Perm (before ++ (after calls).tools)) ∧
      (pair.map (·.name)).Nodup ∧ pair.Perm pair.reverse ∧
      after (calls ++ pair.map .one) = after (calls ++ pair.reverse.map .one) := by
  intro impostor calls before pair
  obtain ⟨-, -, hfound, -, hcatalogue, horder⟩ := first_definitions_kept calls
  have hnames : (pair.map (·.name)).Nodup := by decide +kernel
  refine ⟨hfound "wrap_steth", by decide +kernel, ?_, hnames, (List.reverse_perm pair).symm, ?_⟩
  · exact hcatalogue.clash before Operation.wrapSteth _ rfl (by decide +kernel) (by decide +kernel)
  · exact horder pair pair.reverse hnames (List.reverse_perm pair).symm

end Tool.Registry

end StakingGateway
