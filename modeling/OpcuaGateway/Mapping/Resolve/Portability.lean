import OpcuaGateway.Mapping.Constraints
import OpcuaGateway.Mapping.Namespace.Renumbering
import OpcuaGateway.Mapping.Resolve

open text mapping.model mapping.namespace_table mapping.constraints

namespace mapping.resolve

/-- The device type is authored against namespace URIs: nothing in it depends on the
order in which a server lists its namespaces. -/
structure Portable (device_type : DeviceType) : Prop where
  root : ∀ root, device_type.referenced_root_node_id = some root → PortableNodeId root
  node_ids : ∀ entry ∈ device_type.mappings, ∀ node_id, entry.referenced_node_id = some node_id →
    PortableNodeId node_id
  browse_paths : ∀ entry ∈ device_type.mappings, ∀ segment ∈ entry.browse_path, PortableSegment segment
  overrides : ∀ o ∈ device_type.overridden_subscriptions, ∀ segment ∈ o.browse_path, PortableSegment segment
  constraints : ∀ constraint, device_type.apply_constraints = some constraint →
    ∀ candidate ∈ non_blank constraint.matches_node_ids, PortableNodeId candidate

section Renumber

variable {table table' : NamespaceTable} (σ : Renumbering table table') (codec : TextCodec)

def NodeRef.renumber : NodeRef → NodeRef
  | .Known node_id => .Known (σ.node_id node_id)
  | .Path path => .Path (path.map σ.qualified_name)

def Entry.renumber (self : Entry) : Entry := { self with node_ref := self.node_ref.renumber σ }

def Plan.renumber (self : Plan) : Plan where
  device_type_id := self.device_type_id
  device_type_name := self.device_type_name
  root_node_id := σ.node_id self.root_node_id
  entries := self.entries.map (Entry.renumber σ)

/-- The same node, under the text of its new NodeId. -/
def ResolvedNode.renumber (self : ResolvedNode) : ResolvedNode where
  node_id := σ.node_id self.node_id
  node_id_str := (σ.node_id self.node_id).to_string codec
  actions := self.actions
  delivery := self.delivery

def renumberOverride (o : List QualifiedName × Option Delivery) : List QualifiedName × Option Delivery :=
  (o.1.map σ.qualified_name, o.2)

theorem overrides_of_renumber {device_type : DeviceType} (hportable : Portable device_type) :
    overrides_of device_type table' = (overrides_of device_type table).map (renumberOverride σ) := by
  rw [overrides_of, overrides_of, List.map_map]
  refine List.map_congr_left fun o hmem => ?_
  rw [Function.comp_apply, renumberOverride, σ.to_qualified_names (hportable.overrides o (List.mem_of_mem_filter hmem))]

/-- The same override is found: paths differ after the renumbering only where they did
before. -/
theorem find_override (overrides : List (List QualifiedName × Option Delivery)) (path : List QualifiedName) :
    ((overrides.map (renumberOverride σ)).find? fun o => o.1 == path.map σ.qualified_name).map Prod.snd =
      (overrides.find? fun o => o.1 == path).map Prod.snd := by
  have hsame : (fun o : List QualifiedName × Option Delivery => o.1 == path.map σ.qualified_name) ∘
      renumberOverride σ = fun o => o.1 == path := by
    funext o
    rw [Function.comp_apply, renumberOverride, Bool.eq_iff_iff, beq_iff_eq, beq_iff_eq]
    exact (List.map_injective_iff.mpr σ.qualified_name_injective).eq_iff
  rw [List.find?_map, hsame, Option.map_map]
  rfl

theorem nodeRefOf_renumber {entry : MappingEntry}
    (hnode_id : ∀ node_id, entry.referenced_node_id = some node_id → PortableNodeId node_id)
    (hpath : ∀ segment ∈ entry.browse_path, PortableSegment segment) :
    nodeRefOf codec table' entry = (nodeRefOf codec table entry).map (NodeRef.renumber σ) := by
  rw [nodeRefOf, nodeRefOf]
  cases hreferenced : entry.referenced_node_id.filter (· != "") with
  | some node_id =>
    have hportable := hnode_id node_id (Option.filter_eq_some_iff.mp hreferenced).1
    simp only [σ.parse_node_id codec hportable]
    cases parse_node_id codec table node_id <;> rfl
  | none =>
    simp only [σ.to_qualified_names hpath]
    cases entry.browse_path.isEmpty <;> rfl

theorem planEntry_renumber (default_delivery : Option Delivery)
    (overrides : List (List QualifiedName × Option Delivery)) {entry : MappingEntry}
    (hnode_id : ∀ node_id, entry.referenced_node_id = some node_id → PortableNodeId node_id)
    (hpath : ∀ segment ∈ entry.browse_path, PortableSegment segment) :
    planEntry codec table' default_delivery (overrides.map (renumberOverride σ)) entry =
      (planEntry codec table default_delivery overrides entry).map (Entry.renumber σ) := by
  rw [planEntry, planEntry, nodeRefOf_renumber σ codec hnode_id hpath, σ.to_qualified_names hpath]
  dsimp only
  rw [find_override]
  split
  · rfl
  · split
    · rfl
    · cases nodeRefOf codec table entry with
      | none => rfl
      | some node_ref =>
        cases ((overrides.find? fun o => o.1 == to_qualified_names table entry.browse_path).map
          Prod.snd).getD default_delivery <;> rfl

theorem rootOf_renumber {device_type : DeviceType} (hportable : Portable device_type) :
    rootOf codec table' device_type = (rootOf codec table device_type).map σ.node_id := by
  rw [rootOf, rootOf]
  cases hroot : device_type.referenced_root_node_id with
  | some root => exact σ.parse_node_id codec (hportable.root root hroot)
  | none => simp only [Except.map, σ.node_id_standard]

/-- A portable device type is planned alike: the same entries, on the nodes as they are
numbered now, or the same error. -/
theorem plan_renumber (device_type_id : String) {device_type : DeviceType} (hportable : Portable device_type) :
    plan codec device_type_id device_type table' =
      (plan codec device_type_id device_type table).map (Plan.renumber σ) := by
  rw [plan, plan, rootOf_renumber σ codec hportable]
  cases rootOf codec table device_type with
  | error error => rfl
  | ok root =>
    simp only [Except.map, Plan.renumber, Except.ok.injEq, Plan.mk.injEq, true_and, List.map_filterMap]
    refine List.filterMap_congr fun entry hmem => ?_
    rw [overrides_of_renumber σ hportable]
    exact planEntry_renumber σ codec _ _ (hportable.node_ids entry hmem) (hportable.browse_paths entry hmem)

include σ in
theorem matches_node_ids_renumber {constraint : ApplyConstraints} {device_type : DeviceType}
    (hportable : Portable device_type) (hconstraint : device_type.apply_constraints = some constraint) :
    matches_node_ids codec constraint device_type table' = matches_node_ids codec constraint device_type table := by
  rw [matches_node_ids, matches_node_ids]
  split
  · rfl
  · cases hroot : device_type.referenced_root_node_id with
    | none => rfl
    | some root =>
      simp only [σ.parse_node_id codec (hportable.root root hroot)]
      cases parse_node_id codec table root with
      | error error => rfl
      | ok root =>
        simp only [Except.map]
        rw [Bool.eq_iff_iff, List.any_eq_true, List.any_eq_true]
        refine exists_congr fun candidate => and_congr_right fun hmem => ?_
        rw [σ.parse_node_id codec (hportable.constraints constraint hconstraint candidate hmem)]
        cases parse_node_id codec table candidate with
        | error error => rfl
        | ok id => simp only [Except.map, beq_iff_eq, σ.node_id_inj]

include σ in
theorem applies_renumber {device_type : DeviceType} (hportable : Portable device_type) (server_id : String)
    (known_server_ids : List String) :
    applies codec device_type server_id known_server_ids table' =
      applies codec device_type server_id known_server_ids table := by
  rw [applies, applies]
  cases hconstraint : device_type.apply_constraints with
  | none => rfl
  | some constraint => simp only [matches_node_ids_renumber σ codec hportable hconstraint]

theorem Plan.pending_paths_renumber (self : Plan) :
    (self.renumber σ).pending_paths = self.pending_paths.map fun p => (p.1, p.2.map σ.qualified_name) := by
  rw [Plan.pending_paths, Plan.pending_paths, Plan.renumber, List.zipIdx_map, List.filterMap_map, List.map_filterMap]
  refine List.filterMap_congr fun indexed _ => ?_
  obtain ⟨entry, i⟩ := indexed
  cases href : entry.node_ref <;> simp [Entry.renumber, NodeRef.renumber, href]

theorem Plan.set_resolved_renumber (self : Plan) (index : Nat) (node_id : NodeId) :
    (self.renumber σ).set_resolved index (σ.node_id node_id) = (self.set_resolved index node_id).renumber σ := by
  simp only [Plan.set_resolved, Plan.renumber, Plan.mk.injEq, true_and]
  refine List.ext_getElem? fun i => ?_
  simp only [List.getElem?_modify, List.getElem?_map]
  cases self.entries[i]? with
  | none => rfl
  | some entry => by_cases hsame : index = i <;> simp [hsame, Entry.renumber, NodeRef.renumber]

theorem addToNode_renumber (node_id : NodeId) (entry : Entry) (nodes : List ResolvedNode) :
    addToNode codec (σ.node_id node_id) (entry.renumber σ) (nodes.map (ResolvedNode.renumber σ codec)) =
      (addToNode codec node_id entry nodes).map (ResolvedNode.renumber σ codec) := by
  induction nodes with
  | nil => rfl
  | cons node rest ih =>
    have hsame : sameNode (σ.node_id node_id) (entry.renumber σ).delivery (node.renumber σ codec) =
        sameNode node_id entry.delivery node := by
      rw [Bool.eq_iff_iff]
      simp [sameNode, ResolvedNode.renumber, Entry.renumber, ResolvedNode.read_schedule]
    rw [List.map_cons, addToNode, addToNode, hsame]
    split
    · rfl
    · rw [List.map_cons, ih]

/-- Renumbering neither joins nor splits the nodes. -/
theorem Plan.finish_renumber (self : Plan) :
    ((self.renumber σ).finish codec).nodes = (self.finish codec).nodes.map (ResolvedNode.renumber σ codec) := by
  have hfold : ∀ (entries : List Entry) (nodes : List ResolvedNode), (entries.map (Entry.renumber σ)).foldl (addEntry codec)
      (nodes.map (ResolvedNode.renumber σ codec)) =
      (entries.foldl (addEntry codec) nodes).map (ResolvedNode.renumber σ codec) := by
    intro entries
    induction entries with
    | nil =>
      intro nodes
      rfl
    | cons entry rest ih =>
      intro nodes
      rw [List.map_cons, List.foldl_cons, List.foldl_cons, ← ih]
      congr 1
      have hrenumbered : (entry.renumber σ).node_ref = entry.node_ref.renumber σ := rfl
      rw [addEntry, addEntry, hrenumbered]
      cases entry.node_ref with
      | Known node_id => exact addToNode_renumber σ codec node_id entry nodes
      | Path path => rfl
  exact hfold self.entries []

end Renumber

end mapping.resolve
