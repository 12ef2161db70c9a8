import OpcuaGateway.Gateway.ServerTask.Resolution
import OpcuaGateway.Mapping.Resolve.Portability

open text ordered_map mapping.model mapping.namespace_table mapping.resolve mapping.source gateway.config opcua_conn

namespace gateway.server_task

section Sessions

variable {table table' : NamespaceTable} (σ : Renumbering table table')

/-- The answer of a server to one browse path, with its namespaces renumbered. -/
def renumberResult (result : BrowsePathResult) : BrowsePathResult where
  is_good := result.is_good
  targets := result.targets.map fun target => { target with node_id := σ.node_id target.node_id }

/-- The second session is one with the same server, which now numbers its namespaces
otherwise: a browse path leads to the same node. -/
def Mirrors (session session' : Session) : Prop :=
  ∀ root paths,
    session'.translate_browse_paths_to_node_ids (σ.node_id root) (paths.map (List.map σ.qualified_name)) =
      (session.translate_browse_paths_to_node_ids root paths).map (List.map (renumberResult σ))

/-- What is resolved on the two is the same, but for the NodeIds and their texts. -/
structure Renumbered (codec : TextCodec) (mapping mapping' : ResolvedMapping) : Prop where
  device_type_id : mapping'.device_type_id = mapping.device_type_id
  device_type_name : mapping'.device_type_name = mapping.device_type_name
  root : ∃ root : NodeId, mapping.root_node_id = root.to_string codec ∧
    mapping'.root_node_id = (σ.node_id root).to_string codec
  nodes : mapping'.nodes = mapping.nodes.map (ResolvedNode.renumber σ codec)

theorem resolvedTarget_renumber (result : BrowsePathResult) :
    resolvedTarget (renumberResult σ result) = (resolvedTarget result).map σ.node_id := by
  rw [resolvedTarget, resolvedTarget, renumberResult]
  split
  · rw [List.find?_map]
    cases hfind : result.targets.find? fun target => target.remaining_path_index == PATH_FULLY_RESOLVED with
    | none =>
      rw [Function.comp_def, hfind]
      rfl
    | some target =>
      rw [Function.comp_def, hfind]
      simp only [Option.map_some, Option.bind_some, to_node_id]
      split <;> rfl
  · rfl

theorem translate_browse_paths_renumber {session session' : Session} (hmirrors : Mirrors σ session session')
    (root : NodeId) (paths : List (List QualifiedName)) :
    translate_browse_paths session' (σ.node_id root) (paths.map (List.map σ.qualified_name)) =
      (translate_browse_paths session root paths).map (List.map (Option.map σ.node_id)) := by
  rw [translate_browse_paths, translate_browse_paths, List.isEmpty_map, hmirrors root paths]
  split
  · rfl
  · cases session.translate_browse_paths_to_node_ids root paths with
    | error error => rfl
    | ok results =>
      simp only [Except.map, Except.ok.injEq, List.zipIdx_map, List.map_map]
      refine List.map_congr_left fun indexed _ => ?_
      simp only [Function.comp_apply, Prod.map, id_eq, List.getElem?_map]
      cases results[indexed.2]? with
      | none => rfl
      | some result => exact resolvedTarget_renumber σ result

theorem setAllResolved_renumber (plan : Plan) (found : List ((Nat × List QualifiedName) × Option NodeId)) :
    setAllResolved (plan.renumber σ)
        (found.map fun entry => ((entry.1.1, entry.1.2.map σ.qualified_name), entry.2.map σ.node_id)) =
      (setAllResolved plan found).renumber σ := by
  induction found generalizing plan with
  | nil => rfl
  | cons head rest ih =>
    obtain ⟨⟨index, path⟩, resolved⟩ := head
    cases resolved with
    | none => exact ih plan
    | some node_id =>
      have hset := ih (plan.set_resolved index node_id)
      rw [← Plan.set_resolved_renumber] at hset
      exact hset

theorem translatePending_renumber {session session' : Session} (hmirrors : Mirrors σ session session')
    (plan : Plan) :
    translatePending session' (plan.renumber σ) = (translatePending session plan).map (Plan.renumber σ) := by
  rw [translatePending, translatePending, Plan.pending_paths_renumber, List.isEmpty_map]
  split
  · rfl
  · have hpaths : (plan.pending_paths.map fun p => (p.1, p.2.map σ.qualified_name)).map Prod.snd =
        (plan.pending_paths.map Prod.snd).map (List.map σ.qualified_name) := by simp
    rw [hpaths, Plan.renumber, translate_browse_paths_renumber σ hmirrors]
    cases translate_browse_paths session plan.root_node_id (plan.pending_paths.map Prod.snd) with
    | error error => rfl
    | ok resolved =>
      simp only [Except.map, Except.ok.injEq, List.zip_map]
      exact setAllResolved_renumber σ plan (plan.pending_paths.zip resolved)

/-- Both fail alike, or both give nothing, or what they give corresponds. -/
theorem resolveDeviceType_renumber (codec : TextCodec) {session session' : Session}
    (hmirrors : Mirrors σ session session') {loaded : LoadedDeviceType} (hportable : Portable loaded.device_type) :
    (∃ error, resolveDeviceType codec session table loaded = .error error ∧
      resolveDeviceType codec session' table' loaded = .error error) ∨
    (resolveDeviceType codec session table loaded = .ok none ∧
      resolveDeviceType codec session' table' loaded = .ok none) ∨
    ∃ mapping mapping', resolveDeviceType codec session table loaded = .ok (some mapping) ∧
      resolveDeviceType codec session' table' loaded = .ok (some mapping') ∧ Renumbered σ codec mapping mapping' := by
  rw [resolveDeviceType, resolveDeviceType, plan_renumber σ codec loaded.id hportable]
  cases plan codec loaded.id loaded.device_type table with
  | error error => exact Or.inr (Or.inl ⟨rfl, rfl⟩)
  | ok planned =>
    simp only [Except.map, translatePending_renumber σ hmirrors]
    cases translatePending session planned with
    | error error => exact Or.inl ⟨error, rfl, rfl⟩
    | ok translated =>
      right
      simp only [Except.ok.injEq, Plan.finish_renumber, List.isEmpty_map]
      by_cases hempty : (translated.finish codec).nodes.isEmpty = true
      · left
        simp [hempty]
      · right
        refine ⟨translated.finish codec, (translated.renumber σ).finish codec, by simp [hempty], by simp [hempty], ?_⟩
        exact ⟨rfl, rfl, ⟨translated.root_node_id, rfl, rfl⟩, translated.finish_renumber σ codec⟩

include σ in
theorem isApplicable_renumber (codec : TextCodec) (server : ServerConfig) (known_server_ids : List String)
    {loaded : LoadedDeviceType} (hportable : Portable loaded.device_type) :
    isApplicable codec server known_server_ids table' loaded = isApplicable codec server known_server_ids table loaded := by
  rw [isApplicable, isApplicable, applies_renumber σ codec hportable]

theorem resolveEach_renumber (codec : TextCodec) {session session' : Session} (hmirrors : Mirrors σ session session')
    (server : ServerConfig) (known_server_ids : List String) {device_types : List LoadedDeviceType}
    (hportable : ∀ loaded ∈ device_types, Portable loaded.device_type) :
    (∃ error, resolveEach codec session server known_server_ids table device_types = .error error ∧
      resolveEach codec session' server known_server_ids table' device_types = .error error) ∨
    ∃ mappings mappings', resolveEach codec session server known_server_ids table device_types = .ok mappings ∧
      resolveEach codec session' server known_server_ids table' device_types = .ok mappings' ∧
      List.Forall₂ (Renumbered σ codec) mappings mappings' := by
  induction device_types with
  | nil => exact Or.inr ⟨[], [], rfl, rfl, .nil⟩
  | cons loaded rest ih =>
    have hrest := ih fun other hother => hportable other (List.mem_cons_of_mem _ hother)
    have hloaded := hportable loaded List.mem_cons_self
    rw [resolveEach, resolveEach, isApplicable_renumber σ codec server known_server_ids hloaded]
    cases isApplicable codec server known_server_ids table loaded with
    | false => exact hrest
    | true =>
      rcases resolveDeviceType_renumber σ codec hmirrors hloaded with
        ⟨error, herror, herror'⟩ | ⟨hnone, hnone'⟩ | ⟨mapping, mapping', hsome, hsome', hcorresponds⟩
      · exact Or.inl ⟨error, by simp [herror], by simp [herror']⟩
      · simpa [hnone, hnone'] using hrest
      · rcases hrest with ⟨error, herror, herror'⟩ | ⟨mappings, mappings', hok, hok', hall⟩
        · exact Or.inl ⟨error, by simp [hsome, herror, Except.map], by simp [hsome', herror', Except.map]⟩
        · exact Or.inr ⟨mapping :: mappings, mapping' :: mappings', by simp [hsome, hok, Except.map],
            by simp [hsome', hok', Except.map], .cons hcorresponds hall⟩

theorem Renumbered.entity {codec : TextCodec} {mapping mapping' : ResolvedMapping}
    (h : Renumbered σ codec mapping mapping') (server : ServerConfig) :
    (AppliedDeviceType.new server mapping').entity = (AppliedDeviceType.new server mapping).entity := by
  rw [AppliedDeviceType.new, AppliedDeviceType.new, h.device_type_id]

/-- Every measurement has a series name of its own, and none is named after its node. -/
def NamesSeries (mapping : ResolvedMapping) : Prop :=
  ∀ node ∈ mapping.nodes, ∀ creation, Action.Measurement creation ∈ node.actions → (nonBlank creation.series).isSome

theorem declareUnit_of_named {creation : MeasurementCreation} (hnamed : (nonBlank creation.series).isSome)
    (node_id node_id' : String) (out : OrderedMap String (List (String × String))) :
    declareUnit node_id out (.Measurement creation) = declareUnit node_id' out (.Measurement creation) := by
  obtain ⟨series, hseries⟩ := Option.isSome_iff_exists.mp hnamed
  rw [declareUnit, declareUnit, MeasurementCreation.series_name, MeasurementCreation.series_name, hseries]
  rfl

theorem Renumbered.measurement_units {codec : TextCodec} {mapping mapping' : ResolvedMapping}
    (h : Renumbered σ codec mapping mapping') (hnamed : NamesSeries mapping) :
    mapping'.measurement_units = mapping.measurement_units := by
  rw [ResolvedMapping.measurement_units, ResolvedMapping.measurement_units, h.nodes, List.foldl_map]
  refine List.foldl_ext _ _ _ fun out node hnode => ?_
  refine List.foldl_ext _ _ _ fun out action haction => ?_
  cases action with
  | Measurement creation => exact declareUnit_of_named (hnamed node hnode creation haction) _ _ out
  | Event creation => rfl
  | Alarm creation => rfl

end Sessions

section Restart

variable {uris uris' : List String} (σ : Renumbering ⟨uris⟩ ⟨uris'⟩)

/-- Where device types are authored against namespace URIs, a server that numbers its
namespaces otherwise after a restart is served as before. The resolution fails with the
same error, or applies the same device types to the same nodes, under the NodeIds these
have now. The devices keep their topics, and the units they declare where every series
has a name of its own. -/
theorem resolve_all_portable (codec : TextCodec) {session session' : Session}
    (hread : namespace_array session = .ok uris) (hread' : namespace_array session' = .ok uris')
    (hmirrors : Mirrors σ session session') (server : ServerConfig) (known_server_ids : List String)
    {device_types : List LoadedDeviceType} (hportable : ∀ loaded ∈ device_types, Portable loaded.device_type) :
    (∃ error, resolve_all codec session server known_server_ids device_types = .error error ∧
      resolve_all codec session' server known_server_ids device_types = .error error) ∨
    ∃ mappings mappings', resolve_all codec session server known_server_ids device_types = .ok mappings ∧
      resolve_all codec session' server known_server_ids device_types = .ok mappings' ∧
      List.Forall₂ (fun mapping mapping' => Renumbered σ codec mapping mapping' ∧
        (AppliedDeviceType.new server mapping').entity = (AppliedDeviceType.new server mapping).entity ∧
        (NamesSeries mapping → mapping'.measurement_units = mapping.measurement_units)) mappings mappings' := by
  rw [resolve_all, resolve_all, hread, hread']
  rcases resolveEach_renumber σ codec hmirrors server known_server_ids hportable with
    herror | ⟨mappings, mappings', hok, hok', hall⟩
  · exact Or.inl herror
  · refine Or.inr ⟨mappings, mappings', hok, hok', hall.imp fun mapping mapping' h => ?_⟩
    exact ⟨h, h.entity σ server, h.measurement_units σ⟩

/-- A server on which a browse path leads to the node that its last name says. -/
def namingSession (uris : List String) : Session where
  read_namespace_array := .ok (some uris)
  translate_browse_paths_to_node_ids _ paths :=
    .ok (paths.map fun path =>
      ⟨path.getLast?.isSome, path.getLast?.toList.map fun qn =>
        ⟨"", ⟨qn.namespace_index, .String qn.name⟩, PATH_FULLY_RESOLVED⟩⟩)

theorem namingSession_mirrors : Mirrors σ (namingSession uris) (namingSession uris') := by
  intro root paths
  simp only [namingSession, Except.map, List.map_map, Except.ok.injEq]
  refine List.map_congr_left fun path _ => ?_
  cases hlast : path.getLast? <;> simp [renumberResult, hlast, Renumbering.qualified_name, Renumbering.node_id]

def plantUris : List String := ["http://opcfoundation.org/UA/", "urn:plant", "urn:pumps"]

def plantUrisAfter : List String := ["http://opcfoundation.org/UA/", "urn:pumps", "urn:plant"]

def plantRenumbering : Renumbering ⟨plantUris⟩ ⟨plantUrisAfter⟩ :=
  .ofPerm (.cons _ (.swap _ _ _)) (by decide) rfl (by decide)

/-- A device type of the pumps, all of it written against URIs. -/
def portableDeviceType : LoadedDeviceType where
  id := "pump"
  origin := .Pull
  fingerprint := ""
  device_type :=
    { name := "Pump"
      enabled := true
      mappings := [
        { name := none
          browse_path := ["urn:pumps:Speed"]
          referenced_node_id := none
          measurement_creation := some ⟨some "pump", some "speed", some "rpm", none, none⟩
          event_creation := none
          alarm_creation := none }]
      apply_constraints := none
      subscription_type := some ⟨some "Subscription", none, none⟩
      overridden_subscriptions := []
      referenced_root_node_id := some "nsu=urn:plant;s=Plant" }

theorem portableDeviceType_portable : Portable portableDeviceType.device_type where
  root root hroot := by
    obtain rfl := Option.some.inj hroot
    decide
  node_ids entry hmem node_id href := by
    obtain rfl := List.mem_singleton.mp hmem
    cases href
  browse_paths entry hmem segment hsegment := by
    obtain rfl := List.mem_singleton.mp hmem
    obtain rfl := List.mem_singleton.mp hsegment
    decide
  overrides o hmem := absurd hmem List.not_mem_nil
  constraints constraint hconstraint := by cases hconstraint

/-- The pumps move from index 2 to index 1. -/
theorem resolve_all_portable_plant :
    ∃ mapping mapping',
      resolve_all plainCodec (namingSession plantUris) (sampleServer "a") ["a"] [portableDeviceType] = .ok [mapping] ∧
      resolve_all plainCodec (namingSession plantUrisAfter) (sampleServer "a") ["a"] [portableDeviceType] =
        .ok [mapping'] ∧ Renumbered plantRenumbering plainCodec mapping mapping' ∧
      mapping.nodes.map (·.node_id_str) = ["ns=2;s=Speed"] ∧ mapping'.nodes.map (·.node_id_str) = ["ns=1;s=Speed"] := by
  have hportable : ∀ loaded ∈ [portableDeviceType], Portable loaded.device_type := by
    intro loaded hmem
    obtain rfl := List.mem_singleton.mp hmem
    exact portableDeviceType_portable
  obtain ⟨mapping, hresolved, hnodes⟩ : ∃ mapping,
      resolve_all plainCodec (namingSession plantUris) (sampleServer "a") ["a"] [portableDeviceType] = .ok [mapping] ∧
        mapping.nodes.map (·.node_id_str) = ["ns=2;s=Speed"] := ⟨_, rfl, by decide⟩
  obtain ⟨mapping', hresolved', hnodes'⟩ : ∃ mapping',
      resolve_all plainCodec (namingSession plantUrisAfter) (sampleServer "a") ["a"] [portableDeviceType] =
        .ok [mapping'] ∧ mapping'.nodes.map (·.node_id_str) = ["ns=1;s=Speed"] := ⟨_, rfl, by decide⟩
  rcases resolve_all_portable plantRenumbering plainCodec rfl rfl (namingSession_mirrors plantRenumbering)
    (sampleServer "a") ["a"] hportable with ⟨error, herror, -⟩ | ⟨mappings, mappings', hok, hok', hall⟩
  · cases hresolved.symm.trans herror
  · cases hresolved.symm.trans hok
    cases hresolved'.symm.trans hok'
    obtain ⟨⟨hcorresponds, -, -⟩, -⟩ := List.forall₂_cons.mp hall
    exact ⟨mapping, mapping', hresolved, hresolved', hcorresponds, hnodes, hnodes'⟩

end Restart

end gateway.server_task
