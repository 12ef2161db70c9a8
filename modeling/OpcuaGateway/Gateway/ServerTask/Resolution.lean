import OpcuaGateway.Gateway.ServerTask

open mapping.namespace_table mapping.resolve mapping.source gateway.config opcua_conn result

namespace gateway.server_task

variable {codec : TextCodec} {session : Session} {server : ServerConfig} {table : NamespaceTable}

/-- The entry at this place of a plan has its NodeId. -/
def KnownAt (plan : Plan) (index : Nat) : Prop :=
  ∃ entry node_id, plan.entries[index]? = some entry ∧ entry.node_ref = .Known node_id

theorem knownAt_set_resolved_self {plan : Plan} {index : Nat} (node_id : NodeId)
    (hindex : index < plan.entries.length) : KnownAt (plan.set_resolved index node_id) index := by
  refine ⟨{ plan.entries[index] with node_ref := .Known node_id }, node_id, ?_, rfl⟩
  simp [Plan.set_resolved, hindex]

theorem KnownAt.set_resolved {plan : Plan} {index : Nat} (hknown : KnownAt plan index) (other : Nat)
    (node_id : NodeId) : KnownAt (plan.set_resolved other node_id) index := by
  obtain ⟨entry, known, hentry, href⟩ := hknown
  by_cases hsame : other = index
  · subst hsame
    exact knownAt_set_resolved_self node_id (List.getElem?_eq_some_iff.mp hentry).1
  · refine ⟨entry, known, ?_, href⟩
    simpa [Plan.set_resolved, List.getElem?_modify, hsame] using hentry

theorem KnownAt.setAllResolved {plan : Plan} {index : Nat} (hknown : KnownAt plan index)
    (found : List ((Nat × List QualifiedName) × Option NodeId)) :
    KnownAt (setAllResolved plan found) index := by
  induction found generalizing plan with
  | nil => exact hknown
  | cons head rest ih =>
    obtain ⟨⟨i, path⟩, resolved⟩ := head
    cases resolved with
    | none => exact ih hknown
    | some node_id => exact ih (hknown.set_resolved i node_id)

theorem setAllResolved_device_type_id (plan : Plan)
    (found : List ((Nat × List QualifiedName) × Option NodeId)) :
    (setAllResolved plan found).device_type_id = plan.device_type_id := by
  induction found generalizing plan with
  | nil => rfl
  | cons head rest ih =>
    obtain ⟨entry, resolved⟩ := head
    cases resolved with
    | none => exact ih plan
    | some node_id => exact ih (plan.set_resolved entry.1 node_id)

theorem translatePending_device_type_id {before after : Plan}
    (h : translatePending session before = .ok after) : after.device_type_id = before.device_type_id := by
  unfold translatePending at h
  dsimp only at h
  split at h
  · cases h
    rfl
  · obtain ⟨resolved, -, rfl⟩ := map_eq_ok_iff.mp h
    exact setAllResolved_device_type_id _ _

/-- A resolved mapping carries the id of its device type and has nodes. -/
theorem resolveDeviceType_eq_some {loaded : LoadedDeviceType} {mapping : ResolvedMapping}
    (h : resolveDeviceType codec session table loaded = .ok (some mapping)) :
    mapping.device_type_id = loaded.id ∧ mapping.nodes ≠ [] := by
  unfold resolveDeviceType at h
  split at h
  · cases h
  · rename_i planned hplan
    obtain ⟨translated, htranslated, hfinish⟩ := map_eq_ok_iff.mp h
    dsimp only at hfinish
    split at hfinish
    · cases hfinish
    · rename_i hnodes
      cases hfinish
      refine ⟨?_, by simpa using hnodes⟩
      rw [Plan.finish, translatePending_device_type_id htranslated, plan_eq_ok hplan]

/-- A device type without a usable entry resolves to nothing, whatever the session
answers. -/
theorem resolveDeviceType_of_no_entries {loaded : LoadedDeviceType}
    (h : ∀ p, plan codec loaded.id loaded.device_type table = .ok p → p.entries = []) :
    resolveDeviceType codec session table loaded = .ok none := by
  unfold resolveDeviceType
  split
  · rfl
  · rename_i planned hplan
    have hentries := h planned hplan
    have hpending : planned.pending_paths = [] := by simp [Plan.pending_paths, hentries]
    simp [translatePending, hpending, Except.map, Plan.finish, hentries]

/-- A server that resolves every browse path to one node. -/
def resolvingSession (uris : List String) : Session where
  read_namespace_array := .ok (some uris)
  translate_browse_paths_to_node_ids _ paths :=
    .ok (paths.map fun _ => ⟨true, [⟨"", ⟨0, .Numeric 0⟩, PATH_FULLY_RESOLVED⟩]⟩)

theorem translate_resolvingSession (uris : List String) (root : NodeId) {paths : List (List QualifiedName)}
    (hpaths : paths ≠ []) : translate_browse_paths (resolvingSession uris) root paths =
      .ok (paths.map fun _ => some ⟨0, .Numeric 0⟩) := by
  rw [translate_browse_paths, if_neg (by simpa using hpaths)]
  simp only [resolvingSession, Except.map, Except.ok.injEq]
  refine List.ext_getElem? fun i => ?_
  by_cases hi : i < paths.length
  · simp [hi, resolvedTarget, to_node_id]
  · simp [hi]

/-- On that server every device type with a usable entry resolves to some nodes. -/
theorem resolveDeviceType_resolvingSession (uris : List String) {loaded : LoadedDeviceType} {p : Plan}
    (hplan : plan codec loaded.id loaded.device_type table = .ok p) (hentries : p.entries ≠ []) :
    ∃ mapping, resolveDeviceType codec (resolvingSession uris) table loaded = .ok (some mapping) := by
  have htranslated : ∃ q, translatePending (resolvingSession uris) p = .ok q ∧ KnownAt q 0 := by
    obtain ⟨entry, rest, hcons⟩ := List.exists_cons_of_ne_nil hentries
    cases href : entry.node_ref with
    | Known node_id =>
      have hknown : KnownAt p 0 := ⟨entry, node_id, by simp [hcons], href⟩
      unfold translatePending
      dsimp only
      split
      · exact ⟨p, rfl, hknown⟩
      · rename_i hpending
        rw [translate_resolvingSession _ _ (by simpa using hpending)]
        exact ⟨_, rfl, hknown.setAllResolved _⟩
    | Path path =>
      have hpending : ∃ more, p.pending_paths = (0, path) :: more := by
        simp [Plan.pending_paths, hcons, List.zipIdx_cons, href]
      obtain ⟨more, hpending⟩ := hpending
      rw [translatePending, hpending]
      simp only [List.isEmpty_cons, Bool.false_eq_true, if_false, List.map_cons]
      rw [translate_resolvingSession _ _ (by simp)]
      refine ⟨_, rfl, ?_⟩
      exact (knownAt_set_resolved_self _ (by simp [hcons])).setAllResolved _
  obtain ⟨q, hq, entry, node_id, hentry, href⟩ := htranslated
  have hnodes : (q.finish codec).nodes ≠ [] :=
    foldl_addEntry_ne_nil (Or.inr ⟨entry, List.mem_of_getElem? hentry, node_id, href⟩)
  refine ⟨q.finish codec, ?_⟩
  simp [resolveDeviceType, hplan, hq, Except.map, hnodes]

variable (codec table) in
/-- Every device type resolves without an error on that server. -/
theorem resolveDeviceType_resolvingSession_ok (uris : List String) (loaded : LoadedDeviceType) :
    ∃ found, resolveDeviceType codec (resolvingSession uris) table loaded = .ok found := by
  cases hplan : plan codec loaded.id loaded.device_type table with
  | error error => exact ⟨none, by simp [resolveDeviceType, hplan]⟩
  | ok p =>
    by_cases hentries : p.entries = []
    · exact ⟨none, resolveDeviceType_of_no_entries fun q hq => by
        cases hplan.symm.trans hq
        exact hentries⟩
    · obtain ⟨mapping, hmapping⟩ := resolveDeviceType_resolvingSession uris hplan hentries
      exact ⟨some mapping, hmapping⟩

/-- Two sets of known servers give the same resolution when each device type is
either applicable with both or neither, or resolves to nothing. -/
theorem resolveEach_congr {known known' : List String} {device_types : List LoadedDeviceType}
    (h : ∀ loaded ∈ device_types,
      isApplicable codec server known table loaded = isApplicable codec server known' table loaded ∨
        resolveDeviceType codec session table loaded = .ok none) :
    resolveEach codec session server known table device_types =
      resolveEach codec session server known' table device_types := by
  induction device_types with
  | nil => rfl
  | cons loaded rest ih =>
    have hrest := ih fun other hother => h other (List.mem_cons_of_mem _ hother)
    rw [resolveEach, resolveEach, hrest]
    rcases h loaded List.mem_cons_self with hsame | hnone
    · rw [hsame]
    · simp only [hnone, ite_self]

variable (server) in
/-- What a resolution without errors applies. -/
theorem mem_resolveEach (known : List String) (device_types : List LoadedDeviceType)
    (hok : ∀ loaded, ∃ found, resolveDeviceType codec session table loaded = .ok found) :
    ∃ mappings, resolveEach codec session server known table device_types = .ok mappings ∧
      ∀ mapping, mapping ∈ mappings ↔ ∃ loaded ∈ device_types,
        isApplicable codec server known table loaded = true ∧
        resolveDeviceType codec session table loaded = .ok (some mapping) := by
  induction device_types with
  | nil => exact ⟨[], rfl, by simp⟩
  | cons loaded rest ih =>
    obtain ⟨mappings, hrest, hmem⟩ := ih
    obtain ⟨found, hfound⟩ := hok loaded
    rw [resolveEach, hrest, hfound]
    cases happlicable : isApplicable codec server known table loaded with
    | false => exact ⟨mappings, rfl, by simp [hmem, happlicable]⟩
    | true =>
      cases found with
      | none => exact ⟨mappings, rfl, by simp [hmem, hfound]⟩
      | some mapping =>
        refine ⟨mapping :: mappings, rfl, fun other => ?_⟩
        simp only [List.mem_cons, hmem, exists_eq_or_imp, hfound, happlicable, true_and,
          Except.ok.injEq, Option.some.injEq, eq_comm (a := other) (b := mapping)]

def sampleServer (id : String) : ServerConfig where
  id := id
  name := id
  url := "opc.tcp://plc:4840"
  security_policy := "None"
  user := none
  password := none
  device_types := []
  external_id := none
  topic_id_override := none

/-- A device type for server `b`, with one subscribed node. -/
def sampleDeviceType : LoadedDeviceType where
  id := "pump"
  origin := .Pull
  fingerprint := ""
  device_type :=
    { name := "Pump"
      enabled := true
      mappings := [
        { name := none
          browse_path := []
          referenced_node_id := some "i=85"
          measurement_creation := some ⟨some "pump", none, none, none, none⟩
          event_creation := none
          alarm_creation := none }]
      apply_constraints := some ⟨["b"], []⟩
      subscription_type := some ⟨some "Subscription", none, none⟩
      overridden_subscriptions := []
      referenced_root_node_id := none }

/-- A codec that knows no GUIDs and no byte strings. -/
def plainCodec : TextCodec := ⟨fun _ => none, fun _ => "", fun _ => none, fun _ => ""⟩

end gateway.server_task
