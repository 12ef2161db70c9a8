import OpcuaGateway.Gateway.ServerTask.Resolution
import OpcuaGateway.Gateway.Supervisor.History

open mapping.model mapping.namespace_table mapping.constraints mapping.resolve mapping.source
  gateway.config gateway.server_task opcua_conn

namespace gateway.supervisor

variable {codec : TextCodec} {config : Config}

/-- The device types a task has applied once it has resolved them all. -/
def appliedTo (codec : TextCodec) (session : Session) (device_types : List LoadedDeviceType)
    (task : Running) : List String :=
  match resolve_all codec session task.server task.known_server_ids device_types with
  | .ok mappings => mappings.map (·.device_type_id)
  | .error _ => []

/-- The pairs of server and device type that are applied when every running task has
resolved against the session of its server. -/
def Applied (codec : TextCodec) (sessions : String → Session) (device_types : List LoadedDeviceType)
    (running : RunningSet) (server_id device_type_id : String) : Prop :=
  ∃ task, running.get server_id = some task ∧
    device_type_id ∈ appliedTo codec (sessions server_id) device_types task

/-- The known servers decide about this device type on this server: its constraint
names servers but not this one, and nothing else keeps it from being applied. -/
structure Scoped (codec : TextCodec) (server : ServerConfig) (loaded : LoadedDeviceType)
    (constraint : ApplyConstraints) : Prop where
  constrained : loaded.device_type.apply_constraints = some constraint
  enabled : loaded.device_type.enabled = true
  accepted : server.accepts_device_type loaded.id = true
  named : non_blank constraint.matches_server_ids ≠ []
  foreign : server.id ∉ non_blank constraint.matches_server_ids
  usable : ∃ table p, matches_node_ids codec constraint loaded.device_type table = true ∧
    plan codec loaded.id loaded.device_type table = .ok p ∧ p.entries ≠ []

theorem Scoped.isApplicable_iff {server : ServerConfig} {loaded : LoadedDeviceType}
    {constraint : ApplyConstraints} (hscoped : Scoped codec server loaded constraint)
    {table : NamespaceTable} (hnodes : matches_node_ids codec constraint loaded.device_type table = true)
    {known : List String} :
    isApplicable codec server known table loaded = true ↔ ¬ NamesAny constraint known := by
  simp [isApplicable, applies, hscoped.accepted, hscoped.enabled, hscoped.constrained, hnodes,
    matches_server_ids_iff, hscoped.named, hscoped.foreign]

/-- A device type that the known servers decide about is applicable with both or
neither of two sets that its constraint treats alike. -/
theorem isApplicable_eq_or_resolves_to_nothing {server : ServerConfig} {loaded : LoadedDeviceType}
    {known known' : List String} {session : Session} {table : NamespaceTable}
    (halike : ∀ constraint, Scoped codec server loaded constraint →
      (NamesAny constraint known ↔ NamesAny constraint known')) :
    isApplicable codec server known table loaded = isApplicable codec server known' table loaded ∨
      resolveDeviceType codec session table loaded = .ok none := by
  by_cases hentries : ∀ p, plan codec loaded.id loaded.device_type table = .ok p → p.entries = []
  · exact Or.inr (resolveDeviceType_of_no_entries hentries)
  · push Not at hentries
    obtain ⟨p, hplan, hentries⟩ := hentries
    refine Or.inl ?_
    by_contra hdiffer
    unfold isApplicable applies at hdiffer
    cases haccepted : server.accepts_device_type loaded.id with
    | false => simp [haccepted] at hdiffer
    | true =>
      cases henabled : loaded.device_type.enabled with
      | false => simp [henabled] at hdiffer
      | true =>
        cases hconstraint : loaded.device_type.apply_constraints with
        | none => simp [hconstraint] at hdiffer
        | some constraint =>
          simp only [haccepted, henabled, hconstraint, Bool.true_and] at hdiffer
          cases hnodes : matches_node_ids codec constraint loaded.device_type table with
          | false => simp [hnodes] at hdiffer
          | true =>
            rw [hnodes, Bool.and_true, Bool.and_true, Bool.eq_iff_iff, matches_server_ids_iff,
              matches_server_ids_iff] at hdiffer
            have hnamed : non_blank constraint.matches_server_ids ≠ [] := fun h => hdiffer (by simp [h])
            have hforeign : server.id ∉ non_blank constraint.matches_server_ids :=
              fun h => hdiffer (by simp [h])
            have hscoped : Scoped codec server loaded constraint :=
              ⟨hconstraint, henabled, haccepted, hnamed, hforeign, table, p, hnodes, hplan, hentries⟩
            simp [hnamed, hforeign, halike constraint hscoped] at hdiffer

theorem appliedTo_congr {session : Session} {device_types : List LoadedDeviceType} {server : ServerConfig}
    {known known' : List String}
    (halike : ∀ loaded ∈ device_types, ∀ constraint, Scoped codec server loaded constraint →
      (NamesAny constraint known ↔ NamesAny constraint known')) :
    appliedTo codec session device_types ⟨server, known⟩ =
      appliedTo codec session device_types ⟨server, known'⟩ := by
  have hsame : resolve_all codec session server known device_types =
      resolve_all codec session server known' device_types := by
    unfold resolve_all
    split
    · rfl
    · exact resolveEach_congr fun loaded hloaded =>
        isApplicable_eq_or_resolves_to_nothing (halike loaded hloaded)
  rw [appliedTo, appliedTo, hsame]

/-- On a server that resolves everything, a scoped device type is applied exactly
when its constraint names no known server. -/
theorem mem_appliedTo_resolvingSession {device_types : List LoadedDeviceType}
    (hids : (device_types.map (·.id)).Nodup) {server : ServerConfig} {known : List String}
    {loaded : LoadedDeviceType} (hloaded : loaded ∈ device_types) {constraint : ApplyConstraints}
    (hscoped : Scoped codec server loaded constraint) {table : NamespaceTable} {p : Plan}
    (hnodes : matches_node_ids codec constraint loaded.device_type table = true)
    (hplan : plan codec loaded.id loaded.device_type table = .ok p) (hentries : p.entries ≠ []) :
    loaded.id ∈ appliedTo codec (resolvingSession table.uris) device_types ⟨server, known⟩ ↔
      ¬ NamesAny constraint known := by
  have hok := fun other => resolveDeviceType_resolvingSession_ok codec table table.uris other
  obtain ⟨mappings, hresolved, hmem⟩ := mem_resolveEach server known device_types hok
  have hall : resolve_all codec (resolvingSession table.uris) server known device_types =
      .ok mappings := hresolved
  rw [appliedTo, hall, ← hscoped.isApplicable_iff hnodes, List.mem_map]
  constructor
  · rintro ⟨mapping, hmapping, hid⟩
    obtain ⟨other, hother, happlicable, hfound⟩ := (hmem mapping).mp hmapping
    have hsame : other = loaded :=
      List.inj_on_of_nodup_map hids hother hloaded ((resolveDeviceType_eq_some hfound).1.symm.trans hid)
    rwa [hsame] at happlicable
  · intro happlicable
    obtain ⟨mapping, hmapping⟩ := resolveDeviceType_resolvingSession table.uris hplan hentries
    exact ⟨mapping, (hmem mapping).mpr ⟨loaded, hloaded, happlicable, hmapping⟩,
      (resolveDeviceType_eq_some hmapping).1⟩

/-- The tasks of a last list `cloud` behind the lists of `history`. -/
abbrev runTo (config : Config) (history : List (List ServerConfig)) (cloud : List ServerConfig) :
    RunningSet :=
  run config (history ++ [cloud])

/-- What the task of a server was told in a history. -/
def toldIn (config : Config) (history : List (List ServerConfig)) (cloud : List ServerConfig)
    (server : ServerConfig) : List String :=
  startedWith server (desired config cloud) (history.reverse.map (desired config))

/-- Two histories with the same final servers apply the same device types, whatever
the servers answer, exactly when no device type is scoped by a constraint that names
a server told to the task in one of them and none in the other. -/
theorem applied_independent_iff (codec : TextCodec) (config : Config)
    {device_types : List LoadedDeviceType} (hids : (device_types.map (·.id)).Nodup)
    {history history' : List (List ServerConfig)} {cloud cloud' : List ServerConfig}
    (hfirst : ∀ servers ∈ history ++ [cloud], (serverIds servers).Nodup)
    (hsecond : ∀ servers ∈ history' ++ [cloud'], (serverIds servers).Nodup)
    (hfinal : desired config cloud = desired config cloud') :
    (∀ sessions server_id device_type_id,
        Applied codec sessions device_types (runTo config history cloud) server_id device_type_id ↔
          Applied codec sessions device_types (runTo config history' cloud') server_id device_type_id) ↔
      ∀ server ∈ desired config cloud, ∀ loaded ∈ device_types, ∀ constraint,
        Scoped codec server loaded constraint →
          (NamesAny constraint (toldIn config history cloud server) ↔
            NamesAny constraint (toldIn config history' cloud' server)) := by
  have hcloud : (serverIds (desired config cloud)).Nodup := nodup_desired (hfirst cloud (by simp))
  have happlied : ∀ {history cloud}, (∀ servers ∈ history ++ [cloud], (serverIds servers).Nodup) →
      ∀ {server}, server ∈ desired config cloud → ∀ sessions device_type_id,
        (Applied codec sessions device_types (runTo config history cloud) server.id device_type_id ↔
          device_type_id ∈ appliedTo codec (sessions server.id) device_types
            ⟨server, toldIn config history cloud server⟩) := by
    intro history cloud hlists server hserver sessions device_type_id
    have hfind := (find?_id_eq_some (nodup_desired (hlists cloud (by simp)))).mpr ⟨hserver, rfl⟩
    rw [Applied, get_run hlists, tasksOf, hfind, Option.map_some]
    simp [toldIn]
  constructor
  · intro hsame server hserver loaded hloaded constraint hscoped
    obtain ⟨table, p, hnodes, hplan, hentries⟩ := hscoped.usable
    have hpair := hsame (fun _ => resolvingSession table.uris) server.id loaded.id
    rw [happlied hfirst hserver, happlied hsecond (hfinal ▸ hserver),
      mem_appliedTo_resolvingSession hids hloaded hscoped hnodes hplan hentries,
      mem_appliedTo_resolvingSession hids hloaded hscoped hnodes hplan hentries] at hpair
    exact not_iff_not.mp hpair
  · intro halike sessions server_id device_type_id
    by_cases hwanted : server_id ∈ serverIds (desired config cloud)
    · obtain ⟨server, hserver, rfl⟩ := List.mem_map.mp hwanted
      rw [happlied hfirst hserver, happlied hsecond (hfinal ▸ hserver),
        appliedTo_congr fun loaded hloaded => halike server hserver loaded hloaded]
    · have hnone : (desired config cloud).find? (·.id == server_id) = none := by
        rw [List.find?_eq_none]
        rintro server hserver hid
        exact hwanted (List.mem_map.mpr ⟨server, hserver, by simpa using hid⟩)
      rw [Applied, Applied, get_run hfirst, get_run hsecond, tasksOf, tasksOf, ← hfinal, hnone]
      simp

/-- Whether server `b` arrives before or together with `a` makes no difference: the
task of `a` is told both ids. -/
theorem applied_independent_of_b_first :
    Applied plainCodec (fun _ => resolvingSession []) [sampleDeviceType]
        (runTo .default [] [sampleServer "a", sampleServer "b"]) "a" "pump" ↔
      Applied plainCodec (fun _ => resolvingSession []) [sampleDeviceType]
        (runTo .default [[sampleServer "b"]] [sampleServer "a", sampleServer "b"]) "a" "pump" := by
  refine (applied_independent_iff plainCodec .default (by decide) (by decide) (by decide) rfl).mpr ?_ _ _ _
  have htold : ∀ server ∈ desired .default [sampleServer "a", sampleServer "b"],
      server = sampleServer "b" ∨
        toldIn .default [] [sampleServer "a", sampleServer "b"] server =
          toldIn .default [[sampleServer "b"]] [sampleServer "a", sampleServer "b"] server := by
    decide
  intro server hserver loaded hloaded constraint hscoped
  rcases htold server hserver with rfl | hsame
  · obtain rfl := List.mem_singleton.mp hloaded
    have hconstraint := hscoped.constrained
    obtain rfl : (⟨["b"], []⟩ : ApplyConstraints) = constraint := by simpa [sampleDeviceType] using hconstraint
    exact absurd (by decide) hscoped.foreign
  · rw [hsame]

/-- Whether server `a` arrives before `b` decides about the device type on `a`. -/
theorem applied_depends_on_a_first :
    ¬ ∀ sessions server_id device_type_id,
      Applied plainCodec sessions [sampleDeviceType]
          (runTo .default [] [sampleServer "a", sampleServer "b"]) server_id device_type_id ↔
        Applied plainCodec sessions [sampleDeviceType]
          (runTo .default [[sampleServer "a"]] [sampleServer "a", sampleServer "b"])
          server_id device_type_id := by
  intro hall
  have hlate : Applied plainCodec (fun _ => resolvingSession []) [sampleDeviceType]
      (runTo .default [[sampleServer "a"]] [sampleServer "a", sampleServer "b"]) "a" "pump" :=
    ⟨⟨sampleServer "a", ["a"]⟩, by decide, by decide⟩
  obtain ⟨task, htask, hmem⟩ := (hall _ _ _).mpr hlate
  have hrunning : (runTo .default [] [sampleServer "a", sampleServer "b"]).get "a" =
      some ⟨sampleServer "a", ["a", "b"]⟩ := by decide
  cases htask.symm.trans hrunning
  revert hmem
  decide

end gateway.supervisor
