import OpcuaGateway.Gateway.ServerTask.Resolution

open mapping.model mapping.namespace_table mapping.resolve mapping.source gateway.config opcua_conn result

namespace gateway.server_task

/-- A device type of the set, with the session as it answers at the turn of that
device type. -/
structure Turn where
  loaded : LoadedDeviceType
  session : Session

section Turns

variable (codec : TextCodec) (server : ServerConfig) (known_server_ids : List String) (table : NamespaceTable)

/-- What becomes of one device type; nothing for one that does not apply. -/
def Turn.resolve (turn : Turn) : Except ConnError (Option ResolvedMapping) :=
  if isApplicable codec server known_server_ids table turn.loaded then
    resolveDeviceType codec turn.session table turn.loaded
  else .ok none

/-- The mapping of one device type on its own. -/
def Turn.mapping (turn : Turn) : Option ResolvedMapping :=
  match turn.resolve codec server known_server_ids table with
  | .ok found => found
  | .error _ => none

/-- The request that this device type needs is answered with an error. -/
def Turn.Fails (turn : Turn) : Prop :=
  ∃ error, turn.resolve codec server known_server_ids table = .error error

/-- The resolution of a whole set, one turn after the other. -/
def resolveTurns : List Turn → Except ConnError (List ResolvedMapping)
  | [] => .ok []
  | turn :: rest =>
    match turn.resolve codec server known_server_ids table with
    | .error error => .error error
    | .ok found => (resolveTurns rest).map fun mappings => found.toList ++ mappings

/-- `resolve_all` on a session that reads its namespace array first. -/
def resolveAllTurns (first : Session) (turns : List Turn) : Except ConnError (List ResolvedMapping) :=
  match namespace_array first with
  | .error error => .error error
  | .ok uris => resolveTurns codec server known_server_ids ⟨uris⟩ turns

theorem resolveEach_eq_resolveTurns (session : Session) (device_types : List LoadedDeviceType) :
    resolveEach codec session server known_server_ids table device_types =
      resolveTurns codec server known_server_ids table (device_types.map fun loaded => ⟨loaded, session⟩) := by
  induction device_types with
  | nil => rfl
  | cons loaded rest ih =>
    rw [List.map_cons, resolveTurns, resolveEach, ← ih, Turn.resolve]
    have hkeep : ∀ result : Except ConnError (List ResolvedMapping),
        result.map (fun mappings => mappings) = result := by
      intro result
      cases result <;> rfl
    cases happlicable : isApplicable codec server known_server_ids table loaded with
    | false => simp [hkeep]
    | true =>
      cases hfound : resolveDeviceType codec session table loaded with
      | error error => simp
      | ok found => cases found <;> simp [hkeep]

/-- A session that answers alike at every turn makes this `resolve_all`. -/
theorem resolve_all_eq_resolveAllTurns (session : Session) (device_types : List LoadedDeviceType) :
    resolve_all codec session server known_server_ids device_types =
      resolveAllTurns codec server known_server_ids session
        (device_types.map fun loaded => ⟨loaded, session⟩) := by
  unfold resolve_all resolveAllTurns
  cases namespace_array session with
  | error error => rfl
  | ok uris => exact resolveEach_eq_resolveTurns codec server known_server_ids ⟨uris⟩ session device_types

end Turns

/-- The mapping of a device type in what a resolution applies. -/
def mappingOf (device_type_id : String) (resolved : Except ConnError (List ResolvedMapping)) :
    Option ResolvedMapping :=
  resolved.toOption.bind fun mappings => mappings.find? (·.device_type_id == device_type_id)

section Isolation

variable {codec : TextCodec} {server : ServerConfig} {known_server_ids : List String} {table : NamespaceTable}
  {turns : List Turn} {turn : Turn}

theorem Turn.mapping_eq_some {mapping : ResolvedMapping}
    (h : turn.mapping codec server known_server_ids table = some mapping) :
    mapping.device_type_id = turn.loaded.id := by
  unfold Turn.mapping at h
  split at h
  · rename_i found hfound
    rw [h, Turn.resolve] at hfound
    split at hfound
    · exact (resolveDeviceType_eq_some hfound).1
    · cases hfound
  · cases h

theorem Turn.not_fails (h : (turn.resolve codec server known_server_ids table).toOption.isSome = true) :
    ¬ turn.Fails codec server known_server_ids table := by
  rintro ⟨error, herror⟩
  rw [herror] at h
  cases h

/-- The resolution goes through unless some request fails, and then applies what
each device type is resolved to on its own. -/
theorem resolveTurns_eq (hnone : ∀ turn ∈ turns, ¬ turn.Fails codec server known_server_ids table) :
    resolveTurns codec server known_server_ids table turns =
      .ok (turns.filterMap (Turn.mapping codec server known_server_ids table)) := by
  induction turns with
  | nil => rfl
  | cons head rest ih =>
    have hrest := ih fun turn hmem => hnone turn (List.mem_cons_of_mem _ hmem)
    rw [resolveTurns, hrest]
    cases hhead : head.resolve codec server known_server_ids table with
    | error error => exact absurd ⟨error, hhead⟩ (hnone head List.mem_cons_self)
    | ok found =>
      have hmapping : head.mapping codec server known_server_ids table = found := by rw [Turn.mapping, hhead]
      cases found <;> simp [Except.map, hmapping]

theorem resolveTurns_eq_error (hmem : turn ∈ turns) (hfails : turn.Fails codec server known_server_ids table) :
    ∃ error, resolveTurns codec server known_server_ids table turns = .error error := by
  induction turns with
  | nil => cases hmem
  | cons head rest ih =>
    rw [resolveTurns]
    cases hhead : head.resolve codec server known_server_ids table with
    | error error => exact ⟨error, rfl⟩
    | ok found =>
      rcases List.mem_cons.mp hmem with rfl | hmem
      · obtain ⟨error, herror⟩ := hfails
        cases hhead.symm.trans herror
      · obtain ⟨error, herror⟩ := ih hmem
        exact ⟨error, by rw [herror]; rfl⟩

/-- Among device types with distinct ids, the one that resolves to a mapping is found
by its id. -/
theorem find?_filterMap_mapping (hids : (turns.map (·.loaded.id)).Nodup) (hmem : turn ∈ turns) :
    (turns.filterMap (Turn.mapping codec server known_server_ids table)).find?
      (·.device_type_id == turn.loaded.id) = turn.mapping codec server known_server_ids table := by
  induction turns with
  | nil => cases hmem
  | cons head rest ih =>
    obtain ⟨hfresh, hrest⟩ := List.nodup_cons.mp hids
    have hskip : ∀ other ∈ rest, other.loaded.id ≠ head.loaded.id := by
      intro other hother hid
      apply hfresh
      exact List.mem_map.mpr ⟨other, hother, hid⟩
    have hnone : (rest.filterMap (Turn.mapping codec server known_server_ids table)).find?
        (·.device_type_id == head.loaded.id) = none := by
      rw [List.find?_eq_none]
      intro mapping hmapping hid
      obtain ⟨other, hother, hother'⟩ := List.mem_filterMap.mp hmapping
      exact hskip other hother ((Turn.mapping_eq_some hother').symm.trans (by simpa using hid))
    rw [List.filterMap_cons]
    cases hhead : head.mapping codec server known_server_ids table with
    | none =>
      rcases List.mem_cons.mp hmem with rfl | hmem
      · rw [hhead]
        exact hnone
      · exact ih hrest hmem
    | some mapping =>
      have hid := Turn.mapping_eq_some hhead
      rcases List.mem_cons.mp hmem with rfl | hmem
      · rw [hhead, List.find?_cons_of_pos (by simpa using hid)]
      · have hne := hskip turn hmem
        rw [List.find?_cons_of_neg (by simpa [hid] using hne.symm)]
        exact ih hrest hmem

variable (codec server known_server_ids table) in
/-- What a device type is resolved to within a set: its own mapping, unless the
request of any device type of the set fails. -/
theorem mappingOf_resolveTurns (hids : (turns.map (·.loaded.id)).Nodup) (hmem : turn ∈ turns) :
    ((∃ other ∈ turns, other.Fails codec server known_server_ids table) →
      mappingOf turn.loaded.id (resolveTurns codec server known_server_ids table turns) = none) ∧
    ((¬ ∃ other ∈ turns, other.Fails codec server known_server_ids table) →
      mappingOf turn.loaded.id (resolveTurns codec server known_server_ids table turns) =
        turn.mapping codec server known_server_ids table) := by
  constructor
  · rintro ⟨other, hother, hfails⟩
    obtain ⟨error, herror⟩ := resolveTurns_eq_error hother hfails
    rw [herror]
    rfl
  · intro hnone
    have hnone : ∀ other ∈ turns, ¬ other.Fails codec server known_server_ids table :=
      fun other hother hfails => hnone ⟨other, hother, hfails⟩
    rw [resolveTurns_eq hnone]
    exact find?_filterMap_mapping hids hmem

end Isolation

variable (codec : TextCodec) (server : ServerConfig) (known_server_ids : List String)

/-- A device type is resolved to the same mapping within two sets exactly when its own
resolution gives nothing or a request fails in both sets or in neither. A failing
request of any one device type ends the resolution of all. -/
theorem mapping_isolated_iff {first first' : Session} (hfirst : namespace_array first = namespace_array first')
    {turns turns' : List Turn} (hids : (turns.map (·.loaded.id)).Nodup)
    (hids' : (turns'.map (·.loaded.id)).Nodup) {turn turn' : Turn} (hmem : turn ∈ turns) (hmem' : turn' ∈ turns')
    (hsame : turn.loaded = turn'.loaded)
    (hanswers : ∀ table p, plan codec turn.loaded.id turn.loaded.device_type table = .ok p →
      translatePending turn.session p = translatePending turn'.session p) :
    mappingOf turn.loaded.id (resolveAllTurns codec server known_server_ids first turns) =
        mappingOf turn.loaded.id (resolveAllTurns codec server known_server_ids first' turns') ↔
      ∀ uris, namespace_array first = .ok uris →
        turn.mapping codec server known_server_ids ⟨uris⟩ = none ∨
          ((∃ other ∈ turns, other.Fails codec server known_server_ids ⟨uris⟩) ↔
            ∃ other ∈ turns', other.Fails codec server known_server_ids ⟨uris⟩) := by
  unfold resolveAllTurns
  rw [← hfirst]
  cases huris : namespace_array first with
  | error error => simp [mappingOf, Except.toOption]
  | ok uris =>
    have hown : turn'.mapping codec server known_server_ids ⟨uris⟩ =
        turn.mapping codec server known_server_ids ⟨uris⟩ := by
      have hresolve : turn'.resolve codec server known_server_ids ⟨uris⟩ =
          turn.resolve codec server known_server_ids ⟨uris⟩ := by
        rw [Turn.resolve, Turn.resolve, ← hsame, resolveDeviceType, resolveDeviceType]
        cases hplan : plan codec turn.loaded.id turn.loaded.device_type ⟨uris⟩ with
        | error error => rfl
        | ok p => simp only [hanswers ⟨uris⟩ p hplan]
      rw [Turn.mapping, Turn.mapping, hresolve]
    obtain ⟨hfails, hgoes⟩ := mappingOf_resolveTurns codec server known_server_ids ⟨uris⟩ hids hmem
    obtain ⟨hfails', hgoes'⟩ := mappingOf_resolveTurns codec server known_server_ids ⟨uris⟩ hids' hmem'
    rw [← hsame] at hfails' hgoes'
    rw [hown] at hgoes'
    simp only [Except.ok.injEq, forall_eq']
    by_cases h : ∃ other ∈ turns, other.Fails codec server known_server_ids ⟨uris⟩ <;>
      by_cases h' : ∃ other ∈ turns', other.Fails codec server known_server_ids ⟨uris⟩
    · simp only [hfails h, hfails' h', h, h', or_true]
    · simp only [hfails h, hgoes' h', h, h', iff_false, not_true, or_false]
      exact eq_comm
    · simp only [hgoes h, hfails' h', h, h', false_iff, not_true, or_false]
    · simp only [hgoes h, hgoes' h', h, h', or_true]

/-- A device type whose only entry is found by a browse path. -/
def browsedDeviceType : LoadedDeviceType where
  id := "valve"
  origin := .Pull
  fingerprint := ""
  device_type :=
    { sampleDeviceType.device_type with
      mappings := sampleDeviceType.device_type.mappings.map fun entry =>
        { entry with browse_path := ["Valve"], referenced_node_id := none } }

/-- A server that refuses every browse path request. -/
def refusingSession : Session where
  read_namespace_array := .ok (some [])
  translate_browse_paths_to_node_ids _ _ := .error .Request

def pumpTurn : Turn := ⟨sampleDeviceType, refusingSession⟩
def valveTurn (session : Session) : Turn := ⟨browsedDeviceType, session⟩

/-- Another device type whose request is answered leaves the mapping as it is. -/
theorem mapping_isolated_from_answered_valve :
    mappingOf "pump" (resolveAllTurns plainCodec (sampleServer "b") [] refusingSession [pumpTurn]) =
      mappingOf "pump" (resolveAllTurns plainCodec (sampleServer "b") [] refusingSession
        [pumpTurn, valveTurn (resolvingSession [])]) := by
  have hmem : pumpTurn ∈ [pumpTurn] := List.mem_cons_self
  have hmem' : pumpTurn ∈ [pumpTurn, valveTurn (resolvingSession [])] := List.mem_cons_self
  refine (mapping_isolated_iff plainCodec (sampleServer "b") [] rfl (by decide) (by decide) hmem hmem' rfl
    fun _ _ _ => rfl).mpr ?_
  intro uris huris
  cases huris
  have hpump : ¬ pumpTurn.Fails plainCodec (sampleServer "b") [] ⟨[]⟩ := Turn.not_fails (by decide)
  have hvalve : ¬ (valveTurn (resolvingSession [])).Fails plainCodec (sampleServer "b") [] ⟨[]⟩ :=
    Turn.not_fails (by decide)
  simp [hpump, hvalve]

/-- Another device type whose request fails takes the mapping away. -/
theorem mapping_lost_to_refused_valve :
    ¬ ∀ turns turns' : List Turn, (turns.map (·.loaded.id)).Nodup → (turns'.map (·.loaded.id)).Nodup →
      pumpTurn ∈ turns → pumpTurn ∈ turns' →
      mappingOf "pump" (resolveAllTurns plainCodec (sampleServer "b") [] refusingSession turns) =
        mappingOf "pump" (resolveAllTurns plainCodec (sampleServer "b") [] refusingSession turns') := by
  intro hall
  have hsame := hall [pumpTurn] [pumpTurn, valveTurn refusingSession] (by decide) (by decide)
    List.mem_cons_self List.mem_cons_self
  revert hsame
  decide

end gateway.server_task
