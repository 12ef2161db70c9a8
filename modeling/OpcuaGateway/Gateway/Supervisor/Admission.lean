import OpcuaGateway.Gateway.CloudServers.Listing
import OpcuaGateway.Gateway.Supervisor.History

open json text ordered_map tedge.proxy gateway.config gateway.cloud_servers

namespace gateway.supervisor

/-- What `validate` asks of a configured server. -/
structure Admissible (server : ServerConfig) : Prop where
  id : isBlank server.id = false
  name : isBlank server.name = false
  url : starts_with "opc.tcp://" server.url = true
  security_policy : eq_ignore_ascii_case server.security_policy "None" = true

/-- The same, of a managed object that a server is made from. -/
structure ObjectAdmissible (mo_id : String) (mo : Value) : Prop where
  id : isBlank mo_id = false
  name : isBlank ((stringMember "name" mo).getD mo_id) = false
  url : ∃ client_config url, mo.get CLIENT_CONFIG_FRAGMENT = some client_config ∧
    stringMember "serverUrl" client_config = some url ∧ starts_with "opc.tcp://" url = true

/-- The servers that a poll makes from the objects it has read. -/
def converted (config : Config) (objects : List (String × Value)) : List ServerConfig :=
  objects.filterMap fun object => to_server_config config object.1 object.2

section Convert

variable {config : Config}

theorem to_server_config_eq_some {mo_id : String} {mo : Value} {server : ServerConfig}
    (h : to_server_config config mo_id mo = some server) :
    server.id = mo_id ∧ server.name = (stringMember "name" mo).getD mo_id ∧ server.security_policy = "None" ∧
      ∃ client_config, mo.get CLIENT_CONFIG_FRAGMENT = some client_config ∧
        stringMember "serverUrl" client_config = some server.url := by
  obtain ⟨client_config, hconverts⟩ := to_server_config_eq_some_iff.mp h
  have hnone : server.security_policy = "None" := by
    have hpolicy := hconverts.policy
    unfold securityPolicy at hpolicy
    split at hpolicy
    · exact (Option.some.inj hpolicy).symm
    · split at hpolicy
      · exact (Option.some.inj hpolicy).symm
      · cases hpolicy
  exact ⟨hconverts.id, hconverts.name, hnone, client_config, hconverts.fragment, hconverts.server_url⟩

theorem admissible_iff_of_converted {mo_id : String} {mo : Value} {server : ServerConfig}
    (h : to_server_config config mo_id mo = some server) : Admissible server ↔ ObjectAdmissible mo_id mo := by
  obtain ⟨hid, hname, hpolicy, client_config, hfragment, hurl⟩ := to_server_config_eq_some h
  constructor
  · intro hadmissible
    refine ⟨hid ▸ hadmissible.id, hname ▸ hadmissible.name, client_config, server.url, hfragment, hurl, ?_⟩
    exact hadmissible.url
  · rintro ⟨hmoid, hmoname, client_config', url, hfragment', hurl', hscheme⟩
    cases hfragment.symm.trans hfragment'
    cases hurl.symm.trans hurl'
    refine ⟨hid ▸ hmoid, hname ▸ hmoname, hscheme, ?_⟩
    rw [hpolicy]
    decide

/-- The first server under an id comes from the first object that makes one. -/
theorem find?_converted (objects : List (String × Value)) (id : String) :
    (converted config objects).find? (·.id == id) =
      (objects.find? fun object => object.1 == id && (to_server_config config object.1 object.2).isSome).bind
        fun object => to_server_config config object.1 object.2 := by
  induction objects with
  | nil => rfl
  | cons object rest ih =>
    rw [converted, List.filterMap_cons, List.find?_cons]
    cases hserver : to_server_config config object.1 object.2 with
    | none =>
      simp only [Option.isSome_none, Bool.and_false]
      exact ih
    | some server =>
      have hid := (to_server_config_eq_some hserver).1
      simp only [List.find?_cons, Option.isSome_some, Bool.and_true, hid]
      cases hsame : object.1 == id with
      | true => exact hserver.symm
      | false => exact ih

variable {proxy : C8yProxy} {responses : Responses} {gateway_mo_id : String}

/-- The objects that a poll makes servers from are answers of the proxy. -/
def Returned (proxy : C8yProxy) (responses : Responses) (objects : List (String × Value)) : Prop :=
  ∀ object ∈ objects, ∃ page index, proxy.managed_object (responses (.object page index)) object.1 = .ok object.2

variable (proxy config responses) in
theorem exists_objects_readReferences (page index : Nat) (found : List Value) (out : List ServerConfig) :
    ∃ objects, Returned proxy responses objects ∧
      readReferences proxy config responses page index found out = out ++ converted config objects := by
  induction found generalizing index out with
  | nil => exact ⟨[], by simp [Returned], by simp [readReferences, converted]⟩
  | cons reference rest ih =>
    rw [readReferences]
    cases hchild : readChild proxy config responses page index reference with
    | none => exact ih (index + 1) out
    | some server =>
      obtain ⟨objects, hreturned, hobjects⟩ := ih (index + 1) (out ++ [server])
      obtain ⟨-, mo, hmo, -, hserver⟩ := readChild_eq_some.mp hchild
      refine ⟨(server.id, mo) :: objects, ?_, ?_⟩
      · intro object hmem
        rcases List.mem_cons.mp hmem with rfl | hmem
        · exact ⟨page, index, hmo⟩
        · exact hreturned object hmem
      · dsimp only
        rw [hobjects]
        simp [converted, hserver]

theorem exists_objects_fetchPages (remaining page : Nat) (out servers : List ServerConfig)
    (h : fetchPages proxy config responses gateway_mo_id remaining page out = .ok servers) :
    ∃ objects, Returned proxy responses objects ∧ servers = out ++ converted config objects := by
  induction remaining generalizing page out with
  | zero =>
    cases h
    exact ⟨[], by simp [Returned], by simp [converted]⟩
  | succ remaining ih =>
    rw [fetchPages] at h
    split at h
    · cases h
    · rename_i found hpage
      split at h
      · cases h
        exact ⟨[], by simp [Returned], by simp [converted]⟩
      · obtain ⟨objects, hreturned, hobjects⟩ :=
          exists_objects_readReferences config proxy responses page 0 found out
        dsimp only at h
        rw [hobjects] at h
        split at h
        · cases h
          exact ⟨objects, hreturned, rfl⟩
        · obtain ⟨others, hothers, rfl⟩ := ih _ _ h
          refine ⟨objects ++ others, ?_, by simp [converted]⟩
          intro object hmem
          rcases List.mem_append.mp hmem with hmem | hmem
          · exact hreturned object hmem
          · exact hothers object hmem

/-- Every list a poll returns is made from objects the proxy has returned. -/
theorem exists_objects_fetch {servers : List ServerConfig}
    (h : fetch proxy config responses gateway_mo_id = .ok servers) :
    ∃ objects, Returned proxy responses objects ∧ servers = converted config objects := by
  obtain ⟨objects, hreturned, hservers⟩ := exists_objects_fetchPages _ _ _ _ h
  exact ⟨objects, hreturned, by simpa using hservers⟩

end Convert

section Merge

theorem find?_putServer (out : List ServerConfig) (server : ServerConfig) (id : String) :
    (putServer out server).find? (·.id == id) =
      if server.id = id then some server else out.find? (·.id == id) := by
  induction out with
  | nil => by_cases hid : server.id = id <;> simp [putServer, hid]
  | cons existing rest ih =>
    rw [putServer]
    split
    · rename_i hsame
      by_cases hid : server.id = id <;> simp [hsame, hid]
    · rename_i hother
      rw [List.find?_cons, List.find?_cons, ih]
      by_cases hid : server.id = id
      · have hexisting : (existing.id == id) = false := by
          rw [beq_eq_false_iff_ne]
          exact fun h => hother (h.trans hid.symm)
        simp [hid, hexisting]
      · simp [hid]

/-- The configured server wins under its id, otherwise the first of the others does. -/
theorem find?_merge_servers (cloud pushed : List ServerConfig) (id : String) :
    (merge_servers cloud pushed).find? (·.id == id) =
      (pushed.reverse.find? (·.id == id)).or (cloud.find? (·.id == id)) := by
  induction pushed using List.reverseRecOn with
  | nil => rfl
  | append_singleton rest server ih =>
    have hmerge : merge_servers cloud (rest ++ [server]) = putServer (merge_servers cloud rest) server :=
      List.foldl_concat ..
    rw [hmerge, find?_putServer, ih, List.reverse_append, List.reverse_singleton, List.singleton_append,
      List.find?_cons]
    by_cases hid : server.id = id
    · simp [hid]
    · rw [if_neg hid, beq_false_of_ne hid]

/-- What runs under an id after a reconciliation is the first wanted server with it. -/
theorem server_of_get_reconcile {running : RunningSet} {servers : List ServerConfig} {id : String} {task : Running}
    (h : (reconcile running servers).get id = some task) : servers.find? (·.id == id) = some task.server := by
  rw [get_reconcile] at h
  split at h
  · rw [Option.none_or] at h
    obtain ⟨server, hserver, rfl⟩ := Option.map_eq_some_iff.mp h
    exact hserver
  · rename_i hkept
    cases hget : running.get id with
    | none =>
      rw [hget, Option.none_or] at h
      obtain ⟨server, hserver, rfl⟩ := Option.map_eq_some_iff.mp h
      exact hserver
    | some before =>
      rw [hget, Option.some_or] at h
      cases h
      have hwanted : id ∈ serverIds servers := by
        by_contra hunwanted
        exact hkept (Or.inl (mem_removed.mpr ⟨by simp [hget], hunwanted⟩))
      cases hfind : servers.find? (·.id == id) with
      | none => exact absurd hwanted (find?_id_eq_none.mp hfind)
      | some server =>
        have hid : server.id = id := by simpa using List.find?_some hfind
        by_contra hne
        have hchanged : task.server ≠ server := fun heq => hne (by rw [heq])
        exact hkept (Or.inr (mem_restarted.mpr
          ⟨server, List.mem_of_find?_eq_some hfind, hid, task, hget, hchanged⟩))

theorem get_reconcile_of_find? (running : RunningSet) {servers : List ServerConfig} {server : ServerConfig}
    {id : String} (h : servers.find? (·.id == id) = some server) :
    ∃ task, (reconcile running servers).get id = some task ∧ task.server = server := by
  have hid : server.id = id := by simpa using List.find?_some h
  have hwanted : id ∈ serverIds servers := List.mem_map.mpr ⟨server, List.mem_of_find?_eq_some h, hid⟩
  have hsome : ((reconcile running servers).get id).isSome := reconcile_isSome hwanted
  obtain ⟨task, htask⟩ := Option.isSome_iff_exists.mp hsome
  have hfind := server_of_get_reconcile htask
  rw [h] at hfind
  exact ⟨task, htask, (Option.some.inj hfind).symm⟩

end Merge

section Validate

theorem admissible_of_validateServers {seen : List String} {servers : List ServerConfig}
    (h : validateServers seen servers = .ok ()) : ∀ server ∈ servers, Admissible server := by
  induction servers generalizing seen with
  | nil => simp
  | cons server rest ih =>
    simp only [validateServers, result.bind_eq_ok_iff, bailIf_eq_ok] at h
    obtain ⟨-, hid, -, -, -, hurl, -, hname, -, hpolicy, hrest⟩ := h
    intro other hmem
    rcases List.mem_cons.mp hmem with rfl | hmem
    · exact ⟨hid, hname, by simpa using hurl, by simpa using hpolicy⟩
    · exact ih hrest other hmem

theorem admissible_of_validate {config : Config} {dirExists : Bool} (h : config.validate dirExists = .ok ()) :
    ∀ server ∈ config.servers, Admissible server := by
  simp only [Config.validate, result.bind_eq_ok_iff, bailIf_eq_ok] at h
  obtain ⟨-, -, -, -, -, -, -, -, -, -, -, -, -, -, -, -, u, hservers, -⟩ := h
  exact admissible_of_validateServers hservers

theorem nodup_of_validateServers {seen : List String} {servers : List ServerConfig} (hseen : seen.Nodup)
    (h : validateServers seen servers = .ok ()) : (seen ++ serverIds servers).Nodup := by
  induction servers generalizing seen with
  | nil => simpa [serverIds] using hseen
  | cons server rest ih =>
    simp only [validateServers, result.bind_eq_ok_iff, bailIf_eq_ok] at h
    obtain ⟨-, -, -, hfresh, -, -, -, -, -, -, hrest⟩ := h
    have hmore : (seen ++ [server.id]).Nodup := by
      rw [List.nodup_append_comm, List.singleton_append, List.nodup_cons]
      exact ⟨by simpa using hfresh, hseen⟩
    simpa [serverIds] using ih hmore hrest

/-- The ids of a validated set of servers are distinct. -/
theorem nodup_of_validate {config : Config} {dirExists : Bool} (h : config.validate dirExists = .ok ()) :
    (serverIds config.servers).Nodup := by
  simp only [Config.validate, result.bind_eq_ok_iff, bailIf_eq_ok] at h
  obtain ⟨-, -, -, -, -, -, -, -, -, -, -, -, -, -, -, -, u, hservers, -⟩ := h
  exact nodup_of_validateServers List.nodup_nil hservers

end Validate

/-- The object that the first server of a poll under this id is made from. -/
def FirstServer (config : Config) (objects : List (String × Value)) (mo_id : String) (mo : Value) : Prop :=
  objects.find? (fun object => object.1 == mo_id && (to_server_config config object.1 object.2).isSome) =
    some (mo_id, mo)

/-- With a validated configuration every server handed to a task meets the conditions
of `validate`, exactly when each object that a server is made from does, unless a
configured server has its id. The conversion itself checks only the security mode. -/
theorem handed_servers_admissible_iff {config : Config} {dirExists : Bool}
    (hvalid : config.validate dirExists = .ok ()) (polls : List (List (String × Value))) :
    (∀ seen, seen <+: polls → ∀ id task, (run config (seen.map (converted config))).get id = some task →
      Admissible task.server) ↔
      ∀ objects ∈ polls, ∀ mo_id mo, FirstServer config objects mo_id mo → mo_id ∉ serverIds config.servers →
        ObjectAdmissible mo_id mo := by
  have hconfigured : ∀ id, config.servers.reverse.find? (·.id == id) = none ↔ id ∉ serverIds config.servers := by
    intro id
    rw [find?_id_eq_none, serverIds, List.map_reverse, List.mem_reverse, serverIds]
  constructor
  · intro hall objects hobjects mo_id mo hfirst hforeign
    obtain ⟨before, after, rfl⟩ := List.append_of_mem hobjects
    have hseen : before ++ [objects] <+: before ++ objects :: after := ⟨after, by simp⟩
    obtain ⟨server, hserver⟩ : ∃ server, to_server_config config mo_id mo = some server := by
      have hsome := List.find?_some hfirst
      simp only [Bool.and_eq_true] at hsome
      exact Option.isSome_iff_exists.mp hsome.2
    have hfind : (desired config (converted config objects)).find? (·.id == mo_id) = some server := by
      rw [desired, find?_merge_servers, (hconfigured mo_id).mpr hforeign, Option.none_or, find?_converted, hfirst]
      exact hserver
    obtain ⟨task, htask, rfl⟩ :=
      get_reconcile_of_find? (run config (before.map (converted config))) hfind
    refine (admissible_iff_of_converted hserver).mp (hall _ hseen mo_id task ?_)
    rw [List.map_append, List.map_singleton, run_append]
    exact htask
  · intro hall seen hseen id task htask
    cases hlast : seen.getLast? with
    | none =>
      rw [List.getLast?_eq_none_iff] at hlast
      rw [hlast] at htask
      simp [run] at htask
    | some objects =>
      obtain ⟨before, rfl⟩ := List.getLast?_eq_some_iff.mp hlast
      have hobjects : objects ∈ polls := hseen.subset (by simp)
      rw [List.map_append, List.map_singleton, run_append] at htask
      have hfind := server_of_get_reconcile htask
      rw [desired, find?_merge_servers] at hfind
      cases hown : config.servers.reverse.find? (·.id == id) with
      | some server =>
        rw [hown, Option.some_or] at hfind
        cases hfind
        exact admissible_of_validate hvalid _ (List.mem_reverse.mp (List.mem_of_find?_eq_some hown))
      | none =>
        rw [hown, Option.none_or, find?_converted] at hfind
        obtain ⟨object, hfirst, hserver⟩ := Option.bind_eq_some_iff.mp hfind
        have hid : object.1 = id := by
          have hsome := List.find?_some hfirst
          simp only [Bool.and_eq_true, beq_iff_eq] at hsome
          exact hsome.1
        subst hid
        exact (admissible_iff_of_converted hserver).mpr (hall objects hobjects _ _ hfirst ((hconfigured _).mp hown))

/-- A server object without any security, with this address. -/
def objectAt (url : String) : Value :=
  .ofMembers [(CLIENT_CONFIG_FRAGMENT, .ofMembers [("serverUrl", .string url)])]

def gatewayOnlyConfig : Config :=
  { Config.default with gateway := { GatewayConfig.default with device_id := "device" } }

theorem gatewayOnlyConfig_valid : gatewayOnlyConfig.validate true = .ok () := by rfl

theorem opcua_server_admitted :
    ∃ task, (run gatewayOnlyConfig [converted gatewayOnlyConfig [("42", objectAt "opc.tcp://plc:4840")]]).get "42" =
      some task ∧ Admissible task.server := by
  obtain ⟨task, htask⟩ : ∃ task, (run gatewayOnlyConfig
      [converted gatewayOnlyConfig [("42", objectAt "opc.tcp://plc:4840")]]).get "42" = some task := ⟨_, rfl⟩
  refine ⟨task, htask, ?_⟩
  have hall := (handed_servers_admissible_iff gatewayOnlyConfig_valid [[("42", objectAt "opc.tcp://plc:4840")]]).mpr
  refine hall ?_ _ (List.prefix_rfl) "42" task htask
  intro objects hobjects mo_id mo hfirst _
  rw [List.mem_singleton.mp hobjects] at hfirst
  have hmem := List.mem_of_find?_eq_some hfirst
  cases List.mem_singleton.mp hmem
  exact ⟨by decide, by decide, _, _, rfl, rfl, by decide⟩

/-- A server registered in Cumulocity is handed to a task with an address that no
configured server may have. -/
theorem http_server_admitted :
    ¬ ∀ config dirExists (polls : List (List (String × Value))), config.validate dirExists = .ok () →
      ∀ seen, seen <+: polls → ∀ id task, (run config (seen.map (converted config))).get id = some task →
        Admissible task.server := by
  intro hall
  obtain ⟨task, htask, hurl⟩ : ∃ task, (run gatewayOnlyConfig
      [converted gatewayOnlyConfig [("42", objectAt "http://plc:4840")]]).get "42" = some task ∧
        starts_with "opc.tcp://" task.server.url = false := ⟨_, rfl, by decide⟩
  have hadmissible := hall gatewayOnlyConfig true [[("42", objectAt "http://plc:4840")]] gatewayOnlyConfig_valid
    _ List.prefix_rfl "42" task htask
  rw [hadmissible.url] at hurl
  cases hurl

end gateway.supervisor
