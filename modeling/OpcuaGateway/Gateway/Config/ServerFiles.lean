import OpcuaGateway.Foundation.Grouping
import OpcuaGateway.Gateway.Supervisor.Admission
import OpcuaGateway.Mapping.Source

open text ordered_map gateway.supervisor mapping.source

namespace gateway.config

/-- A directory as it is read: its files by name, with the text of those that can be read. -/
inductive Directory where
  | missing
  | unreadable
  | present (files : OrderedMap String (Option String))

/-- How a command ends. -/
inductive CommandOutput where
  | notRun
  | exited (success : Bool) (stdout stderr : String)

/-- What a configuration is loaded from. Merging the defaults with a file and the
environment, and reading a server out of a text, is left to the libraries for it. -/
structure Host where
  path_exists : String → Bool
  extract : Option String → Option Config
  read_dir : String → Directory
  parse_server : String → Option ServerConfig
  /-- How `tedge config get device.id` ends. -/
  device_id_output : CommandOutput

inductive DeviceIdError where
  | notRun
  | failed (stderr : String)
  | empty
  deriving DecidableEq

/-- Why no configuration is loaded. -/
inductive LoadError where
  | missingFile (path : String)
  | invalidConfiguration
  | readDirectory (dir : String)
  | readFile (path : String)
  | parseFile (path : String)
  | deviceId (cause : DeviceIdError)
  | invalid (error : ConfigError)
  deriving DecidableEq

def DeviceIdError.message : DeviceIdError → String
  | .notRun => "cannot run `tedge config get device.id`"
  | .failed stderr => "`tedge config get device.id` failed: " ++ stderr
  | .empty => "`tedge config get device.id` returned nothing"

/-- The text of the error; its cause has a text of its own. -/
def LoadError.message (debug : String → String) (dir : String) : LoadError → String
  | .missingFile path => "configuration file " ++ path ++ " does not exist"
  | .invalidConfiguration => "invalid configuration"
  | .readDirectory dir => "cannot read server directory " ++ dir
  | .readFile path => "cannot read server file " ++ path
  | .parseFile path => "cannot parse server file " ++ path
  | .deviceId _ => "cannot determine the thin-edge device id; set gateway.device_id explicitly"
  | .invalid error => error.message debug dir

/-- Ask thin-edge for the device id. -/
def discover_device_id : CommandOutput → Except DeviceIdError String
  | .notRun => .error .notRun
  | .exited false _ stderr => .error (.failed (trim stderr))
  | .exited true stdout _ => if isBlank stdout then .error .empty else .ok (trim stdout)

def join (dir name : String) : String := if ends_with "/" dir then dir ++ name else dir ++ "/" ++ name

def is_server_file (name : String) : Bool := (splitExtension name).2 == some "toml"

/-- Read one server file. -/
def read_server_file (host : Host) (dir : String) (file : String × Option String) : Except LoadError ServerConfig :=
  match file.2 with
  | none => .error (.readFile (join dir file.1))
  | some text =>
    match host.parse_server text with
    | none => .error (.parseFile (join dir file.1))
    | some server => .ok server

/-- Read one server per file, in the order of the file names. -/
def load_server_dir (host : Host) (dir : String) : Except LoadError (List ServerConfig) :=
  match host.read_dir dir with
  | .missing => .ok []
  | .unreadable => .error (.readDirectory dir)
  | .present files =>
    (files.entries.filter fun file => is_server_file file.1).mapM (read_server_file host dir)

/-- The defaults with what an optional file and the environment say. -/
def Config.extract (host : Host) (path : Option String) : Except LoadError Config :=
  match path.filter fun path => !host.path_exists path with
  | some path => .error (.missingFile path)
  | none =>
    match host.extract path with
    | none => .error .invalidConfiguration
    | some config => .ok config

/-- The configuration with a device id, asked for if it is needed and not there. -/
def Config.settle_device_id (host : Host) (self : Config) : Except LoadError Config :=
  if self.gateway.enabled && isBlank self.gateway.device_id then
    match discover_device_id host.device_id_output with
    | .error cause => .error (.deviceId cause)
    | .ok device_id => .ok { self with gateway := { self.gateway with device_id := device_id } }
  else .ok self

/-- Load from an optional file, then the environment, then pushed server definitions. -/
def Config.load (host : Host) (path : Option String) : Except LoadError Config := do
  let config ← Config.extract host path
  let pushed ← load_server_dir host (join config.mappings.dir SERVERS_SUBDIR)
  let config := { config with servers := merge_servers config.servers pushed }
  let config ← config.settle_device_id host
  (config.validate (host.path_exists config.mappings.dir)).mapError .invalid
  return config

/-- The server files of a configuration's mapping directory, in the order of their names. -/
def serverFiles (host : Host) (config : Config) : List (String × Option String) :=
  match host.read_dir (join config.mappings.dir SERVERS_SUBDIR) with
  | .present files => files.entries.filter fun file => is_server_file file.1
  | _ => []

/-- The server that a file declares, if it can be read. -/
def declared (host : Host) (file : String × Option String) : Option ServerConfig :=
  file.2.bind host.parse_server

/-- The servers that the files declare. -/
def declaredServers (host : Host) (config : Config) : List ServerConfig :=
  (serverFiles host config).filterMap (declared host)

/-- Two readable server files declare the id. -/
def SharedId (host : Host) (config : Config) (id : String) : Prop :=
  ∃ first ∈ serverFiles host config, ∃ second ∈ serverFiles host config, first.1 ≠ second.1 ∧
    (∃ server, declared host first = some server ∧ server.id = id) ∧
    ∃ server, declared host second = some server ∧ server.id = id

/-- A server id that two files share is reported, and with every configuration that is
loaded each server file is represented by its own content only. -/
structure ReportsDuplicates (host : Host) (path : Option String) : Prop where
  reported : ∀ config, Config.extract host path = .ok config → (∃ id, SharedId host config id) →
    ∃ id, SharedId host config id ∧ Config.load host path = .error (.invalid (.duplicateId id))
  represented : ∀ config loaded, Config.extract host path = .ok config → Config.load host path = .ok loaded →
    ∀ file ∈ serverFiles host config, ∃ server, declared host file = some server ∧ server ∈ loaded.servers ∧
      ∀ other ∈ loaded.servers, other.id = server.id → other = server

/-- The settings beside the servers are accepted, a device id included. -/
structure SettingsAccepted (host : Host) (config : Config) : Prop where
  gateway_id : config.gateway.enabled = true → isBlank config.gateway.id = false
  device_id : config.gateway.enabled = true → isBlank config.gateway.device_id = true →
    ∃ stdout stderr, host.device_id_output = .exited true stdout stderr ∧ isBlank stdout = false
  server_poll_interval_secs : config.gateway.enabled = true → config.gateway.server_poll_interval_secs ≠ 0
  worker_threads : config.runtime.worker_threads ≠ 0
  channel_capacity : config.subscription.channel_capacity ≠ 0
  publishing_interval_ms : config.subscription.publishing_interval_ms ≠ 0
  flush_interval_ms : config.subscription.flush_interval_ms ≠ 0

/-- An inline server as the last of these with its id overrides it. -/
def overridden (pushed : List ServerConfig) (server : ServerConfig) : ServerConfig :=
  (pushed.reverse.find? (·.id == server.id)).getD server

/-- The inline servers by themselves repeat an id that two files share, and nothing is
wrong before the second of them. -/
structure RepeatsInline (host : Host) (config : Config) : Prop where
  readable : ∀ file ∈ serverFiles host config, (declared host file).isSome
  settings : SettingsAccepted host config
  repeated : ∃ before server after, config.servers = before ++ server :: after ∧ (serverIds before).Nodup ∧
    server.id ∈ serverIds before ∧ SharedId host config server.id ∧
    ∀ other ∈ before, Admissible (overridden (declaredServers host config) other)

section Validate

variable {seen : List String} {before after : List ServerConfig} {server : ServerConfig} {id : String}

/-- After an id that is new the remaining servers decide, unless its server is rejected. -/
theorem validateServers_cons_eq_duplicateId_iff {rest : List ServerConfig} (hfresh : server.id ∉ seen) :
    validateServers seen (server :: rest) = .error (.duplicateId id) ↔
      Admissible server ∧ validateServers (seen ++ [server.id]) rest = .error (.duplicateId id) := by
  have hchecks : validateServers seen (server :: rest) = .error (.duplicateId id) ↔
      isBlank server.id = false ∧ starts_with "opc.tcp://" server.url = true ∧ isBlank server.name = false ∧
        eq_ignore_ascii_case server.security_policy "None" = true ∧
        validateServers (seen ++ [server.id]) rest = .error (.duplicateId id) := by
    simp [validateServers, result.bind_eq_error_iff, hfresh]
  rw [hchecks]
  constructor
  · rintro ⟨hid, hurl, hname, hpolicy, hrest⟩
    exact ⟨⟨hid, hname, hurl, hpolicy⟩, hrest⟩
  · rintro ⟨hserver, hrest⟩
    exact ⟨hserver.id, hserver.url, hserver.name, hserver.security_policy, hrest⟩

theorem fresh_of_nodup {servers : List ServerConfig} (hdistinct : (seen ++ serverIds (server :: servers)).Nodup) :
    server.id ∉ seen := by
  rw [serverIds, List.map_cons, List.nodup_append_comm, List.cons_append, List.nodup_cons] at hdistinct
  exact fun hmem => hdistinct.1 (List.mem_append_right _ hmem)

theorem append_serverIds_cons (servers : List ServerConfig) :
    seen ++ serverIds (server :: servers) = seen ++ [server.id] ++ serverIds servers := by
  rw [List.append_assoc]
  rfl

/-- Distinct ids are not reported. -/
theorem validateServers_ne_duplicateId {servers : List ServerConfig} (hdistinct : (seen ++ serverIds servers).Nodup) :
    validateServers seen servers ≠ .error (.duplicateId id) := by
  induction servers generalizing seen with
  | nil => simp [validateServers]
  | cons server rest ih =>
    rw [Ne, validateServers_cons_eq_duplicateId_iff (fresh_of_nodup hdistinct)]
    rw [append_serverIds_cons] at hdistinct
    exact fun herror => ih hdistinct herror.2

/-- The first id that is repeated is reported, unless a server before it is rejected. -/
theorem validateServers_eq_duplicateId_iff (hdistinct : (seen ++ serverIds before).Nodup)
    (hrepeated : server.id ∈ seen ++ serverIds before) :
    validateServers seen (before ++ server :: after) = .error (.duplicateId id) ↔
      (∀ other ∈ before, Admissible other) ∧ isBlank server.id = false ∧ server.id = id := by
  induction before generalizing seen with
  | nil =>
    have hseen : server.id ∈ seen := by simpa [serverIds] using hrepeated
    simp [validateServers, result.bind_eq_error_iff, hseen]
  | cons first rest ih =>
    have hfresh := fresh_of_nodup hdistinct
    rw [append_serverIds_cons] at hdistinct hrepeated
    rw [List.cons_append, validateServers_cons_eq_duplicateId_iff hfresh, ih hdistinct hrepeated,
      List.forall_mem_cons, and_assoc]

variable {config : Config} {dirExists : Bool}

/-- A repeated id is reported once the settings beside the servers are accepted. -/
theorem validate_eq_duplicateId_iff : config.validate dirExists = .error (.duplicateId id) ↔
    (config.servers = [] → config.gateway.enabled = true) ∧
      (config.gateway.enabled = true → isBlank config.gateway.id = false) ∧
      (config.gateway.enabled = true → isBlank config.gateway.device_id = false) ∧
      (config.gateway.enabled = true → config.gateway.server_poll_interval_secs ≠ 0) ∧
      config.runtime.worker_threads ≠ 0 ∧ config.subscription.channel_capacity ≠ 0 ∧
      config.subscription.publishing_interval_ms ≠ 0 ∧ config.subscription.flush_interval_ms ≠ 0 ∧
      validateServers [] config.servers = .error (.duplicateId id) := by
  simp [Config.validate, result.bind_eq_error_iff]

end Validate

section Merge

variable {before after : List ServerConfig} {server other : ServerConfig}

theorem putServer_append_of_mem (hmem : server.id ∈ serverIds before) :
    putServer (before ++ after) server = putServer before server ++ after := by
  induction before with
  | nil => cases hmem
  | cons first rest ih =>
    rw [List.cons_append, putServer, putServer]
    split
    · rfl
    · rename_i hother
      have hrest : server.id ∈ serverIds rest := (List.mem_cons.mp hmem).resolve_left (Ne.symm hother)
      rw [ih hrest, List.cons_append]

theorem putServer_append_of_notMem (hmem : server.id ∉ serverIds before) :
    putServer (before ++ after) server = before ++ putServer after server := by
  induction before with
  | nil => rfl
  | cons first rest ih =>
    obtain ⟨hfirst, hrest⟩ := List.ne_and_not_mem_of_not_mem_cons hmem
    rw [List.cons_append, putServer, if_neg (Ne.symm hfirst), ih hrest, List.cons_append]

theorem putServer_of_nodup (hdistinct : (serverIds before).Nodup) (hmem : server.id ∈ serverIds before) :
    putServer before server = before.map fun other => if other.id = server.id then server else other := by
  induction before with
  | nil => cases hmem
  | cons first rest ih =>
    obtain ⟨hfresh, hrest⟩ := List.nodup_cons.mp hdistinct
    rw [putServer, List.map_cons]
    split
    · rename_i hid
      have hkept : (rest.map fun other => if other.id = server.id then server else other) = rest := by
        refine (List.map_congr_left fun other hother => if_neg fun hsame => hfresh ?_).trans (List.map_id' rest)
        exact List.mem_map.mpr ⟨other, hother, hsame.trans hid.symm⟩
      rw [hkept]
    · rename_i hother
      rw [ih hrest ((List.mem_cons.mp hmem).resolve_left (Ne.symm hother))]

theorem overridden_id (pushed : List ServerConfig) : (overridden pushed server).id = server.id := by
  unfold overridden
  cases hfind : pushed.reverse.find? (·.id == server.id) with
  | none => rfl
  | some other => simpa using List.find?_some hfind

theorem serverIds_overridden (before pushed : List ServerConfig) :
    serverIds (before.map (overridden pushed)) = serverIds before := by
  rw [serverIds, List.map_map]
  exact List.map_congr_left fun server _ => overridden_id pushed

theorem overridden_concat (pushed : List ServerConfig) :
    overridden (pushed ++ [other]) server = if server.id = other.id then other else overridden pushed server := by
  rw [overridden, List.reverse_append, List.reverse_singleton, List.singleton_append, List.find?_cons]
  by_cases hid : server.id = other.id
  · rw [if_pos hid, hid, beq_self_eq_true]
    rfl
  · rw [if_neg hid, beq_false_of_ne (Ne.symm hid)]
    rfl

/-- A merge overrides the first inline server of every id and leaves one that repeats
an id as it is. -/
theorem merge_servers_repeated (hdistinct : (serverIds before).Nodup) (hrepeated : server.id ∈ serverIds before)
    (after pushed : List ServerConfig) : ∃ rest,
      merge_servers (before ++ server :: after) pushed = before.map (overridden pushed) ++ server :: rest := by
  induction pushed using List.reverseRecOn with
  | nil => exact ⟨after, congrArg (· ++ server :: after) (List.map_id' before).symm⟩
  | append_singleton init last ih =>
    obtain ⟨rest, hrest⟩ := ih
    have hmerge : merge_servers (before ++ server :: after) (init ++ [last]) =
        putServer (merge_servers (before ++ server :: after) init) last := List.foldl_concat ..
    have hids := serverIds_overridden before init
    by_cases hmem : last.id ∈ serverIds before
    · refine ⟨rest, ?_⟩
      rw [hmerge, hrest, putServer_append_of_mem (by rwa [hids]), putServer_of_nodup (by rwa [hids]) (by rwa [hids]),
        List.map_map]
      refine congrArg (· ++ server :: rest) (List.map_congr_left fun other _ => ?_)
      rw [overridden_concat, Function.comp_apply, overridden_id]
    · have hother : server.id ≠ last.id := fun hsame => hmem (hsame ▸ hrepeated)
      refine ⟨putServer rest last, ?_⟩
      rw [hmerge, hrest, putServer_append_of_notMem (by rwa [hids]), putServer, if_neg hother]
      refine congrArg (· ++ server :: putServer rest last) (List.map_congr_left fun kept hkept => ?_)
      rw [overridden_concat, if_neg fun hsame => hmem (List.mem_map.mpr ⟨kept, hkept, hsame⟩)]

end Merge

section Load

variable {host : Host} {path : Option String} {config : Config}

theorem read_server_file_eq_ok {dir : String} {file : String × Option String} {server : ServerConfig} :
    read_server_file host dir file = .ok server ↔ declared host file = some server := by
  obtain ⟨name, contents⟩ := file
  unfold read_server_file declared
  cases contents with
  | none => simp
  | some text =>
    cases hparse : host.parse_server text <;> simp [hparse]

/-- The files of a directory that can be read are read to the servers they declare. -/
theorem load_server_dir_eq_ok_iff {pushed : List ServerConfig} :
    load_server_dir host (join config.mappings.dir SERVERS_SUBDIR) = .ok pushed ↔
      host.read_dir (join config.mappings.dir SERVERS_SUBDIR) ≠ .unreadable ∧
        pushed = declaredServers host config ∧ ∀ file ∈ serverFiles host config, (declared host file).isSome := by
  rw [declaredServers, ← result.forall₂_some_iff]
  unfold load_server_dir serverFiles
  cases host.read_dir (join config.mappings.dir SERVERS_SUBDIR) with
  | missing => simp [eq_comm]
  | unreadable => simp
  | present files =>
    simp only [ne_eq, reduceCtorEq, not_false_eq_true, true_and]
    rw [result.mapM_eq_ok_iff]
    simp only [read_server_file_eq_ok]

/-- What cannot be read is not taken for a rejected configuration. -/
theorem load_server_dir_ne_invalid {dir : String} {error : ConfigError} :
    load_server_dir host dir ≠ .error (.invalid error) := by
  unfold load_server_dir
  split
  · simp
  · simp
  · intro herror
    obtain ⟨file, -, hfile⟩ := result.exists_of_mapM_eq_error herror
    unfold read_server_file at hfile
    split at hfile
    · cases hfile
    · split at hfile <;> cases hfile

theorem settle_device_id_ne_invalid {error : ConfigError} :
    config.settle_device_id host ≠ .error (.invalid error) := by
  unfold Config.settle_device_id
  split
  · split <;> simp
  · simp

/-- The configuration as it is validated: with a device id that is not blank if it is
needed, and otherwise as it was. -/
structure Settled (before settled : Config) : Prop where
  rest : settled = { before with gateway := { before.gateway with device_id := settled.gateway.device_id } }
  device_id : before.gateway.enabled = true → isBlank settled.gateway.device_id = false

theorem discover_device_id_eq_ok_iff {output : CommandOutput} {device_id : String} :
    discover_device_id output = .ok device_id ↔
      ∃ stdout stderr, output = .exited true stdout stderr ∧ isBlank stdout = false ∧ trim stdout = device_id := by
  constructor
  · intro h
    unfold discover_device_id at h
    split at h
    · cases h
    · cases h
    · rename_i stdout stderr
      split at h
      · cases h
      · rename_i hblank
        exact ⟨stdout, stderr, rfl, by simpa using hblank, Except.ok.inj h⟩
  · rintro ⟨stdout, stderr, rfl, hblank, rfl⟩
    simp [discover_device_id, hblank]

/-- A device id is settled unless it is needed, not configured and not to be had. -/
theorem exists_settled (h : config.gateway.enabled = true → isBlank config.gateway.device_id = true →
    ∃ stdout stderr, host.device_id_output = .exited true stdout stderr ∧ isBlank stdout = false) :
    ∃ settled, config.settle_device_id host = .ok settled ∧ Settled config settled := by
  unfold Config.settle_device_id
  split
  · rename_i hneeded
    obtain ⟨henabled, hblank⟩ := Bool.and_eq_true_iff.mp hneeded
    obtain ⟨stdout, stderr, houtput, hstdout⟩ := h henabled hblank
    have hfound := discover_device_id_eq_ok_iff.mpr ⟨stdout, stderr, houtput, hstdout, rfl⟩
    rw [hfound]
    exact ⟨_, rfl, rfl, fun _ => isBlank_trim hstdout⟩
  · rename_i hneeded
    refine ⟨config, rfl, rfl, fun henabled => ?_⟩
    simpa [henabled] using hneeded

theorem settled_of_ok {settled : Config} (h : config.settle_device_id host = .ok settled) :
    Settled config settled ∧ (config.gateway.enabled = true → isBlank config.gateway.device_id = true →
      ∃ stdout stderr, host.device_id_output = .exited true stdout stderr ∧ isBlank stdout = false) := by
  have houtput : config.gateway.enabled = true → isBlank config.gateway.device_id = true →
      ∃ stdout stderr, host.device_id_output = .exited true stdout stderr ∧ isBlank stdout = false := by
    intro henabled hblank
    rw [Config.settle_device_id, henabled, hblank] at h
    cases hdiscover : discover_device_id host.device_id_output with
    | error cause =>
      rw [hdiscover] at h
      cases h
    | ok device_id =>
      obtain ⟨stdout, stderr, houtput, hstdout, -⟩ := discover_device_id_eq_ok_iff.mp hdiscover
      exact ⟨stdout, stderr, houtput, hstdout⟩
  obtain ⟨other, hother, hsettled⟩ := exists_settled houtput
  obtain rfl := Except.ok.inj (h.symm.trans hother)
  exact ⟨hsettled, houtput⟩

/-- The configuration with its servers merged with those that the files declare. -/
def withDeclared (host : Host) (config : Config) : Config :=
  { config with servers := merge_servers config.servers (declaredServers host config) }

/-- What is loaded is the merged configuration with a device id, validated. -/
theorem load_eq_ok (hextract : Config.extract host path = .ok config) {loaded : Config}
    (h : Config.load host path = .ok loaded) :
    (∀ file ∈ serverFiles host config, (declared host file).isSome) ∧ Settled (withDeclared host config) loaded ∧
      loaded.validate (host.path_exists loaded.mappings.dir) = .ok () := by
  unfold Config.load at h
  obtain ⟨extracted, hextracted, h⟩ := result.bind_eq_ok_iff.mp h
  obtain rfl := Except.ok.inj (hextract.symm.trans hextracted)
  obtain ⟨pushed, hpushed, h⟩ := result.bind_eq_ok_iff.mp h
  obtain ⟨-, rfl, hreadable⟩ := load_server_dir_eq_ok_iff.mp hpushed
  obtain ⟨settled, hsettled, h⟩ := result.bind_eq_ok_iff.mp h
  obtain ⟨_, hvalid, hloaded⟩ := result.bind_eq_ok_iff.mp h
  obtain rfl := Except.ok.inj hloaded
  exact ⟨hreadable, (settled_of_ok hsettled).1, result.mapError_eq_ok_iff.mp hvalid⟩

/-- What the validation reports, it reports on the configuration with the servers of the
files and a device id. -/
theorem load_eq_invalid_iff (hextract : Config.extract host path = .ok config) {error : ConfigError} :
    Config.load host path = .error (.invalid error) ↔
      ∃ pushed, load_server_dir host (join config.mappings.dir SERVERS_SUBDIR) = .ok pushed ∧
        ∃ settled, Config.settle_device_id host { config with servers := merge_servers config.servers pushed } =
          .ok settled ∧ settled.validate (host.path_exists settled.mappings.dir) = .error error := by
  constructor
  · intro h
    unfold Config.load at h
    rcases result.bind_eq_error_iff.mp h with hfailed | ⟨extracted, hextracted, h⟩
    · rw [hextract] at hfailed
      cases hfailed
    obtain rfl := Except.ok.inj (hextract.symm.trans hextracted)
    rcases result.bind_eq_error_iff.mp h with hfailed | ⟨pushed, hpushed, h⟩
    · exact absurd hfailed load_server_dir_ne_invalid
    rcases result.bind_eq_error_iff.mp h with hfailed | ⟨settled, hsettled, h⟩
    · exact absurd hfailed settle_device_id_ne_invalid
    rcases result.bind_eq_error_iff.mp h with hfailed | ⟨-, -, h⟩
    · obtain ⟨reported, hvalidate, herror⟩ := result.mapError_eq_error_iff.mp hfailed
      obtain rfl := LoadError.invalid.inj herror
      exact ⟨pushed, hpushed, settled, hsettled, hvalidate⟩
    · cases h
  · rintro ⟨pushed, hpushed, settled, hsettled, hvalidate⟩
    have hinvalid : (settled.validate (host.path_exists settled.mappings.dir)).mapError LoadError.invalid =
        .error (.invalid error) := result.mapError_eq_error_iff.mpr ⟨_, hvalidate, rfl⟩
    unfold Config.load
    refine result.bind_eq_error_iff.mpr (Or.inr ⟨config, hextract, ?_⟩)
    refine result.bind_eq_error_iff.mpr (Or.inr ⟨pushed, hpushed, ?_⟩)
    refine result.bind_eq_error_iff.mpr (Or.inr ⟨settled, hsettled, ?_⟩)
    exact result.bind_eq_error_iff.mpr (Or.inl hinvalid)

/-- A repeated id is reported once the files are read and the other settings accepted. -/
theorem load_eq_duplicateId_iff (hextract : Config.extract host path = .ok config) {id : String} :
    Config.load host path = .error (.invalid (.duplicateId id)) ↔
      (host.read_dir (join config.mappings.dir SERVERS_SUBDIR) ≠ .unreadable ∧
        ∀ file ∈ serverFiles host config, (declared host file).isSome) ∧ SettingsAccepted host config ∧
      validateServers [] (withDeclared host config).servers = .error (.duplicateId id) := by
  rw [load_eq_invalid_iff hextract]
  constructor
  · rintro ⟨pushed, hpushed, settled, hsettled, hvalidate⟩
    obtain ⟨hdir, rfl, hreadable⟩ := load_server_dir_eq_ok_iff.mp hpushed
    obtain ⟨⟨hrest, -⟩, houtput⟩ := settled_of_ok hsettled
    rw [validate_eq_duplicateId_iff, hrest] at hvalidate
    obtain ⟨-, hid, -, hpoll, hworkers, hcapacity, hpublishing, hflush, hservers⟩ := hvalidate
    exact ⟨⟨hdir, hreadable⟩, ⟨hid, houtput, hpoll, hworkers, hcapacity, hpublishing, hflush⟩, hservers⟩
  · rintro ⟨⟨hdir, hreadable⟩, hsettings, hservers⟩
    obtain ⟨settled, hsettled, hsame⟩ : ∃ settled, (withDeclared host config).settle_device_id host = .ok settled ∧
        Settled (withDeclared host config) settled := exists_settled hsettings.device_id
    refine ⟨_, load_server_dir_eq_ok_iff.mpr ⟨hdir, rfl, hreadable⟩, settled, hsettled, ?_⟩
    have hdevice := hsame.device_id
    rw [validate_eq_duplicateId_iff, hsame.rest]
    refine ⟨fun hnone => ?_, hsettings.gateway_id, hdevice, hsettings.server_poll_interval_secs,
      hsettings.worker_threads, hsettings.channel_capacity, hsettings.publishing_interval_ms,
      hsettings.flush_interval_ms, hservers⟩
    have hempty : (withDeclared host config).servers = [] := hnone
    rw [hempty] at hservers
    cases hservers

/-- Files with an id each declare servers with distinct ids. -/
theorem nodup_declaredServers (hnone : ∀ id, ¬ SharedId host config id) :
    (serverIds (declaredServers host config)).Nodup := by
  have hnames : (serverFiles host config).Pairwise fun first second => first.1 < second.1 := by
    unfold serverFiles
    split
    · rename_i files _
      exact files.ascending.filter _
    · exact .nil
  rw [serverIds, List.Nodup, List.pairwise_map, declaredServers, List.pairwise_filterMap]
  refine hnames.imp_of_mem fun hfirst hsecond hlt server hserver other hother hsame => ?_
  exact hnone server.id ⟨_, hfirst, _, hsecond, ne_of_lt hlt, ⟨server, hserver, rfl⟩, other, hother, hsame.symm⟩

/-- Without a shared id every file is represented by its own content. -/
theorem represented_of_distinct (hextract : Config.extract host path = .ok config)
    (hnone : ∀ id, ¬ SharedId host config id) {loaded : Config} (hload : Config.load host path = .ok loaded)
    {file : String × Option String} (hfile : file ∈ serverFiles host config) :
    ∃ server, declared host file = some server ∧ server ∈ loaded.servers ∧
      ∀ other ∈ loaded.servers, other.id = server.id → other = server := by
  obtain ⟨hreadable, hsettled, hvalid⟩ := load_eq_ok hextract hload
  obtain ⟨server, hserver⟩ := Option.isSome_iff_exists.mp (hreadable file hfile)
  have hdeclared : server ∈ declaredServers host config := List.mem_filterMap.mpr ⟨file, hfile, hserver⟩
  have hdistinct := nodup_declaredServers hnone
  have hservers : loaded.servers = merge_servers config.servers (declaredServers host config) := by
    rw [hsettled.rest]
    rfl
  have hfind : loaded.servers.find? (·.id == server.id) = some server := by
    rw [hservers, find?_merge_servers, find?_reverse hdistinct,
      (find?_id_eq_some hdistinct).mpr ⟨hdeclared, rfl⟩, Option.some_or]
  obtain ⟨hmem, -⟩ := (find?_id_eq_some (nodup_of_validate hvalid)).mp hfind
  exact ⟨server, hserver, hmem, fun other hother hid => eq_of_mem_of_id_eq (nodup_of_validate hvalid) hother hmem hid⟩

/-- An inline server that repeats an id is found behind the overridden ones before it. -/
theorem validateServers_repeated_iff {before after : List ServerConfig} {server : ServerConfig} {id : String}
    (hservers : config.servers = before ++ server :: after) (hdistinct : (serverIds before).Nodup)
    (hrepeated : server.id ∈ serverIds before) :
    validateServers [] (withDeclared host config).servers = .error (.duplicateId id) ↔
      (∀ other ∈ before, Admissible (overridden (declaredServers host config) other)) ∧ server.id = id := by
  obtain ⟨rest, hmerged⟩ := merge_servers_repeated hdistinct hrepeated after (declaredServers host config)
  have hids := serverIds_overridden before (declaredServers host config)
  have hsplit : (withDeclared host config).servers =
      before.map (overridden (declaredServers host config)) ++ server :: rest := by
    rw [← hmerged, ← hservers]
    rfl
  rw [hsplit, validateServers_eq_duplicateId_iff (by rwa [List.nil_append, hids]) (by rwa [List.nil_append, hids]),
    List.forall_mem_map]
  constructor
  · rintro ⟨hadmissible, -, hid⟩
    exact ⟨hadmissible, hid⟩
  · rintro ⟨hadmissible, hid⟩
    obtain ⟨other, hmem, hsame⟩ := List.mem_map.mp hrepeated
    have hnamed := (hadmissible other hmem).id
    rw [overridden_id, hsame] at hnamed
    exact ⟨hadmissible, hnamed, hid⟩

/-- An id that is repeated inline is reported although the files share it. -/
theorem RepeatsInline.reported (hextract : Config.extract host path = .ok config) (h : RepeatsInline host config) :
    ∃ id, SharedId host config id ∧ Config.load host path = .error (.invalid (.duplicateId id)) := by
  obtain ⟨before, server, after, hservers, hdistinct, hrepeated, hshared, hadmissible⟩ := h.repeated
  have hdir : host.read_dir (join config.mappings.dir SERVERS_SUBDIR) ≠ .unreadable := by
    intro hunreadable
    obtain ⟨file, hfile, -⟩ := hshared
    rw [serverFiles, hunreadable] at hfile
    cases hfile
  have hvalidate := (validateServers_repeated_iff hservers hdistinct hrepeated).mpr ⟨hadmissible, rfl⟩
  exact ⟨server.id, hshared, (load_eq_duplicateId_iff hextract).mpr ⟨⟨hdir, h.readable⟩, h.settings, hvalidate⟩⟩

theorem repeatsInline_of_reported (hextract : Config.extract host path = .ok config) {id : String}
    (hshared : SharedId host config id) (hload : Config.load host path = .error (.invalid (.duplicateId id))) :
    RepeatsInline host config := by
  obtain ⟨⟨-, hreadable⟩, hsettings, hvalidate⟩ := (load_eq_duplicateId_iff hextract).mp hload
  refine ⟨hreadable, hsettings, ?_⟩
  rcases grouping.nodup_or_exists_first_repeat (·.id) config.servers with
    hdistinct | ⟨before, server, after, hservers, hdistinct, hrepeated⟩
  · have hmerged := nodup_merge_servers hdistinct (declaredServers host config)
    exact absurd hvalidate (validateServers_ne_duplicateId hmerged)
  · obtain ⟨hadmissible, rfl⟩ := (validateServers_repeated_iff hservers hdistinct hrepeated).mp hvalidate
    exact ⟨before, server, after, hservers, hdistinct, hrepeated, hshared, hadmissible⟩

end Load

/-- Shared ids are reported exactly when no two files share one or the inline servers
repeat one of those by themselves. -/
theorem reportsDuplicates_iff (host : Host) (path : Option String) :
    ReportsDuplicates host path ↔ ∀ config, Config.extract host path = .ok config →
      (∀ id, ¬ SharedId host config id) ∨ RepeatsInline host config := by
  constructor
  · intro h config hextract
    by_cases hshared : ∃ id, SharedId host config id
    · obtain ⟨id, hid, hload⟩ := h.reported config hextract hshared
      exact Or.inr (repeatsInline_of_reported hextract hid hload)
    · exact Or.inl (not_exists.mp hshared)
  · intro h
    constructor
    · intro config hextract hshared
      rcases h config hextract with hnone | hinline
      · exact absurd hshared (not_exists.mpr hnone)
      · exact hinline.reported hextract
    · intro config loaded hextract hload file hfile
      rcases h config hextract with hnone | hinline
      · exact represented_of_distinct hextract hnone hload hfile
      · obtain ⟨id, -, herror⟩ := hinline.reported hextract
        cases herror.symm.trans hload

section Sample

/-- Two server files whose servers differ in their address only. -/
def twoFiles : Host where
  path_exists _ := true
  extract _ := some { Config.default with gateway := { GatewayConfig.default with device_id := "tedge001" } }
  read_dir _ := .present (.ofList [("a.toml", some "opc.tcp://10.0.0.7:4840"), ("b.toml", some "opc.tcp://10.0.0.8:4840")])
  parse_server url := some ⟨"plc-1", "PLC", url, "None", none, none, [], none, none⟩
  device_id_output := .notRun

/-- The second file takes the place of the first, and nothing is reported. -/
theorem first_file_dropped : ¬ ∀ host path, ReportsDuplicates host path := by
  intro hall
  have hshared : SharedId twoFiles { Config.default with
      gateway := { GatewayConfig.default with device_id := "tedge001" } } "plc-1" :=
    ⟨("a.toml", some "opc.tcp://10.0.0.7:4840"), by decide, ("b.toml", some "opc.tcp://10.0.0.8:4840"), by decide,
      by decide, ⟨_, rfl, rfl⟩, _, rfl, rfl⟩
  obtain ⟨id, -, hload⟩ := (hall twoFiles none).reported _ rfl ⟨"plc-1", hshared⟩
  have hloaded : (Config.load twoFiles none).toOption.isSome = true := by decide
  rw [hload] at hloaded
  cases hloaded

end Sample

end gateway.config
