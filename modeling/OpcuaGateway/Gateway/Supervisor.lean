import OpcuaGateway.Gateway.Config

open ordered_map gateway.config

namespace gateway.supervisor

/-- A running server task: the configuration it was started with and the server
ids it was told at that moment. -/
structure Running where
  server : ServerConfig
  known_server_ids : List String
  deriving DecidableEq

abbrev RunningSet := OrderedMap String Running

def serverIds (servers : List ServerConfig) : List String := servers.map (·.id)

/-- Running, but no longer wanted. -/
def removed (running : RunningSet) (desired : List ServerConfig) : List String :=
  running.keys.filter fun id => !desired.any fun server => server.id == id

/-- Still wanted, but with different settings. -/
def restarted (running : RunningSet) (desired : List ServerConfig) : List String :=
  (desired.filter fun server => (running.get server.id).any fun task => task.server != server).map (·.id)

/-- Start the task of a server unless one is running. -/
def start (known_server_ids : List String) (running : RunningSet) (server : ServerConfig) : RunningSet :=
  if (running.get server.id).isSome then running
  else running.insert server.id ⟨server, known_server_ids⟩

/-- Start what is missing, stop what is gone or changed. -/
def reconcile (running : RunningSet) (desired : List ServerConfig) : RunningSet :=
  let known_server_ids := serverIds desired
  let kept := (removed running desired).foldl OrderedMap.remove running
  let kept := (restarted running desired).foldl OrderedMap.remove kept
  desired.foldl (start known_server_ids) kept

/-- The servers wanted with these servers registered in Cumulocity. Those configured
on the device win. -/
def desired (config : Config) (cloud : List ServerConfig) : List ServerConfig :=
  merge_servers cloud config.servers

/-- The tasks running after these lists of cloud servers have been seen in turn. -/
def run (config : Config) (history : List (List ServerConfig)) : RunningSet :=
  history.foldl (fun running cloud => reconcile running (desired config cloud)) OrderedMap.empty

theorem get_foldl_start (known : List String) (running : RunningSet) (servers : List ServerConfig)
    (id : String) :
    (servers.foldl (start known) running).get id =
      (running.get id).or ((servers.find? (·.id == id)).map fun server => ⟨server, known⟩) := by
  induction servers generalizing running with
  | nil => simp
  | cons server rest ih =>
    rw [List.foldl_cons, ih, List.find?_cons]
    unfold start
    by_cases hid : server.id = id
    · subst hid
      cases hget : running.get server.id <;> simp [hget]
    · have hsame : (if (running.get server.id).isSome then running
          else running.insert server.id ⟨server, known⟩).get id = running.get id := by
        split
        · rfl
        · exact OrderedMap.get_insert_of_ne _ (Ne.symm hid) _
      rw [hsame, beq_false_of_ne hid]

theorem find?_id_eq_none {servers : List ServerConfig} {id : String} :
    servers.find? (·.id == id) = none ↔ id ∉ serverIds servers := by
  simp [serverIds, List.find?_eq_none]

theorem find?_id_isSome {servers : List ServerConfig} {id : String} :
    (servers.find? (·.id == id)).isSome ↔ id ∈ serverIds servers := by
  rw [Option.isSome_iff_ne_none, Ne, find?_id_eq_none, not_not]

theorem mem_removed {running : RunningSet} {servers : List ServerConfig} {id : String} :
    id ∈ removed running servers ↔ (running.get id).isSome ∧ id ∉ serverIds servers := by
  simp [removed, serverIds, OrderedMap.mem_keys_iff]

theorem mem_restarted {running : RunningSet} {servers : List ServerConfig} {id : String} :
    id ∈ restarted running servers ↔ ∃ server ∈ servers, server.id = id ∧
      ∃ task, running.get id = some task ∧ task.server ≠ server := by
  simp only [restarted, List.mem_map, List.mem_filter, Option.any_eq_true, bne_iff_ne]
  constructor
  · rintro ⟨server, ⟨hmem, task, hget, hne⟩, rfl⟩
    exact ⟨server, hmem, rfl, task, hget, hne⟩
  · rintro ⟨server, hmem, rfl, task, hget, hne⟩
    exact ⟨server, ⟨hmem, task, hget, hne⟩, rfl⟩

/-- What runs under an id after a reconciliation: the task that ran before, unless
it is gone or changed, and otherwise a new one for the first server with that id. -/
theorem get_reconcile (running : RunningSet) (servers : List ServerConfig) (id : String) :
    (reconcile running servers).get id =
      (if id ∈ removed running servers ∨ id ∈ restarted running servers then none
        else running.get id).or
        ((servers.find? (·.id == id)).map fun server => ⟨server, serverIds servers⟩) := by
  rw [reconcile, get_foldl_start, OrderedMap.get_foldl_remove, OrderedMap.get_foldl_remove]
  by_cases hremoved : id ∈ removed running servers <;>
    by_cases hrestarted : id ∈ restarted running servers <;> simp [hremoved, hrestarted]

/-- Whatever is wanted runs afterwards. -/
theorem reconcile_isSome {running : RunningSet} {servers : List ServerConfig} {id : String}
    (hwanted : id ∈ serverIds servers) : ((reconcile running servers).get id).isSome := by
  have hfind : (servers.find? (·.id == id)).isSome := find?_id_isSome.mpr hwanted
  rw [get_reconcile, Option.isSome_or, Option.isSome_map, hfind, Bool.or_true]

theorem mem_ids_putServer {out : List ServerConfig} {server : ServerConfig} {id : String} :
    id ∈ serverIds (putServer out server) ↔ id ∈ serverIds out ∨ id = server.id := by
  induction out with
  | nil => simp [putServer, serverIds]
  | cons existing rest ih =>
    simp only [serverIds, putServer, List.map_cons, List.mem_cons] at ih ⊢
    split
    · rename_i hid
      simp only [List.map_cons, List.mem_cons, hid]
      tauto
    · simp only [List.map_cons, List.mem_cons, ih]
      tauto

/-- A merge wants the servers of both sides. -/
theorem mem_ids_merge_servers {inline pushed : List ServerConfig} {id : String} :
    id ∈ serverIds (merge_servers inline pushed) ↔ id ∈ serverIds inline ∨ id ∈ serverIds pushed := by
  induction pushed generalizing inline with
  | nil => simp [merge_servers, serverIds]
  | cons server rest ih =>
    have hmerge : merge_servers inline (server :: rest) = merge_servers (putServer inline server) rest := rfl
    rw [hmerge, ih, mem_ids_putServer]
    simp only [serverIds, List.map_cons, List.mem_cons]
    tauto

end gateway.supervisor
