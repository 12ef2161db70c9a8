import Mathlib.Data.List.Induction
import OpcuaGateway.Gateway.Supervisor

open ordered_map gateway.config

namespace gateway.supervisor

variable {config : Config}

/-- The server ids a task was told: those of the list with which the configuration
came in that it has kept ever since. `older` lists the lists before, newest first. -/
def startedWith (server : ServerConfig) (current : List ServerConfig) :
    List (List ServerConfig) → List String
  | [] => serverIds current
  | earlier :: older =>
    if server ∈ earlier then startedWith server earlier older else serverIds current

/-- The configurations behind the ids of a list. -/
theorem eq_of_mem_of_id_eq {servers : List ServerConfig} (hids : (serverIds servers).Nodup)
    {a b : ServerConfig} (ha : a ∈ servers) (hb : b ∈ servers) (hid : a.id = b.id) : a = b :=
  List.inj_on_of_nodup_map hids ha hb hid

theorem find?_id_eq_some {servers : List ServerConfig} (hids : (serverIds servers).Nodup)
    {server : ServerConfig} {id : String} :
    servers.find? (·.id == id) = some server ↔ server ∈ servers ∧ server.id = id := by
  constructor
  · intro hfind
    exact ⟨List.mem_of_find?_eq_some hfind, by simpa using List.find?_some hfind⟩
  · rintro ⟨hmem, rfl⟩
    cases hfind : servers.find? (·.id == server.id) with
    | none => exact absurd (List.mem_map_of_mem hmem) (find?_id_eq_none.mp hfind)
    | some other =>
      have hid : other.id = server.id := by simpa using List.find?_some hfind
      rw [eq_of_mem_of_id_eq hids (List.mem_of_find?_eq_some hfind) hmem hid]

theorem find?_reverse {servers : List ServerConfig} (hdistinct : (serverIds servers).Nodup) (id : String) :
    servers.reverse.find? (·.id == id) = servers.find? (·.id == id) := by
  have hreverse : (serverIds servers.reverse).Nodup := by
    rw [serverIds, List.map_reverse]
    exact List.nodup_reverse.mpr hdistinct
  ext server
  rw [find?_id_eq_some hreverse, find?_id_eq_some hdistinct, List.mem_reverse]

/-- The tasks of a list whose configurations have this past. -/
def tasksOf (servers : List ServerConfig) (older : List (List ServerConfig)) (id : String) :
    Option Running :=
  (servers.find? (·.id == id)).map fun server => ⟨server, startedWith server servers older⟩

theorem get_reconcile_tasksOf {running : RunningSet} {previous servers : List ServerConfig}
    {older : List (List ServerConfig)} (hprevious : (serverIds previous).Nodup)
    (hservers : (serverIds servers).Nodup)
    (hrunning : ∀ id, running.get id = tasksOf previous older id) (id : String) :
    (reconcile running servers).get id = tasksOf servers (previous :: older) id := by
  rw [get_reconcile]
  cases hfind : servers.find? (·.id == id) with
  | none =>
    have hunwanted : id ∉ serverIds servers := find?_id_eq_none.mp hfind
    cases hget : running.get id <;> simp [mem_removed, tasksOf, hfind, hunwanted, hget]
  | some server =>
    obtain ⟨hserver, rfl⟩ := (find?_id_eq_some hservers).mp hfind
    have hgone : server.id ∈ removed running servers ∨ server.id ∈ restarted running servers ↔
        ∃ task, running.get server.id = some task ∧ task.server ≠ server := by
      rw [mem_removed, mem_restarted]
      constructor
      · rintro (⟨-, hunwanted⟩ | ⟨other, hother, hid, task, hget, hne⟩)
        · exact absurd (List.mem_map_of_mem hserver) hunwanted
        · rw [eq_of_mem_of_id_eq hservers hother hserver hid] at hne
          exact ⟨task, hget, hne⟩
      · rintro ⟨task, hget, hne⟩
        exact Or.inr ⟨server, hserver, rfl, task, hget, hne⟩
    simp only [hgone, hrunning, tasksOf, hfind, Option.map_some, startedWith]
    cases hbefore : previous.find? (·.id == server.id) with
    | none =>
      have hnew : server ∉ previous := fun hmem => find?_id_eq_none.mp hbefore (List.mem_map_of_mem hmem)
      simp [hnew]
    | some old =>
      obtain ⟨hold, hid⟩ := (find?_id_eq_some hprevious).mp hbefore
      by_cases hsame : old = server
      · subst hsame
        simp [hold]
      · have hnew : server ∉ previous := fun hmem =>
          hsame (eq_of_mem_of_id_eq hprevious hold hmem hid)
        simp [hsame, hnew]

theorem run_append (config : Config) (history : List (List ServerConfig)) (cloud : List ServerConfig) :
    run config (history ++ [cloud]) = reconcile (run config history) (desired config cloud) := by
  rw [run, List.foldl_append]
  rfl

theorem nodup_putServer {out : List ServerConfig} {server : ServerConfig}
    (hout : (serverIds out).Nodup) : (serverIds (putServer out server)).Nodup := by
  induction out with
  | nil => simp [putServer, serverIds]
  | cons existing rest ih =>
    obtain ⟨hfresh, hrest⟩ := List.nodup_cons.mp hout
    rw [putServer]
    split
    · rename_i hid
      have hfresh : server.id ∉ serverIds rest := by rwa [← hid]
      exact List.nodup_cons.mpr ⟨hfresh, hrest⟩
    · rename_i hid
      refine List.nodup_cons.mpr ⟨fun hmem => ?_, ih hrest⟩
      rcases mem_ids_putServer.mp hmem with hmem | hmem
      · exact hfresh hmem
      · exact hid hmem

/-- Distinct ids stay distinct under a merge, whatever is merged in. -/
theorem nodup_merge_servers {inline : List ServerConfig} (hinline : (serverIds inline).Nodup)
    (pushed : List ServerConfig) : (serverIds (merge_servers inline pushed)).Nodup := by
  induction pushed generalizing inline with
  | nil => exact hinline
  | cons server rest ih => exact ih (nodup_putServer hinline)

theorem nodup_desired {cloud : List ServerConfig} (hcloud : (serverIds cloud).Nodup) :
    (serverIds (desired config cloud)).Nodup := nodup_merge_servers hcloud config.servers

/-- The tasks running after a history: one for each server of the last list, told
the server ids of the moment its configuration came in. -/
theorem get_run {history : List (List ServerConfig)} {cloud : List ServerConfig}
    (hids : ∀ servers ∈ history ++ [cloud], (serverIds servers).Nodup) (id : String) :
    (run config (history ++ [cloud])).get id =
      tasksOf (desired config cloud) (history.reverse.map (desired config)) id := by
  induction history using List.reverseRecOn generalizing cloud id with
  | nil =>
    have hempty : (run config []).get id = none := OrderedMap.get_empty id
    rw [run_append, get_reconcile]
    simp [mem_removed, mem_restarted, hempty, tasksOf, startedWith]
  | append_singleton earlier previous ih =>
    have hearlier : ∀ servers ∈ earlier ++ [previous], (serverIds servers).Nodup :=
      fun servers hmem => hids servers (List.mem_append_left _ hmem)
    rw [run_append, List.reverse_append]
    exact get_reconcile_tasksOf (nodup_desired (hearlier previous (by simp)))
      (nodup_desired (hids cloud (by simp))) (fun id => ih hearlier id) id

end gateway.supervisor
