import OpcuaGateway.Foundation.Transition
import OpcuaGateway.Gateway.Supervisor.Admission
import OpcuaGateway.Gateway.Supervisor.History

open transition ordered_map gateway.config

namespace gateway.supervisor

/-- A spawned server task, known by the handle that it is joined by. -/
structure Spawned where
  handle : Nat
  running : Running
  deriving DecidableEq

abbrev Spawned.id (task : Spawned) : String := task.running.server.id

/-- The tasks under the ids of their servers. -/
abbrev TaskSet := OrderedMap String Spawned

/-- What runs under each id, whichever task it is. -/
def runningSet (tasks : TaskSet) : RunningSet := tasks.mapValues (·.running)

inductive Token where
  | stop
  | remove
  deriving DecidableEq

/-- A token that was fired, and the cloud servers that were being reconciled. -/
structure Firing where
  token : Token
  task : Spawned
  cloud : List ServerConfig
  deriving DecidableEq

inductive SupervisorPhase where
  /-- About to read the servers registered in Cumulocity. -/
  | deciding
  /-- The ids still to be removed, and those to be restarted after that. -/
  | removing (pending again : List String) (desired : List ServerConfig)
  | restarting (pending : List String) (desired : List ServerConfig)
  | starting (known_server_ids : List String) (pending : List ServerConfig)
  | waiting
  /-- The provider is gone; only shutdown is awaited. -/
  | orphaned
  /-- Joining what is left. -/
  | finishing
  | stopped
  deriving DecidableEq

/-- The supervisor and the channel it reads the registered servers from. -/
structure SupervisorState where
  /-- The list last sent, whether it has been seen, and whether the provider is gone. -/
  sent : List ServerConfig
  unseen : Bool
  closed : Bool
  /-- The list that was last read. -/
  seen : List ServerConfig
  running : TaskSet
  /-- The task that is being joined. -/
  joining : Option Spawned
  phase : SupervisorPhase
  /-- How many tasks have been spawned. -/
  spawned : Nat
  /-- The tasks that have been spawned and not joined. -/
  unjoined : List Spawned
  fired : List Firing
  /-- The tasks at the time the last list was read. -/
  before : TaskSet
  deriving DecidableEq

inductive SupervisorLabel where
  /-- The steps of the provider. -/
  | sent (cloud : List ServerConfig)
  | closed
  /-- The list is read; the tasks to be removed are visited in this order. -/
  | borrowed (order : List String)
  | advance
  /-- The task that is being joined has ended. -/
  | joined
  | changed
  | providerGone
  | cancelled
  /-- After the loop the task under this id is joined. -/
  | drained (id : String)

namespace SupervisorState

/-- Take the task under this id out of the set, fire a token of it and join it. -/
def fire (state : SupervisorState) (token : Token) (id : String) (phase : SupervisorPhase) : SupervisorState :=
  match state.running.get id with
  | some task =>
    { state with
      running := state.running.remove id
      joining := some task
      phase
      fired := ⟨token, task, state.seen⟩ :: state.fired }
  | none => { state with phase }

/-- Start the task of a server unless one is running. -/
def spawn (state : SupervisorState) (known_server_ids : List String) (server : ServerConfig)
    (phase : SupervisorPhase) : SupervisorState :=
  if (state.running.get server.id).isSome then { state with phase }
  else
    let task : Spawned := ⟨state.spawned, ⟨server, known_server_ids⟩⟩
    { state with
      running := state.running.insert server.id task
      phase
      spawned := state.spawned + 1
      unjoined := task :: state.unjoined }

/-- The next step of the passes over the tasks and the wanted servers. -/
def advance (state : SupervisorState) : Option SupervisorState :=
  match state.phase with
  | .removing (id :: pending) again desired => some (state.fire .remove id (.removing pending again desired))
  | .removing [] again desired => some { state with phase := .restarting again desired }
  | .restarting (id :: pending) desired => some (state.fire .stop id (.restarting pending desired))
  | .restarting [] desired => some { state with phase := .starting (serverIds desired) desired }
  | .starting known_server_ids (server :: pending) =>
    some (state.spawn known_server_ids server (.starting known_server_ids pending))
  | .starting _ [] => some { state with phase := .waiting }
  | .finishing => if state.running.entries = [] then some { state with phase := .stopped } else none
  | _ => none

end SupervisorState

section Tasks

variable (config : Config)

def taskStep (state : SupervisorState) : SupervisorLabel → Option SupervisorState
  | .sent cloud =>
    when (state.closed = false ∧ (serverIds cloud).Nodup) { state with sent := cloud, unseen := true }
  | .closed => some { state with closed := true }
  | .borrowed order =>
    let wanted := desired config state.sent
    when (state.phase = .deciding ∧ order.Perm (removed (runningSet state.running) wanted)) { state with
      unseen := false
      seen := state.sent
      before := state.running
      phase := .removing order (restarted (runningSet state.running) wanted) wanted }
  | .advance => if state.joining = none then state.advance else none
  | .joined => state.joining.map fun task => { state with joining := none, unjoined := state.unjoined.erase task }
  | .changed => when (state.phase = .waiting ∧ state.unseen = true) { state with unseen := false, phase := .deciding }
  | .providerGone =>
    when (state.phase = .waiting ∧ state.unseen = false ∧ state.closed = true) { state with phase := .orphaned }
  | .cancelled => when (state.phase = .waiting ∨ state.phase = .orphaned) { state with phase := .finishing }
  | .drained id =>
    if state.phase = .finishing ∧ state.joining = none then
      (state.running.get id).map fun task =>
        { state with running := state.running.remove id, joining := some task }
    else none

/-- Keep the running server tasks equal to the configured set until cancelled. -/
def tasks : Machine SupervisorState SupervisorLabel where
  start state :=
    state.sent = [] ∧ state.running = .empty ∧ state.joining = none ∧ state.phase = .deciding ∧
      state.unjoined = [] ∧ state.fired = [] ∧ state.before = .empty ∧ state.seen = []
  step := taskStep config

end Tasks

/-- A token is fired for a reason: the server is gone, or it is wanted differently. -/
def Firing.Justified (config : Config) (firing : Firing) : Prop :=
  match firing.token with
  | .remove => firing.task.id ∉ serverIds (desired config firing.cloud)
  | .stop => ∃ server ∈ desired config firing.cloud, server.id = firing.task.id ∧ server ≠ firing.task.running.server

section Invariant

variable (config : Config)

/-- The tasks that were running and are neither gone nor changed. -/
def keptTasks (before : TaskSet) (wanted : List ServerConfig) : TaskSet :=
  (restarted (runningSet before) wanted).foldl OrderedMap.remove
    ((removed (runningSet before) wanted).foldl OrderedMap.remove before)

/-- What is kept runs on, and these servers have been started behind it. -/
structure Settled (before running : TaskSet) (wanted servers : List ServerConfig) : Prop where
  shape : runningSet running = servers.foldl (start (serverIds wanted)) (runningSet (keptTasks before wanted))
  kept : ∀ id task, (keptTasks before wanted).get id = some task → running.get id = some task

/-- How far the passes have come since the list was read. -/
def Progress (state : SupervisorState) : Prop :=
  let wanted := desired config state.seen
  let gone := removed (runningSet state.before) wanted
  let changed := restarted (runningSet state.before) wanted
  match state.phase with
  | .removing pending again servers => servers = wanted ∧ again = changed ∧
      ∃ done, (done ++ pending).Perm gone ∧ state.running = done.foldl OrderedMap.remove state.before
  | .restarting pending servers => servers = wanted ∧
      ∃ done, done ++ pending = changed ∧
        state.running = done.foldl OrderedMap.remove (gone.foldl OrderedMap.remove state.before)
  | .starting known_server_ids pending => known_server_ids = serverIds wanted ∧
      ∃ done, done ++ pending = wanted ∧ Settled state.before state.running wanted done
  | .waiting | .orphaned => Settled state.before state.running wanted wanted
  | .deciding | .finishing | .stopped => True

/-- What holds at every moment of the supervisor's life. -/
structure SupervisorInv (state : SupervisorState) : Prop where
  distinctSent : (serverIds state.sent).Nodup
  distinctSeen : (serverIds state.seen).Nodup
  latest : state.phase ≠ .deciding → state.unseen = false → state.seen = state.sent
  named : ∀ id task, state.running.get id = some task → task.id = id
  single : (state.unjoined.map (·.id)).Nodup
  accounted : ∀ task ∈ state.unjoined, state.running.get task.id = some task ∨ state.joining = some task
  parted : ∀ task, state.joining = some task → state.running.get task.id = none
  justified : ∀ firing ∈ state.fired, firing.Justified config
  progress : Progress config state

end Invariant

section Sets

theorem get_runningSet (tasks : TaskSet) (id : String) : (runningSet tasks).get id = (tasks.get id).map (·.running) :=
  OrderedMap.get_mapValues ..

theorem runningSet_insert (tasks : TaskSet) (id : String) (task : Spawned) :
    runningSet (tasks.insert id task) = (runningSet tasks).insert id task.running := by
  ext other : 1
  rw [get_runningSet, OrderedMap.get_insert, OrderedMap.get_insert, get_runningSet]
  split <;> rfl

theorem runningSet_foldl_remove (tasks : TaskSet) (ids : List String) :
    runningSet (ids.foldl OrderedMap.remove tasks) = ids.foldl OrderedMap.remove (runningSet tasks) := by
  ext id : 1
  rw [get_runningSet, OrderedMap.get_foldl_remove, OrderedMap.get_foldl_remove, get_runningSet]
  split <;> rfl

theorem remove_of_get_eq_none {tasks : TaskSet} {id : String} (hnone : tasks.get id = none) : tasks.remove id = tasks := by
  ext other : 1
  rw [OrderedMap.get_remove]
  split
  · rename_i hsame
    rw [hsame, hnone]
  · rfl

theorem foldl_remove_perm {tasks : TaskSet} {ids ids' : List String} (hperm : ids.Perm ids') :
    ids.foldl OrderedMap.remove tasks = ids'.foldl OrderedMap.remove tasks := by
  ext id : 1
  rw [OrderedMap.get_foldl_remove, OrderedMap.get_foldl_remove, if_congr hperm.mem_iff rfl rfl]

end Sets

namespace SupervisorState

variable (state : SupervisorState)

section Fire

variable (token : Token) (id : String) (phase : SupervisorPhase)

theorem fire_running : (state.fire token id phase).running = state.running.remove id := by
  unfold fire
  split
  · rfl
  · rename_i hnone
    exact (remove_of_get_eq_none hnone).symm

@[simp] theorem fire_phase : (state.fire token id phase).phase = phase := by
  unfold fire
  split <;> rfl

@[simp] theorem fire_seen : (state.fire token id phase).seen = state.seen := by
  unfold fire
  split <;> rfl

@[simp] theorem fire_before : (state.fire token id phase).before = state.before := by
  unfold fire
  split <;> rfl

end Fire

section Spawn

variable (known_server_ids : List String) (server : ServerConfig) (phase : SupervisorPhase)

theorem spawn_runningSet : runningSet (state.spawn known_server_ids server phase).running =
    start known_server_ids (runningSet state.running) server := by
  unfold spawn start
  rw [get_runningSet, Option.isSome_map]
  split
  · rfl
  · exact runningSet_insert ..

@[simp] theorem spawn_phase : (state.spawn known_server_ids server phase).phase = phase := by
  unfold spawn
  split <;> rfl

@[simp] theorem spawn_seen : (state.spawn known_server_ids server phase).seen = state.seen := by
  unfold spawn
  split <;> rfl

@[simp] theorem spawn_before : (state.spawn known_server_ids server phase).before = state.before := by
  unfold spawn
  split <;> rfl

theorem spawn_get {id : String} {task : Spawned} (hget : state.running.get id = some task) :
    (state.spawn known_server_ids server phase).running.get id = some task := by
  unfold spawn
  split
  · exact hget
  · rename_i habsent
    rw [OrderedMap.get_insert, if_neg]
    · exact hget
    · rintro rfl
      exact habsent (by rw [hget, Option.isSome_some])

end Spawn

end SupervisorState

section Preservation

variable {config : Config} {state : SupervisorState}

namespace SupervisorInv

/-- A step that moves on and touches nothing else. -/
theorem move (h : SupervisorInv config state) {phase : SupervisorPhase} (hphase : state.phase ≠ .deciding)
    (hprogress : Progress config { state with phase }) : SupervisorInv config { state with phase } :=
  { h with latest := fun _ => h.latest hphase, progress := hprogress }

/-- A task is taken out of the set to be joined. -/
theorem take (h : SupervisorInv config state) {id : String} {task : Spawned} (hidle : state.joining = none)
    (hget : state.running.get id = some task) {phase : SupervisorPhase} (hphase : state.phase ≠ .deciding)
    {fired : List Firing} (hfired : ∀ firing ∈ fired, firing.Justified config)
    (hprogress : Progress config { state with running := state.running.remove id, phase }) :
    SupervisorInv config { state with running := state.running.remove id, joining := some task, phase, fired } where
  distinctSent := h.distinctSent
  distinctSeen := h.distinctSeen
  latest := fun _ => h.latest hphase
  named := by
    intro other found hfound
    rw [OrderedMap.get_remove] at hfound
    split at hfound
    · cases hfound
    · exact h.named other found hfound
  single := h.single
  accounted := by
    intro found hmem
    have hfound := (h.accounted found hmem).resolve_right (by simp [hidle])
    by_cases hsame : found.id = id
    · right
      rw [hsame, hget] at hfound
      exact hfound
    · left
      rw [OrderedMap.get_remove, if_neg hsame]
      exact hfound
  parted := by
    intro found hfound
    cases hfound
    rw [OrderedMap.get_remove, if_pos (h.named id task hget)]
  justified := hfired
  progress := hprogress

theorem fire (h : SupervisorInv config state) {token : Token} {id : String} {phase : SupervisorPhase}
    (hidle : state.joining = none) (hphase : state.phase ≠ .deciding)
    (hjustified : ∀ task, state.running.get id = some task → Firing.Justified config ⟨token, task, state.seen⟩)
    (hprogress : Progress config (state.fire token id phase)) : SupervisorInv config (state.fire token id phase) := by
  cases hget : state.running.get id with
  | none =>
    have hfire : state.fire token id phase = { state with phase } := by simp [SupervisorState.fire, hget]
    rw [hfire] at hprogress ⊢
    exact h.move hphase hprogress
  | some task =>
    have hfire : state.fire token id phase = { state with
        running := state.running.remove id
        joining := some task
        phase
        fired := ⟨token, task, state.seen⟩ :: state.fired } := by
      simp [SupervisorState.fire, hget]
    have hfired : ∀ firing ∈ ⟨token, task, state.seen⟩ :: state.fired, Firing.Justified config firing :=
      List.forall_mem_cons.mpr ⟨hjustified task hget, h.justified⟩
    rw [hfire] at hprogress ⊢
    exact h.take hidle hget hphase hfired hprogress

theorem spawn (h : SupervisorInv config state) {known_server_ids : List String} {server : ServerConfig}
    {phase : SupervisorPhase} (hidle : state.joining = none) (hphase : state.phase ≠ .deciding)
    (hprogress : Progress config (state.spawn known_server_ids server phase)) :
    SupervisorInv config (state.spawn known_server_ids server phase) := by
  by_cases hrunning : (state.running.get server.id).isSome
  · have hspawn : state.spawn known_server_ids server phase = { state with phase } := if_pos hrunning
    rw [hspawn] at hprogress ⊢
    exact h.move hphase hprogress
  · have hspawn : state.spawn known_server_ids server phase = { state with
        running := state.running.insert server.id ⟨state.spawned, ⟨server, known_server_ids⟩⟩
        phase
        spawned := state.spawned + 1
        unjoined := ⟨state.spawned, ⟨server, known_server_ids⟩⟩ :: state.unjoined } := if_neg hrunning
    -- a task under this id that is not joined would still be running
    have hfresh : ∀ found ∈ state.unjoined, found.id ≠ server.id := by
      intro found hmem hsame
      have hfound := (h.accounted found hmem).resolve_right (by simp [hidle])
      rw [hsame] at hfound
      exact hrunning (by rw [hfound, Option.isSome_some])
    rw [hspawn] at hprogress ⊢
    exact {
      distinctSent := h.distinctSent
      distinctSeen := h.distinctSeen
      latest := fun _ => h.latest hphase
      named := by
        intro other found hfound
        rw [OrderedMap.get_insert] at hfound
        split at hfound
        · rename_i hother
          cases hfound
          exact hother.symm
        · exact h.named other found hfound
      single := by
        rw [List.map_cons, List.nodup_cons]
        refine ⟨fun hmem => ?_, h.single⟩
        obtain ⟨found, hfound, hsame⟩ := List.mem_map.mp hmem
        exact hfresh found hfound hsame
      accounted := by
        intro found hmem
        left
        rcases List.mem_cons.mp hmem with rfl | hmem
        · exact OrderedMap.get_insert_self ..
        · rw [OrderedMap.get_insert_of_ne _ (hfresh found hmem)]
          exact (h.accounted found hmem).resolve_right (by simp [hidle])
      parted := by simp [hidle]
      justified := h.justified
      progress := hprogress }

theorem joined (h : SupervisorInv config state) {task : Spawned} (hjoining : state.joining = some task) :
    SupervisorInv config { state with joining := none, unjoined := state.unjoined.erase task } where
  distinctSent := h.distinctSent
  distinctSeen := h.distinctSeen
  latest := h.latest
  named := h.named
  single := h.single.sublist (List.erase_sublist.map _)
  accounted := by
    intro found hmem
    have hdistinct := h.single.of_map
    obtain ⟨hne, hmem⟩ := hdistinct.mem_erase_iff.mp hmem
    refine (h.accounted found hmem).imp_right fun hfound => absurd ?_ hne
    rw [hjoining] at hfound
    exact (Option.some.inj hfound).symm
  parted := by simp
  justified := h.justified
  progress := h.progress

/-- The list that is waiting is read, and the passes begin. -/
theorem borrowed (h : SupervisorInv config state) {order : List String}
    (horder : order.Perm (removed (runningSet state.running) (desired config state.sent))) :
    SupervisorInv config { state with
      unseen := false
      seen := state.sent
      before := state.running
      phase := .removing order (restarted (runningSet state.running) (desired config state.sent))
        (desired config state.sent) } :=
  { h with
    distinctSeen := h.distinctSent
    latest := fun _ _ => rfl
    progress := ⟨rfl, rfl, [], horder, rfl⟩ }

theorem sent (h : SupervisorInv config state) {cloud : List ServerConfig} (hdistinct : (serverIds cloud).Nodup) :
    SupervisorInv config { state with sent := cloud, unseen := true } :=
  { h with distinctSent := hdistinct, latest := fun _ hseen => absurd hseen (by simp) }

/-- A server that is gone is removed. -/
theorem removeNext (h : SupervisorInv config state) {id : String} {pending again : List String}
    {servers : List ServerConfig} (hidle : state.joining = none)
    (hphase : state.phase = .removing (id :: pending) again servers) :
    SupervisorInv config (state.fire .remove id (.removing pending again servers)) := by
  have hprogress := h.progress
  simp only [Progress, hphase] at hprogress
  obtain ⟨hservers, hagain, done, hperm, hrunning⟩ := hprogress
  apply h.fire hidle (by simp [hphase])
  · intro task hget
    have hgone : id ∈ removed (runningSet state.before) (desired config state.seen) := hperm.mem_iff.mp (by simp)
    rw [Firing.Justified, h.named id task hget]
    exact (mem_removed.mp hgone).2
  · rw [Progress]
    simp only [SupervisorState.fire_phase, SupervisorState.fire_seen, SupervisorState.fire_before,
      SupervisorState.fire_running]
    refine ⟨hservers, hagain, done ++ [id], by simpa using hperm, ?_⟩
    rw [hrunning, List.foldl_concat]

/-- A server that is wanted differently is stopped. -/
theorem restartNext (h : SupervisorInv config state) {id : String} {pending : List String}
    {servers : List ServerConfig} (hidle : state.joining = none)
    (hphase : state.phase = .restarting (id :: pending) servers) :
    SupervisorInv config (state.fire .stop id (.restarting pending servers)) := by
  have hprogress := h.progress
  simp only [Progress, hphase] at hprogress
  obtain ⟨hservers, done, hchanged, hrunning⟩ := hprogress
  apply h.fire hidle (by simp [hphase])
  · intro task hget
    have hmem : id ∈ restarted (runningSet state.before) (desired config state.seen) := by simp [← hchanged]
    obtain ⟨server, hserver, hid, previous, hprevious, hne⟩ := mem_restarted.mp hmem
    have hbefore : (runningSet state.before).get id = some task.running := by
      rw [hrunning, OrderedMap.get_foldl_remove, OrderedMap.get_foldl_remove] at hget
      split at hget
      · cases hget
      · split at hget
        · cases hget
        · rw [get_runningSet, hget, Option.map_some]
    rw [hbefore] at hprevious
    cases hprevious
    exact ⟨server, hserver, hid.trans (h.named id task hget).symm, hne.symm⟩
  · rw [Progress]
    simp only [SupervisorState.fire_phase, SupervisorState.fire_seen, SupervisorState.fire_before,
      SupervisorState.fire_running]
    refine ⟨hservers, done ++ [id], by simpa using hchanged, ?_⟩
    rw [hrunning, List.foldl_concat]

/-- A wanted server is started unless it is running. -/
theorem startNext (h : SupervisorInv config state) {known_server_ids : List String} {server : ServerConfig}
    {pending : List ServerConfig} (hidle : state.joining = none)
    (hphase : state.phase = .starting known_server_ids (server :: pending)) :
    SupervisorInv config (state.spawn known_server_ids server (.starting known_server_ids pending)) := by
  have hprogress := h.progress
  simp only [Progress, hphase] at hprogress
  obtain ⟨hknown, done, hwanted, hsettled⟩ := hprogress
  apply h.spawn hidle (by simp [hphase])
  rw [Progress]
  simp only [SupervisorState.spawn_phase, SupervisorState.spawn_seen, SupervisorState.spawn_before]
  refine ⟨hknown, done ++ [server], by simpa using hwanted, ?_, ?_⟩
  · rw [SupervisorState.spawn_runningSet, hsettled.shape, List.foldl_concat, hknown]
  · exact fun id task hkept => state.spawn_get _ _ _ (hsettled.kept id task hkept)

/-- The next step of the passes keeps the invariant. -/
theorem advance (h : SupervisorInv config state) {next : SupervisorState} (hidle : state.joining = none)
    (hstep : state.advance = some next) : SupervisorInv config next := by
  unfold SupervisorState.advance at hstep
  have hprogress := h.progress
  split at hstep
  · rename_i hphase
    cases hstep
    exact h.removeNext hidle hphase
  · rename_i hphase
    simp only [Progress, hphase] at hprogress
    obtain ⟨hservers, hagain, done, hperm, hrunning⟩ := hprogress
    cases hstep
    refine h.move (by simp [hphase]) ⟨hservers, [], hagain, ?_⟩
    rw [List.append_nil] at hperm
    exact hrunning.trans (foldl_remove_perm hperm)
  · rename_i hphase
    cases hstep
    exact h.restartNext hidle hphase
  · rename_i hphase
    simp only [Progress, hphase] at hprogress
    obtain ⟨rfl, done, hchanged, hrunning⟩ := hprogress
    rw [List.append_nil] at hchanged
    cases hstep
    have hkept : state.running = keptTasks state.before (desired config state.seen) := by
      rw [hrunning, hchanged, keptTasks]
    refine h.move (by simp [hphase]) ⟨rfl, [], rfl, ?_, ?_⟩
    · rw [List.foldl_nil, hkept]
    · rw [hkept]
      exact fun _ _ hget => hget
  · rename_i hphase
    cases hstep
    exact h.startNext hidle hphase
  · rename_i hphase
    simp only [Progress, hphase] at hprogress
    obtain ⟨-, done, hwanted, hsettled⟩ := hprogress
    rw [List.append_nil] at hwanted
    cases hstep
    refine h.move (by simp [hphase]) ?_
    rw [hwanted] at hsettled
    exact hsettled
  · rename_i hphase
    split at hstep
    · cases hstep
      exact h.move (by simp [hphase]) trivial
    · cases hstep
  · cases hstep

theorem start {state : SupervisorState} (hstart : (tasks config).start state) : SupervisorInv config state := by
  obtain ⟨hsent, hrunning, hjoining, hphase, hunjoined, hfired, -, hseen⟩ := hstart
  refine ⟨?_, ?_, fun hne => absurd hphase hne, ?_, ?_, ?_, ?_, ?_, ?_⟩
  · simp [hsent, serverIds]
  · simp [hseen, serverIds]
  · simp [hrunning]
  · simp [hunjoined]
  · simp [hunjoined]
  · simp [hjoining]
  · simp [hfired]
  · simp [Progress, hphase]

/-- One step of the provider, the supervisor or the end of a task. -/
theorem step (h : SupervisorInv config state) {label : SupervisorLabel} {next : SupervisorState}
    (hstep : (tasks config).step state label = some next) : SupervisorInv config next := by
  cases label with
  | sent cloud =>
    obtain ⟨⟨-, hdistinct⟩, hnext⟩ := when_eq_some.mp hstep
    rw [← hnext]
    exact h.sent hdistinct
  | closed =>
    cases hstep
    exact { h with }
  | borrowed order =>
    obtain ⟨⟨-, horder⟩, hnext⟩ := when_eq_some.mp hstep
    rw [← hnext]
    exact h.borrowed horder
  | advance =>
    simp only [tasks, taskStep, Option.ite_none_right_eq_some] at hstep
    exact h.advance hstep.1 hstep.2
  | joined =>
    obtain ⟨task, hjoining, hnext⟩ := Option.map_eq_some_iff.mp hstep
    rw [← hnext]
    exact h.joined hjoining
  | changed =>
    obtain ⟨-, hnext⟩ := when_eq_some.mp hstep
    rw [← hnext]
    exact { h with latest := fun hne => absurd rfl hne, progress := trivial }
  | providerGone =>
    obtain ⟨⟨hphase, -⟩, hnext⟩ := when_eq_some.mp hstep
    have hprogress := h.progress
    simp only [Progress, hphase] at hprogress
    rw [← hnext]
    exact h.move (by simp [hphase]) hprogress
  | cancelled =>
    obtain ⟨hphase, hnext⟩ := when_eq_some.mp hstep
    rw [← hnext]
    exact h.move (by rcases hphase with hphase | hphase <;> simp [hphase]) trivial
  | drained id =>
    simp only [tasks, taskStep, Option.ite_none_right_eq_some] at hstep
    obtain ⟨⟨hphase, hidle⟩, hdrain⟩ := hstep
    obtain ⟨task, hget, hnext⟩ := Option.map_eq_some_iff.mp hdrain
    have hprogress : Progress config { state with running := state.running.remove id, phase := state.phase } := by
      simp [Progress, hphase]
    rw [← hnext]
    exact h.take hidle hget (by simp [hphase]) h.justified hprogress

end SupervisorInv

end Preservation

section Waiting

variable {config : Config} {state : SupervisorState}

theorem Settled.runningSet_eq {before running : TaskSet} {wanted : List ServerConfig}
    (h : Settled before running wanted wanted) : runningSet running = reconcile (runningSet before) wanted := by
  rw [h.shape, keptTasks, runningSet_foldl_remove, runningSet_foldl_remove, reconcile]

/-- A task whose server is wanted as it is stays. -/
theorem get_keptTasks {before : TaskSet} {wanted : List ServerConfig} {id : String} {task : Spawned}
    (hdistinct : (serverIds wanted).Nodup) (hget : before.get id = some task)
    (hfind : wanted.find? (·.id == id) = some task.running.server) :
    (keptTasks before wanted).get id = some task := by
  obtain ⟨hmem, hid⟩ := (find?_id_eq_some hdistinct).mp hfind
  have hrunning : (runningSet before).get id = some task.running := by
    rw [get_runningSet, hget, Option.map_some]
  have hwanted : id ∉ removed (runningSet before) wanted := by
    rw [mem_removed]
    exact fun hgone => hgone.2 (List.mem_map.mpr ⟨_, hmem, hid⟩)
  have hsame : id ∉ restarted (runningSet before) wanted := by
    rw [mem_restarted]
    rintro ⟨server, hserver, hserverId, previous, hprevious, hne⟩
    rw [hrunning] at hprevious
    cases hprevious
    exact hne (eq_of_mem_of_id_eq hdistinct hmem hserver (hid.trans hserverId.symm))
  rw [keptTasks, OrderedMap.get_foldl_remove, if_neg hsame, OrderedMap.get_foldl_remove, if_neg hwanted, hget]

theorem settled_of_waiting (h : SupervisorInv config state) (hphase : state.phase = .waiting ∨ state.phase = .orphaned) :
    Settled state.before state.running (desired config state.seen) (desired config state.seen) := by
  have hprogress := h.progress
  rcases hphase with hphase | hphase <;> simpa only [Progress, hphase] using hprogress

end Waiting

/-- At every wait point of the supervisor the tasks are those of the merged set: they
run under its ids and with its configurations, and a task whose configuration did not
change is the one that ran before. At any moment at most one task of a server is not
joined, and tokens are fired only for servers that are gone or wanted differently. -/
theorem tasks_reconciled {config : Config} {dirExists : Bool} (hvalid : config.validate dirExists = .ok ())
    {state : SupervisorState} (h : (tasks config).Reachable state) :
    (state.unjoined.map (·.id)).Nodup ∧ (∀ firing ∈ state.fired, firing.Justified config) ∧
      (state.phase = .waiting ∨ state.phase = .orphaned →
        (state.unseen = false → state.seen = state.sent) ∧
        (∀ id, id ∈ state.running.keys ↔ id ∈ serverIds (merge_servers state.seen config.servers)) ∧
        (∀ id task, state.running.get id = some task →
          (merge_servers state.seen config.servers).find? (·.id == id) = some task.running.server ∧
            (config.servers.find? (·.id == id)).or (state.seen.find? (·.id == id)) = some task.running.server) ∧
        ∀ id task, state.before.get id = some task →
          (merge_servers state.seen config.servers).find? (·.id == id) = some task.running.server →
          state.running.get id = some task) := by
  have hinv : SupervisorInv config state :=
    h.invariant (SupervisorInv config) (fun _ hstart => .start hstart) fun _ _ _ hinv _ hstep => hinv.step hstep
  refine ⟨hinv.single, hinv.justified, fun hphase => ?_⟩
  have hsettled := settled_of_waiting hinv hphase
  have hreconciled := hsettled.runningSet_eq
  have hlive : state.phase ≠ .deciding := by rcases hphase with hphase | hphase <;> simp [hphase]
  have hconfig : ∀ id task, state.running.get id = some task →
      (merge_servers state.seen config.servers).find? (·.id == id) = some task.running.server := by
    intro id task hget
    apply server_of_get_reconcile
    rw [← desired, ← hreconciled, get_runningSet, hget, Option.map_some]
  refine ⟨hinv.latest hlive, fun id => ?_, fun id task hget => ⟨hconfig id task hget, ?_⟩, fun id task hget hfind => ?_⟩
  · rw [OrderedMap.mem_keys_iff]
    constructor
    · intro hsome
      obtain ⟨task, hget⟩ := Option.isSome_iff_exists.mp hsome
      exact find?_id_isSome.mp (by rw [hconfig id task hget]; rfl)
    · intro hwanted
      have hsome : ((runningSet state.running).get id).isSome := by
        rw [hreconciled]
        exact reconcile_isSome hwanted
      rwa [get_runningSet, Option.isSome_map] at hsome
  · rw [← find?_reverse (nodup_of_validate hvalid), ← find?_merge_servers]
    exact hconfig id task hget
  · exact hsettled.kept id task (get_keptTasks (nodup_desired hinv.distinctSeen) hget hfind)

/-- The supervisor when it is spawned. -/
def SupervisorState.initial : SupervisorState where
  sent := []
  unseen := false
  closed := false
  seen := []
  running := .empty
  joining := none
  phase := .deciding
  spawned := 0
  unjoined := []
  fired := []
  before := .empty

/-- A server that appears is started and is then the one that runs. -/
theorem tasks_reconciled_with_plc :
    ∃ state, (tasks gatewayOnlyConfig).Reachable state ∧ state.phase = .waiting ∧
      serverIds (merge_servers state.seen gatewayOnlyConfig.servers) = ["42"] ∧
      ∀ id, id ∈ state.running.keys ↔ id ∈ serverIds (merge_servers state.seen gatewayOnlyConfig.servers) := by
  obtain ⟨state, hrun, hphase, hids⟩ : ∃ state, (tasks gatewayOnlyConfig).exec .initial
      [.sent (converted gatewayOnlyConfig [("42", objectAt "opc.tcp://plc:4840")]), .borrowed [], .advance, .advance,
        .advance, .advance] = some state ∧ state.phase = .waiting ∧
      serverIds (merge_servers state.seen gatewayOnlyConfig.servers) = ["42"] := ⟨_, rfl, rfl, rfl⟩
  have hreach : (tasks gatewayOnlyConfig).Reachable state :=
    Machine.Reachable.exec (.start ⟨rfl, rfl, rfl, rfl, rfl, rfl, rfl, rfl⟩) hrun
  obtain ⟨-, -, hwaiting⟩ := tasks_reconciled gatewayOnlyConfig_valid hreach
  obtain ⟨-, hkeys, -⟩ := hwaiting (.inl hphase)
  exact ⟨state, hreach, hphase, hids, hkeys⟩

end gateway.supervisor
