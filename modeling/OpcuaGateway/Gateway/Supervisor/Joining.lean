import OpcuaGateway.Gateway.ServerTask.Ending
import OpcuaGateway.Gateway.Supervisor.Fleet

open transition watch ordered_map mapping.namespace_table mapping.source gateway.config gateway.server_task

namespace gateway.supervisor

/-- Positions at which the supervisor may be joining a task. -/
def SupervisorPhase.joins : SupervisorPhase → Bool
  | .removing .. | .restarting .. | .finishing => true
  | _ => false

/-- How the supervisor's books and its tasks belong together. -/
structure FleetInv (config : Config) (state : Fleet) : Prop where
  books : SupervisorInv config state.supervision
  length : state.system.tasks.length = state.supervision.spawned
  running : ∀ id task, state.supervision.running.get id = some task → task ∈ state.supervision.unjoined
  joining : ∀ task, state.supervision.joining = some task → task ∈ state.supervision.unjoined
  joins : state.supervision.joining ≠ none → state.supervision.phase.joins = true
  told : ∀ task, state.supervision.joining = some task →
    ∃ found, state.system.tasks[task.handle]? = some found ∧ found.told = true
  servers : ∀ task ∈ state.supervision.unjoined,
    ∃ found, state.system.tasks[task.handle]? = some found ∧ found.server = task.running.server
  unfinished : ∀ handle found, state.system.tasks[handle]? = some found → found.phase ≠ .finished →
    ∃ task ∈ state.supervision.unjoined, task.handle = handle
  finishing : state.supervision.phase = .finishing ∨ state.supervision.phase = .stopped → state.cancelled = true
  emptied : state.supervision.phase = .stopped → state.supervision.running.entries = []
  stopping : state.cancelled = true → ∀ task ∈ state.system.tasks, task.stop = true

/-- The tasks are the same, if later. -/
structure LaterTasks (tasks next : List ServerTask) : Prop where
  length : next.length = tasks.length
  moved : ∀ (handle : Nat) (found : ServerTask), tasks[handle]? = some found →
    ∃ moved, next[handle]? = some moved ∧ LaterTask found moved

section Frame

variable (state : SupervisorState) (token : Token) (id : String) (known_server_ids : List String) (server : ServerConfig)
  (phase : SupervisorPhase)

@[simp] theorem fire_sent : (state.fire token id phase).sent = state.sent := by
  unfold SupervisorState.fire
  split <;> rfl

@[simp] theorem fire_unseen : (state.fire token id phase).unseen = state.unseen := by
  unfold SupervisorState.fire
  split <;> rfl

@[simp] theorem fire_closed : (state.fire token id phase).closed = state.closed := by
  unfold SupervisorState.fire
  split <;> rfl

@[simp] theorem spawn_sent : (state.spawn known_server_ids server phase).sent = state.sent := by
  unfold SupervisorState.spawn
  split <;> rfl

@[simp] theorem spawn_unseen : (state.spawn known_server_ids server phase).unseen = state.unseen := by
  unfold SupervisorState.spawn
  split <;> rfl

@[simp] theorem spawn_closed : (state.spawn known_server_ids server phase).closed = state.closed := by
  unfold SupervisorState.spawn
  split <;> rfl

@[simp] theorem spawn_joining : (state.spawn known_server_ids server phase).joining = state.joining := by
  unfold SupervisorState.spawn
  split <;> rfl

end Frame

section Tasks

variable {tasks next : List ServerTask}

theorem LaterTasks.set {handle : Nat} {found moved : ServerTask} (hfound : tasks[handle]? = some found)
    (hlater : LaterTask found moved) : LaterTasks tasks (tasks.set handle moved) := by
  refine ⟨List.length_set, fun other task htask => ?_⟩
  have hlt := (List.getElem?_eq_some_iff.mp hfound).1
  by_cases hsame : handle = other
  · subst hsame
    cases hfound.symm.trans htask
    exact ⟨moved, by simp [hlt], hlater⟩
  · exact ⟨task, by simp [List.getElem?_set_ne hsame, htask], .refl task⟩

theorem LaterTasks.stopAll (tasks : List ServerTask) :
    LaterTasks tasks (tasks.map fun task => { task with stop := true }) := by
  refine ⟨List.length_map _, fun handle found hfound => ⟨{ found with stop := true }, by simp [hfound], ?_⟩⟩
  exact ⟨rfl, fun _ => rfl, id, id⟩

/-- What a task was before it moved. -/
theorem LaterTasks.before (h : LaterTasks tasks next) {handle : Nat} {moved : ServerTask}
    (hmoved : next[handle]? = some moved) : ∃ found, tasks[handle]? = some found ∧ LaterTask found moved := by
  have hlt := (List.getElem?_eq_some_iff.mp hmoved).1
  rw [h.length] at hlt
  obtain ⟨other, hother, hlater⟩ := h.moved handle tasks[handle] (List.getElem?_eq_getElem hlt)
  cases hmoved.symm.trans hother
  exact ⟨_, List.getElem?_eq_getElem hlt, hlater⟩

end Tasks

section Invariant

variable {codec : TextCodec} {config : Config} {state next : Fleet}

/-- The tasks move while the supervisor stays where it is. -/
theorem FleetInv.later (h : FleetInv config state) {system : System}
    (hlater : LaterTasks state.system.tasks system.tasks) : FleetInv config { state with system } where
  books := h.books
  length := hlater.length.trans h.length
  running := h.running
  joining := h.joining
  joins := h.joins
  told := by
    intro task hjoining
    obtain ⟨found, hfound, htold⟩ := h.told task hjoining
    obtain ⟨moved, hmoved, hlater⟩ := hlater.moved _ _ hfound
    exact ⟨moved, hmoved, hlater.told htold⟩
  servers := by
    intro task hmem
    obtain ⟨found, hfound, hserver⟩ := h.servers task hmem
    obtain ⟨moved, hmoved, hlater⟩ := hlater.moved _ _ hfound
    exact ⟨moved, hmoved, hlater.server.trans hserver⟩
  unfinished := by
    intro handle moved hmoved hphase
    obtain ⟨found, hfound, hlater⟩ := hlater.before hmoved
    exact h.unfinished handle found hfound fun hfinished => hphase (hlater.finished hfinished)
  finishing := h.finishing
  emptied := h.emptied
  stopping := by
    intro hcancelled moved hmem
    obtain ⟨handle, hmoved⟩ := List.mem_iff_getElem?.mp hmem
    obtain ⟨found, hfound, hlater⟩ := hlater.before hmoved
    exact hlater.stop (h.stopping hcancelled found (List.mem_of_getElem? hfound))

/-- The supervisor moves without taking up or handing over a task. -/
theorem FleetInv.quiet (h : FleetInv config state) {supervision : SupervisorState}
    (hbooks : SupervisorInv config supervision) (hspawned : supervision.spawned = state.supervision.spawned)
    (hrunning : supervision.running = state.supervision.running) (hjoining : supervision.joining = state.supervision.joining)
    (hunjoined : supervision.unjoined = state.supervision.unjoined)
    (hjoins : supervision.joining ≠ none → supervision.phase.joins = true)
    (hfinishing : supervision.phase = .finishing ∨ supervision.phase = .stopped → state.cancelled = true)
    (hemptied : supervision.phase = .stopped → supervision.running.entries = []) :
    FleetInv config { state with supervision } where
  books := hbooks
  length := h.length.trans hspawned.symm
  running := by
    rw [hrunning, hunjoined]
    exact h.running
  joining := by
    rw [hjoining, hunjoined]
    exact h.joining
  joins := hjoins
  told := by
    rw [hjoining]
    exact h.told
  servers := by
    rw [hunjoined]
    exact h.servers
  unfinished := by
    rw [hunjoined]
    exact h.unfinished
  finishing := hfinishing
  emptied := hemptied
  stopping := h.stopping

/-- A task is taken up to be joined. It is told to end. -/
theorem FleetInv.take (h : FleetInv config state) {id : String} {task : Spawned} {phase : SupervisorPhase}
    {fired : List Firing} (hget : state.supervision.running.get id = some task)
    (hbooks : SupervisorInv config { state.supervision with
      running := state.supervision.running.remove id, joining := some task, phase, fired })
    (hjoins : phase.joins = true) (hfinishing : phase = .finishing → state.cancelled = true)
    (htold : ∃ found, state.system.tasks[task.handle]? = some found ∧ found.told = true) :
    FleetInv config { state with supervision := { state.supervision with
      running := state.supervision.running.remove id, joining := some task, phase, fired } } where
  books := hbooks
  length := h.length
  running := by
    intro other found hfound
    rw [OrderedMap.get_remove] at hfound
    split at hfound
    · cases hfound
    · exact h.running other found hfound
  joining := by
    intro found hfound
    cases hfound
    exact h.running id task hget
  joins := fun _ => hjoins
  told := by
    intro found hfound
    cases hfound
    exact htold
  servers := h.servers
  unfinished := h.unfinished
  finishing := by
    rintro (hphase | hphase)
    · exact hfinishing hphase
    · rw [show phase = .stopped from hphase] at hjoins
      cases hjoins
  emptied := by
    intro hphase
    rw [show phase = .stopped from hphase] at hjoins
    cases hjoins
  stopping := h.stopping

/-- A task that has returned is joined. -/
theorem FleetInv.joined (h : FleetInv config state) {task : Spawned} {found : ServerTask}
    (hjoining : state.supervision.joining = some task) (hfound : state.system.tasks[task.handle]? = some found)
    (hfinished : found.phase = .finished) :
    FleetInv config { state with supervision := { state.supervision with
      joining := none, unjoined := state.supervision.unjoined.erase task } } where
  books := h.books.joined hjoining
  length := h.length
  running := by
    intro id other hget
    have hne : other ≠ task := by
      rintro rfl
      have hnone := h.books.parted other hjoining
      rw [h.books.named id other hget, hget] at hnone
      cases hnone
    exact (List.mem_erase_of_ne hne).mpr (h.running id other hget)
  joining := by
    intro other hother
    cases hother
  joins := fun hne => absurd rfl hne
  told := by
    intro other hother
    cases hother
  servers := fun other hmem => h.servers other (List.mem_of_mem_erase hmem)
  unfinished := by
    intro handle other hother hphase
    obtain ⟨spawned, hmem, rfl⟩ := h.unfinished handle other hother hphase
    have hne : spawned ≠ task := by
      rintro rfl
      cases hfound.symm.trans hother
      exact hphase hfinished
    exact ⟨spawned, (List.mem_erase_of_ne hne).mpr hmem, rfl⟩
  finishing := h.finishing
  emptied := h.emptied
  stopping := h.stopping

/-- The task of a server is spawned under the next handle. -/
theorem FleetInv.spawn (h : FleetInv config state) {known_server_ids : List String} {server : ServerConfig}
    {phase : SupervisorPhase} {found : ServerTask} {system : System}
    (habsent : (state.supervision.running.get server.id).isSome = false)
    (hbooks : SupervisorInv config (state.supervision.spawn known_server_ids server phase))
    (hidle : state.supervision.joining = none) (hphase : phase ≠ .finishing ∧ phase ≠ .stopped)
    (hsystem : system.tasks = state.system.tasks ++ [found]) (hserver : found.server = server)
    (hstop : state.cancelled = true → found.stop = true) :
    FleetInv config { state with supervision := state.supervision.spawn known_server_ids server phase, system } := by
  have hspawn : state.supervision.spawn known_server_ids server phase = { state.supervision with
      running := state.supervision.running.insert server.id ⟨state.supervision.spawned, ⟨server, known_server_ids⟩⟩
      phase
      spawned := state.supervision.spawned + 1
      unjoined := ⟨state.supervision.spawned, ⟨server, known_server_ids⟩⟩ :: state.supervision.unjoined } := by
    rw [SupervisorState.spawn, if_neg (by simp [habsent])]
  have hat : system.tasks[state.supervision.spawned]? = some found := by
    rw [hsystem, ← h.length]
    exact List.getElem?_concat_length
  have hold : ∀ {handle : Nat} {task : ServerTask}, state.system.tasks[handle]? = some task →
      system.tasks[handle]? = some task := by
    intro handle task htask
    rw [hsystem, List.getElem?_append_left (List.getElem?_eq_some_iff.mp htask).1]
    exact htask
  rw [hspawn] at hbooks ⊢
  refine ⟨hbooks, ?_, ?_, ?_, ?_, ?_, ?_, ?_, ?_, fun hstopped => absurd hstopped hphase.2, ?_⟩
  · rw [hsystem, List.length_append, h.length]
    rfl
  · intro id task hget
    rw [OrderedMap.get_insert] at hget
    split at hget
    · cases hget
      exact List.mem_cons_self
    · exact List.mem_cons_of_mem _ (h.running id task hget)
  · exact fun task hjoining => List.mem_cons_of_mem _ (h.joining task hjoining)
  · exact fun hne => absurd hidle hne
  · intro task hjoining
    rw [hidle] at hjoining
    cases hjoining
  · intro task hmem
    rcases List.mem_cons.mp hmem with rfl | hmem
    · exact ⟨found, hat, hserver⟩
    · obtain ⟨other, hother, hserver⟩ := h.servers task hmem
      exact ⟨other, hold hother, hserver⟩
  · intro handle other hother hunfinished
    by_cases hlt : handle < state.system.tasks.length
    · rw [hsystem, List.getElem?_append_left hlt] at hother
      obtain ⟨task, hmem, hhandle⟩ := h.unfinished handle other hother hunfinished
      exact ⟨task, List.mem_cons_of_mem _ hmem, hhandle⟩
    · refine ⟨_, List.mem_cons_self, ?_⟩
      have hbound := (List.getElem?_eq_some_iff.mp hother).1
      rw [hsystem, List.length_append, List.length_singleton] at hbound
      have hspawned := h.length
      dsimp only
      omega
  · rintro (hfinishing | hstopped)
    · exact absurd hfinishing hphase.1
    · exact absurd hstopped hphase.2
  · intro hcancelled task hmem
    rw [hsystem] at hmem
    rcases List.mem_append.mp hmem with hmem | hmem
    · exact h.stopping hcancelled task hmem
    · rw [List.mem_singleton.mp hmem]
      exact hstop hcancelled

end Invariant

section Effects

variable (codec : TextCodec) (config : Config)

/-- A token reaches its task, which is told to end from then on. -/
theorem exec_token (token : Token) {before : System} {handle : Nat} {found : ServerTask}
    (hfound : before.tasks[handle]? = some found) :
    ∃ moved, (system codec config).exec before [.task handle token.label] =
        some { before with tasks := before.tasks.set handle moved } ∧
      LaterTask found moved ∧ moved.told = true := by
  cases token with
  | stop =>
    refine ⟨{ found with stop := true }, ?_, ⟨rfl, fun _ => rfl, id, id⟩, rfl⟩
    simp [Machine.exec, system, systemStep, hfound, Token.label, ServerTask.step]
  | remove =>
    refine ⟨{ found with remove := true }, ?_, ⟨rfl, id, fun _ => rfl, id⟩, by simp [ServerTask.told]⟩
    simp [Machine.exec, system, systemStep, hfound, Token.label, ServerTask.step]

/-- A task is spawned behind the others, and told to end where it is spawned during a
shutdown. -/
theorem exec_spawned (server : ServerConfig) (known_server_ids : List String) (cancelled : Bool) (before : System) :
    ∃ spawned, (system codec config).exec before (.spawned server known_server_ids ::
        (if cancelled then [.task before.tasks.length Token.stop.label] else [])) =
          some { before with tasks := before.tasks ++ [spawned] } ∧
      spawned = { ServerTask.spawn server known_server_ids before.device_types with stop := cancelled } := by
  cases cancelled with
  | false => exact ⟨_, rfl, rfl⟩
  | true =>
    refine ⟨_, ?_, rfl⟩
    simp [Machine.exec, system, systemStep, Token.label, ServerTask.step]

end Effects

section Step

variable {codec : TextCodec} {config : Config} {state next : Fleet}

/-- A token of the task under this id is fired, if there is one. -/
theorem FleetInv.fire (h : FleetInv config state) {token : Token} {id : String} {phase : SupervisorPhase}
    {moved : System} (hbooks : SupervisorInv config (state.supervision.fire token id phase))
    (hidle : state.supervision.joining = none) (hjoins : phase.joins = true) (hphase : phase ≠ .finishing)
    (hexec : (system codec config).exec state.system
      ((state.supervision.running.get id).toList.map fun task => .task task.handle token.label) = some moved) :
    FleetInv config { state with supervision := state.supervision.fire token id phase, system := moved } := by
  have hstopped : phase ≠ .stopped := by
    rintro rfl
    cases hjoins
  cases hget : state.supervision.running.get id with
  | none =>
    have hfire : state.supervision.fire token id phase = { state.supervision with phase } := by
      simp [SupervisorState.fire, hget]
    rw [hget] at hexec
    cases hexec
    rw [hfire] at hbooks ⊢
    exact h.quiet hbooks rfl rfl rfl rfl (fun hne => absurd hidle hne)
      (fun hleft => absurd hleft (not_or.mpr ⟨hphase, hstopped⟩)) fun hleft => absurd hleft hstopped
  | some task =>
    have hfire : state.supervision.fire token id phase = { state.supervision with
        running := state.supervision.running.remove id
        joining := some task
        phase
        fired := ⟨token, task, state.supervision.seen⟩ :: state.supervision.fired } := by
      simp [SupervisorState.fire, hget]
    obtain ⟨found, hfound, -⟩ := h.servers task (h.running id task hget)
    obtain ⟨ended, hended, hlater, htold⟩ := exec_token codec config token hfound
    rw [hget] at hexec
    cases hended.symm.trans hexec
    rw [hfire] at hbooks ⊢
    have hmoved : FleetInv config { state with system :=
        { state.system with tasks := state.system.tasks.set task.handle ended } } := h.later (.set hfound hlater)
    have hat : (state.system.tasks.set task.handle ended)[task.handle]? = some ended := by
      rw [List.getElem?_set_self (List.getElem?_eq_some_iff.mp hfound).1]
    exact hmoved.take hget hbooks hjoins (fun hleft => absurd hleft hphase) ⟨ended, hat, htold⟩

/-- The task of a server is spawned, unless one is running. -/
theorem FleetInv.start (h : FleetInv config state) {known_server_ids : List String} {server : ServerConfig}
    {phase : SupervisorPhase} {moved : System}
    (hbooks : SupervisorInv config (state.supervision.spawn known_server_ids server phase))
    (hidle : state.supervision.joining = none) (hphase : phase ≠ .finishing ∧ phase ≠ .stopped)
    (hexec : (system codec config).exec state.system
      (if (state.supervision.running.get server.id).isSome then []
      else .spawned server known_server_ids ::
        (if state.cancelled then [.task state.supervision.spawned Token.stop.label] else [])) = some moved) :
    FleetInv config
      { state with supervision := state.supervision.spawn known_server_ids server phase, system := moved } := by
  cases hpresent : (state.supervision.running.get server.id).isSome with
  | true =>
    have hspawn : state.supervision.spawn known_server_ids server phase = { state.supervision with phase } := by
      rw [SupervisorState.spawn, if_pos hpresent]
    rw [hpresent, if_pos rfl] at hexec
    cases hexec
    rw [hspawn] at hbooks ⊢
    exact h.quiet hbooks rfl rfl rfl rfl (fun hne => absurd hidle hne)
      (fun hleft => absurd hleft (not_or.mpr hphase)) fun hleft => absurd hleft hphase.2
  | false =>
    obtain ⟨spawned, hspawned, rfl⟩ :=
      exec_spawned codec config server known_server_ids state.cancelled state.system
    rw [hpresent, if_neg Bool.false_ne_true, ← h.length] at hexec
    cases hspawned.symm.trans hexec
    exact h.spawn hpresent hbooks hidle hphase rfl rfl id

theorem FleetInv.advance (h : FleetInv config state) {supervision : SupervisorState} {moved : System}
    (hbooks : SupervisorInv config supervision) (hidle : state.supervision.joining = none)
    (hstep : state.supervision.advance = some supervision)
    (hexec : (system codec config).exec state.system (state.supervision.effects state.cancelled) = some moved) :
    FleetInv config { state with supervision, system := moved } := by
  have hjoins : ∀ phase : SupervisorPhase, state.supervision.joining ≠ none → phase.joins = true :=
    fun phase hne => absurd hidle hne
  unfold SupervisorState.advance at hstep
  split at hstep
  · rename_i hphase
    cases hstep
    exact h.fire hbooks hidle rfl (by simp) (by simpa only [SupervisorState.effects, hphase] using hexec)
  · rename_i hphase
    simp only [SupervisorState.effects, hphase] at hexec
    cases hstep
    cases hexec
    exact h.quiet hbooks rfl rfl rfl rfl (hjoins _) (by simp) (by simp)
  · rename_i hphase
    cases hstep
    exact h.fire hbooks hidle rfl (by simp) (by simpa only [SupervisorState.effects, hphase] using hexec)
  · rename_i hphase
    simp only [SupervisorState.effects, hphase] at hexec
    cases hstep
    cases hexec
    exact h.quiet hbooks rfl rfl rfl rfl (hjoins _) (by simp) (by simp)
  · rename_i hphase
    cases hstep
    exact h.start hbooks hidle (by simp) (by simpa only [SupervisorState.effects, hphase] using hexec)
  · rename_i hphase
    simp only [SupervisorState.effects, hphase] at hexec
    cases hstep
    cases hexec
    exact h.quiet hbooks rfl rfl rfl rfl (hjoins _) (by simp) (by simp)
  · rename_i hphase
    simp only [SupervisorState.effects, hphase] at hexec
    obtain ⟨hempty, hnext⟩ := Option.ite_none_right_eq_some.mp hstep
    cases hnext
    cases hexec
    exact h.quiet hbooks rfl rfl rfl rfl (hjoins _) (fun _ => h.finishing (.inl hphase)) fun _ => hempty
  · cases hstep

theorem FleetInv.supervise (h : FleetInv config state) {label : SupervisorLabel}
    (hstep : fleetStep codec config state (.supervise label) = some next) : FleetInv config next := by
  simp only [fleetStep, Option.bind_eq_bind, Option.bind_eq_some_iff] at hstep
  obtain ⟨supervision, hmove, hrest⟩ := hstep
  have hbooks : SupervisorInv config supervision := h.books.step hmove
  have hidle : state.supervision.phase.joins = false → state.supervision.joining = none := by
    intro hphase
    by_contra hne
    rw [h.joins hne] at hphase
    cases hphase
  cases label with
  | sent cloud =>
    obtain ⟨-, rfl⟩ := when_eq_some.mp hmove
    cases hrest
    exact h.quiet hbooks rfl rfl rfl rfl h.joins h.finishing h.emptied
  | closed =>
    cases hmove
    cases hrest
    exact h.quiet hbooks rfl rfl rfl rfl h.joins h.finishing h.emptied
  | borrowed order =>
    obtain ⟨⟨hphase, -⟩, rfl⟩ := when_eq_some.mp hmove
    cases hrest
    exact h.quiet hbooks rfl rfl rfl rfl (fun _ => rfl) (by simp) (by simp)
  | advance =>
    simp only [taskStep, Option.ite_none_right_eq_some] at hmove
    obtain ⟨moved, hexec, hnext⟩ := Option.bind_eq_some_iff.mp hrest
    cases hnext
    exact h.advance hbooks hmove.1 hmove.2 hexec
  | joined =>
    obtain ⟨task, hjoining, rfl⟩ := Option.map_eq_some_iff.mp hmove
    obtain ⟨hjoinable, rfl⟩ := when_eq_some.mp hrest
    obtain ⟨found, hfound, -⟩ := h.told task hjoining
    refine h.joined hjoining hfound ?_
    rw [Fleet.joinable, hjoining, Option.bind_some, hfound] at hjoinable
    dsimp only at hjoinable
    split at hjoinable
    · assumption
    · cases hjoinable
  | changed =>
    obtain ⟨⟨hphase, -⟩, rfl⟩ := when_eq_some.mp hmove
    cases hrest
    exact h.quiet hbooks rfl rfl rfl rfl (fun hne => absurd (hidle (by rw [hphase]; rfl)) hne) (by simp) (by simp)
  | providerGone =>
    obtain ⟨⟨hphase, -⟩, rfl⟩ := when_eq_some.mp hmove
    cases hrest
    exact h.quiet hbooks rfl rfl rfl rfl (fun hne => absurd (hidle (by rw [hphase]; rfl)) hne) (by simp) (by simp)
  | cancelled =>
    obtain ⟨-, rfl⟩ := when_eq_some.mp hmove
    obtain ⟨hcancelled, rfl⟩ := when_eq_some.mp hrest
    exact h.quiet hbooks rfl rfl rfl rfl (fun _ => rfl) (fun _ => hcancelled) (by simp)
  | drained id =>
    simp only [taskStep, Option.ite_none_right_eq_some] at hmove
    obtain ⟨⟨hphase, -⟩, hdrain⟩ := hmove
    obtain ⟨task, hget, rfl⟩ := Option.map_eq_some_iff.mp hdrain
    cases hrest
    have hcancelled := h.finishing (.inl hphase)
    obtain ⟨found, hfound, -⟩ := h.servers task (h.running id task hget)
    refine h.take hget hbooks (by rw [hphase]; rfl) (fun _ => hcancelled) ⟨found, hfound, ?_⟩
    rw [ServerTask.told, h.stopping hcancelled found (List.mem_of_getElem? hfound), Bool.true_or]

/-- A task takes one of its own steps, or one of its readers does. -/
theorem task_step {handle : Nat} {label : StepLabel}
    (hstep : fleetStep codec config state (.task handle label) = some next) :
    ∃ found moved, state.system.tasks[handle]? = some found ∧ label ≠ .stopCancelled ∧ label ≠ .removeCancelled ∧
      found.step codec config state.system.channel label = some moved ∧
      { state with system := { state.system with tasks := state.system.tasks.set handle moved } } = next := by
  have hmove : label ≠ .stopCancelled ∧ label ≠ .removeCancelled ∧
      ∃ moved, systemStep codec config state.system (.task handle label) = some moved ∧
        { state with system := moved } = next := by
    cases label with
    | stopCancelled | removeCancelled => cases hstep
    | proceed | connected | connectFailed | slept | reader | woken | tornDown =>
      exact ⟨by simp, by simp, Option.map_eq_some_iff.mp hstep⟩
  obtain ⟨hstop, hremove, moved, hmove, rfl⟩ := hmove
  simp only [systemStep, Option.bind_eq_bind, Option.bind_eq_some_iff] at hmove
  obtain ⟨found, hfound, ended, hended, hmoved⟩ := hmove
  cases hmoved
  exact ⟨found, ended, hfound, hstop, hremove, hended, rfl⟩

theorem FleetInv.step (h : FleetInv config state) {label : FleetLabel}
    (hstep : fleetStep codec config state label = some next) : FleetInv config next := by
  cases label with
  | supervise label => exact h.supervise hstep
  | task handle label =>
    obtain ⟨found, moved, hfound, -, -, hmoved, rfl⟩ := task_step hstep
    exact h.later (.set hfound (laterTask_of_step hmoved))
  | sent device_types =>
    obtain ⟨moved, hmove, rfl⟩ := Option.map_eq_some_iff.mp hstep
    obtain ⟨-, hmoved⟩ := Option.ite_none_left_eq_some.mp hmove
    cases hmoved
    exact h.later ⟨rfl, fun _ found hfound => ⟨found, hfound, .refl found⟩⟩
  | senderDropped =>
    cases hstep
    exact h.later ⟨rfl, fun _ found hfound => ⟨found, hfound, .refl found⟩⟩
  | cancel =>
    cases hstep
    exact { h.later (.stopAll state.system.tasks) with
      finishing := fun _ => rfl
      stopping := by
        intro _ task hmem
        obtain ⟨found, -, rfl⟩ := List.mem_map.mp hmem
        rfl }

theorem FleetInv.initial (hstart : (fleet codec config).start state) : FleetInv config state := by
  obtain ⟨hsupervision, hspawned, ⟨-, -, htasks⟩, hcancelled⟩ := hstart
  have hbooks : SupervisorInv config state.supervision := .start hsupervision
  obtain ⟨-, hrunning, hjoining, hphase, hunjoined, -⟩ := hsupervision
  refine ⟨hbooks, ?_, ?_, ?_, ?_, ?_, ?_, ?_, ?_, ?_, ?_⟩
  · rw [htasks, hspawned]
    rfl
  all_goals simp [hrunning, hjoining, hphase, hunjoined, htasks, hcancelled]

theorem fleetInv_of_reachable (h : (fleet codec config).Reachable state) : FleetInv config state :=
  h.invariant (FleetInv config) (fun _ hstart => .initial hstart) fun _ _ _ hinv _ hstep => hinv.step hstep

end Step

end gateway.supervisor
