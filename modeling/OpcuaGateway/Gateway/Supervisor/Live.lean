import OpcuaGateway.Gateway.Supervisor.Joining

open transition watch ordered_map mapping.namespace_table mapping.source gateway.config gateway.server_task

namespace gateway.supervisor

/-- What a step does to the tasks and to the books about those that run. -/
inductive FleetMove (state next : Fleet) : Prop
  /-- Tasks go on, are taken up or joined. -/
  | onward (hcancelled : next.cancelled = state.cancelled)
      (hrunning : ∀ id task, next.supervision.running.get id = some task → state.supervision.running.get id = some task)
      (hunjoined : next.supervision.unjoined.Sublist state.supervision.unjoined)
      (htold : ∀ (handle : Nat) (found : ServerTask), state.system.tasks[handle]? = some found →
        ∃ moved, next.system.tasks[handle]? = some moved ∧ moved.told = found.told)
  /-- A token of a task is fired. It no longer runs. -/
  | fired (id : String) (task : Spawned) (moved : ServerTask) (hcancelled : next.cancelled = state.cancelled)
      (hget : state.supervision.running.get id = some task)
      (hrunning : next.supervision.running = state.supervision.running.remove id)
      (hunjoined : next.supervision.unjoined = state.supervision.unjoined)
      (htasks : next.system.tasks = state.system.tasks.set task.handle moved)
  | spawned (task : Spawned) (found : ServerTask) (hcancelled : next.cancelled = state.cancelled)
      (hrunning : next.supervision.running = state.supervision.running.insert task.id task)
      (hunjoined : next.supervision.unjoined = task :: state.supervision.unjoined)
      (hhandle : task.handle = state.system.tasks.length)
      (htasks : next.system.tasks = state.system.tasks ++ [found]) (htold : found.told = state.cancelled)
  | cancelled (hcancelled : next.cancelled = true) (hsupervision : next.supervision = state.supervision)

section Moves

variable {codec : TextCodec} {config : Config} {state next : Fleet}

theorem FleetMove.still (hcancelled : next.cancelled = state.cancelled)
    (hrunning : next.supervision.running = state.supervision.running)
    (hunjoined : next.supervision.unjoined = state.supervision.unjoined)
    (htasks : next.system.tasks = state.system.tasks) : FleetMove state next := by
  refine .onward hcancelled ?_ (by rw [hunjoined]) ?_
  · rw [hrunning]
    exact fun _ _ hget => hget
  · rw [htasks]
    exact fun _ found hfound => ⟨found, hfound, rfl⟩

theorem fleetMove_of_fire (h : FleetInv config state) {token : Token} {id : String} {phase : SupervisorPhase}
    {moved : System} (hexec : (system codec config).exec state.system
      ((state.supervision.running.get id).toList.map fun task => .task task.handle token.label) = some moved) :
    FleetMove state { state with supervision := state.supervision.fire token id phase, system := moved } := by
  cases hget : state.supervision.running.get id with
  | none =>
    rw [hget] at hexec
    cases hexec
    have hfire : state.supervision.fire token id phase = { state.supervision with phase } := by
      simp [SupervisorState.fire, hget]
    rw [hfire]
    exact .still rfl rfl rfl rfl
  | some task =>
    obtain ⟨found, hfound, -⟩ := h.servers task (h.running id task hget)
    obtain ⟨ended, hended, -⟩ := exec_token codec config token hfound
    rw [hget] at hexec
    cases hended.symm.trans hexec
    refine .fired id task ended rfl hget (state.supervision.fire_running token id phase) ?_ rfl
    simp [SupervisorState.fire, hget]

theorem fleetMove_of_start (h : FleetInv config state) {known_server_ids : List String} {server : ServerConfig}
    {phase : SupervisorPhase} {moved : System}
    (hexec : (system codec config).exec state.system
      (if (state.supervision.running.get server.id).isSome then []
      else .spawned server known_server_ids ::
        (if state.cancelled then [.task state.supervision.spawned Token.stop.label] else [])) = some moved) :
    FleetMove state
      { state with supervision := state.supervision.spawn known_server_ids server phase, system := moved } := by
  unfold SupervisorState.spawn
  split
  · rename_i hpresent
    rw [if_pos hpresent] at hexec
    cases hexec
    exact .still rfl rfl rfl rfl
  · rename_i habsent
    obtain ⟨spawned, hspawned, rfl⟩ :=
      exec_spawned codec config server known_server_ids state.cancelled state.system
    rw [if_neg habsent, ← h.length] at hexec
    cases hspawned.symm.trans hexec
    refine .spawned ⟨state.supervision.spawned, ⟨server, known_server_ids⟩⟩ _ rfl rfl rfl h.length.symm rfl ?_
    exact Bool.or_false state.cancelled

theorem fleetMove_of_advance (h : FleetInv config state) {supervision : SupervisorState} {moved : System}
    (hstep : state.supervision.advance = some supervision)
    (hexec : (system codec config).exec state.system (state.supervision.effects state.cancelled) = some moved) :
    FleetMove state { state with supervision, system := moved } := by
  unfold SupervisorState.advance at hstep
  unfold SupervisorState.effects at hexec
  split at hstep
  · rename_i hphase
    simp only [hphase] at hexec
    cases hstep
    exact fleetMove_of_fire h hexec
  · rename_i hphase
    simp only [hphase] at hexec
    cases hstep
    cases hexec
    exact .still rfl rfl rfl rfl
  · rename_i hphase
    simp only [hphase] at hexec
    cases hstep
    exact fleetMove_of_fire h hexec
  · rename_i hphase
    simp only [hphase] at hexec
    cases hstep
    cases hexec
    exact .still rfl rfl rfl rfl
  · rename_i hphase
    simp only [hphase] at hexec
    cases hstep
    exact fleetMove_of_start h hexec
  · rename_i hphase
    simp only [hphase] at hexec
    cases hstep
    cases hexec
    exact .still rfl rfl rfl rfl
  · rename_i hphase
    simp only [hphase] at hexec
    obtain ⟨-, hnext⟩ := Option.ite_none_right_eq_some.mp hstep
    cases hnext
    cases hexec
    exact .still rfl rfl rfl rfl
  · cases hstep

theorem fleetMove_of_supervise (h : FleetInv config state) {label : SupervisorLabel}
    (hstep : fleetStep codec config state (.supervise label) = some next) : FleetMove state next := by
  simp only [fleetStep, Option.bind_eq_bind, Option.bind_eq_some_iff] at hstep
  obtain ⟨supervision, hmove, hrest⟩ := hstep
  cases label with
  | sent | borrowed | changed | providerGone =>
    obtain ⟨-, rfl⟩ := when_eq_some.mp hmove
    cases hrest
    exact .still rfl rfl rfl rfl
  | closed =>
    cases hmove
    cases hrest
    exact .still rfl rfl rfl rfl
  | advance =>
    simp only [taskStep, Option.ite_none_right_eq_some] at hmove
    obtain ⟨moved, hexec, hnext⟩ := Option.bind_eq_some_iff.mp hrest
    cases hnext
    exact fleetMove_of_advance h hmove.2 hexec
  | joined =>
    obtain ⟨task, -, rfl⟩ := Option.map_eq_some_iff.mp hmove
    obtain ⟨-, rfl⟩ := when_eq_some.mp hrest
    exact .onward rfl (fun _ _ hget => hget) List.erase_sublist fun _ found hfound => ⟨found, hfound, rfl⟩
  | cancelled =>
    obtain ⟨-, rfl⟩ := when_eq_some.mp hmove
    obtain ⟨-, rfl⟩ := when_eq_some.mp hrest
    exact .still rfl rfl rfl rfl
  | drained id =>
    simp only [taskStep, Option.ite_none_right_eq_some] at hmove
    obtain ⟨-, hdrain⟩ := hmove
    obtain ⟨task, -, rfl⟩ := Option.map_eq_some_iff.mp hdrain
    cases hrest
    refine .onward rfl (fun other found hget => ?_) (List.Sublist.refl _) fun _ found hfound => ⟨found, hfound, rfl⟩
    rw [OrderedMap.get_remove] at hget
    split at hget
    · cases hget
    · exact hget

theorem fleetMove_of_step (h : FleetInv config state) {label : FleetLabel}
    (hstep : fleetStep codec config state label = some next) : FleetMove state next := by
  cases label with
  | supervise label => exact fleetMove_of_supervise h hstep
  | task handle label =>
    obtain ⟨found, moved, hfound, hstop, hremove, hmoved, rfl⟩ := task_step hstep
    refine .onward rfl (fun _ _ hget => hget) (List.Sublist.refl _) fun other task htask => ?_
    by_cases hsame : handle = other
    · subst hsame
      cases hfound.symm.trans htask
      refine ⟨moved, ?_, told_of_step hstop hremove hmoved⟩
      rw [List.getElem?_set_self (List.getElem?_eq_some_iff.mp hfound).1]
    · exact ⟨task, by rw [List.getElem?_set_ne hsame, htask], rfl⟩
  | sent device_types =>
    obtain ⟨moved, hmove, rfl⟩ := Option.map_eq_some_iff.mp hstep
    obtain ⟨-, hmoved⟩ := Option.ite_none_left_eq_some.mp hmove
    cases hmoved
    exact .still rfl rfl rfl rfl
  | senderDropped =>
    cases hstep
    exact .still rfl rfl rfl rfl
  | cancel =>
    cases hstep
    exact .cancelled rfl rfl

end Moves

section Invariant

variable {codec : TextCodec} {config : Config} {state next : Fleet}

/-- The tasks that run are not told to end before the process is. -/
structure LiveInv (config : Config) (state : Fleet) : Prop where
  fleet : FleetInv config state
  handles : (state.supervision.unjoined.map (·.handle)).Nodup
  untold : state.cancelled = false → ∀ id task, state.supervision.running.get id = some task →
    ∃ found, state.system.tasks[task.handle]? = some found ∧ found.told = false
  willing : ∀ task ∈ state.system.tasks, task.Willing state.system.channel
  closed : state.system.channel.closed = true → state.cancelled = true

/-- What the system's own steps do not undo. -/
def WillingTasks (state : System) : Prop := ∀ task ∈ state.tasks, task.Willing state.channel

theorem willing_systemStep {before after : System} {label : SystemLabel} (h : WillingTasks before)
    (hstep : (system codec config).step before label = some after) : WillingTasks after := by
  cases label with
  | sent device_types =>
    obtain ⟨-, hnext⟩ := Option.ite_none_left_eq_some.mp hstep
    cases hnext
    exact h
  | senderDropped =>
    cases hstep
    exact fun task _ _ => .inr rfl
  | spawned server known_server_ids =>
    cases hstep
    intro task hmem
    rcases List.mem_append.mp hmem with hmem | hmem
    · exact h task hmem
    · rw [List.mem_singleton.mp hmem]
      exact fun hending => Bool.noConfusion hending
  | task index label =>
    simp only [system, systemStep, Option.bind_eq_bind, Option.bind_eq_some_iff] at hstep
    obtain ⟨found, hfound, moved, hmoved, hnext⟩ := hstep
    cases hnext
    intro task hmem
    rcases List.mem_or_eq_of_mem_set hmem with hmem | rfl
    · exact h task hmem
    · exact willing_of_step (h found (List.mem_of_getElem? hfound)) hmoved

theorem channel_systemStep {before after : System} {label : SystemLabel} (hlabel : label ≠ .senderDropped)
    (hstep : (system codec config).step before label = some after) :
    after.channel.closed = before.channel.closed := by
  cases label with
  | sent device_types =>
    obtain ⟨-, hnext⟩ := Option.ite_none_left_eq_some.mp hstep
    cases hnext
    rfl
  | senderDropped => exact absurd rfl hlabel
  | spawned server known_server_ids =>
    cases hstep
    rfl
  | task index label =>
    simp only [system, systemStep, Option.bind_eq_bind, Option.bind_eq_some_iff] at hstep
    obtain ⟨found, -, moved, -, hnext⟩ := hstep
    cases hnext
    rfl

/-- What a step of the fleet does to the system, the system could have done. Only a
cancellation is from outside. -/
theorem system_of_step {label : FleetLabel} (hlabel : label ≠ .cancel)
    (hstep : fleetStep codec config state label = some next) :
    ∃ ls, (system codec config).exec state.system ls = some next.system ∧
      (label ≠ .senderDropped → ∀ l ∈ ls, l ≠ .senderDropped) := by
  have hnone : next.system = state.system → ∃ ls, (system codec config).exec state.system ls = some next.system ∧
      (label ≠ .senderDropped → ∀ l ∈ ls, l ≠ .senderDropped) := by
    intro hsame
    exact ⟨[], by rw [hsame]; rfl, fun _ l hmem => absurd hmem List.not_mem_nil⟩
  cases label with
  | supervise label =>
    simp only [fleetStep, Option.bind_eq_bind, Option.bind_eq_some_iff] at hstep
    obtain ⟨supervision, -, hrest⟩ := hstep
    cases label with
    | advance =>
      obtain ⟨moved, hexec, hnext⟩ := Option.bind_eq_some_iff.mp hrest
      cases hnext
      refine ⟨_, hexec, fun _ l hmem => ?_⟩
      rintro rfl
      unfold SupervisorState.effects at hmem
      split at hmem <;> simp at hmem
    | joined | cancelled =>
      obtain ⟨-, rfl⟩ := when_eq_some.mp hrest
      exact hnone rfl
    | sent | closed | borrowed | changed | providerGone | drained =>
      cases hrest
      exact hnone rfl
  | task handle label =>
    obtain ⟨found, moved, hfound, -, -, hmoved, rfl⟩ := task_step hstep
    refine ⟨[.task handle label], ?_, fun _ l hmem => ?_⟩
    · simp [Machine.exec, system, systemStep, hfound, hmoved]
    · rw [List.mem_singleton.mp hmem]
      simp
  | sent device_types =>
    obtain ⟨moved, hmove, rfl⟩ := Option.map_eq_some_iff.mp hstep
    refine ⟨[.sent device_types], (system codec config).exec_cons_eq_some.mpr ⟨moved, hmove, rfl⟩, fun _ l hmem => ?_⟩
    rw [List.mem_singleton.mp hmem]
    simp
  | senderDropped =>
    cases hstep
    exact ⟨[.senderDropped], rfl, fun hne => absurd rfl hne⟩
  | cancel => exact absurd rfl hlabel

/-- The books about the tasks that run, and what those are told, over one step. -/
theorem FleetMove.untold (h : LiveInv config state) (hmove : FleetMove state next) :
    (next.supervision.unjoined.map (·.handle)).Nodup ∧
      (next.cancelled = false → ∀ id task, next.supervision.running.get id = some task →
        ∃ found, next.system.tasks[task.handle]? = some found ∧ found.told = false) := by
  cases hmove with
  | onward hcancelled hrunning hunjoined htold =>
    refine ⟨h.handles.sublist (hunjoined.map _), fun hlive id task hget => ?_⟩
    obtain ⟨found, hfound, huntold⟩ := h.untold (hcancelled ▸ hlive) id task (hrunning id task hget)
    obtain ⟨moved, hmoved, hsame⟩ := htold task.handle found hfound
    exact ⟨moved, hmoved, hsame.trans huntold⟩
  | fired id task moved hcancelled hget hrunning hunjoined htasks =>
    rw [hunjoined, hrunning, htasks]
    refine ⟨h.handles, fun hlive other task' hget' => ?_⟩
    rw [OrderedMap.get_remove] at hget'
    split at hget'
    · cases hget'
    · rename_i hne
      -- the task under another id is another one, so it has another handle
      have hhandle : task.handle ≠ task'.handle := by
        intro hsame
        have htask : task = task' := List.inj_on_of_nodup_map h.handles (h.fleet.running id task hget)
          (h.fleet.running other task' hget') hsame
        apply hne
        rw [← h.fleet.books.named other task' hget', ← htask, h.fleet.books.named id task hget]
      obtain ⟨found, hfound, huntold⟩ := h.untold (hcancelled ▸ hlive) other task' hget'
      exact ⟨found, by rw [List.getElem?_set_ne hhandle, hfound], huntold⟩
  | spawned task found hcancelled hrunning hunjoined hhandle htasks htold =>
    rw [hunjoined, hrunning, htasks]
    constructor
    · rw [List.map_cons, List.nodup_cons, hhandle]
      refine ⟨fun hmem => ?_, h.handles⟩
      obtain ⟨other, hother, hsame⟩ := List.mem_map.mp hmem
      obtain ⟨served, hserved, -⟩ := h.fleet.servers other hother
      have hlt := (List.getElem?_eq_some_iff.mp hserved).1
      omega
    · intro hlive id task' hget
      rw [OrderedMap.get_insert] at hget
      split at hget
      · cases hget
        refine ⟨found, ?_, htold.trans (hcancelled ▸ hlive)⟩
        rw [hhandle, List.getElem?_concat_length]
      · obtain ⟨other, hother, huntold⟩ := h.untold (hcancelled ▸ hlive) id task' hget
        exact ⟨other, by rw [List.getElem?_append_left (List.getElem?_eq_some_iff.mp hother).1, hother], huntold⟩
  | cancelled hcancelled hsupervision =>
    rw [hsupervision]
    exact ⟨h.handles, fun hlive => absurd (hcancelled.symm.trans hlive) Bool.true_eq_false_eq_False.elim⟩

theorem LiveInv.step (h : LiveInv config state) {label : FleetLabel}
    (hlabel : label = .senderDropped → state.cancelled = true)
    (hstep : fleetStep codec config state label = some next) : LiveInv config next := by
  have hmove := fleetMove_of_step h.fleet hstep
  obtain ⟨hhandles, huntold⟩ := hmove.untold h
  have hcancelled : state.cancelled = true → next.cancelled = true := by
    intro hcancelled
    cases hmove with
    | onward hsame | fired _ _ _ hsame | spawned _ _ hsame => exact hsame.trans hcancelled
    | cancelled hcancelled => exact hcancelled
  have hfleet := h.fleet.step hstep
  by_cases hcancel : label = .cancel
  · subst hcancel
    cases hstep
    refine ⟨hfleet, hhandles, huntold, ?_, fun _ => rfl⟩
    intro task hmem _
    obtain ⟨found, -, rfl⟩ := List.mem_map.mp hmem
    exact .inl rfl
  · obtain ⟨ls, hrun, hsender⟩ := system_of_step hcancel hstep
    have hwilling : WillingTasks next.system :=
      Machine.exec_preserves WillingTasks (fun _ _ _ => willing_systemStep) h.willing hrun
    refine ⟨hfleet, hhandles, huntold, hwilling, fun hclosed => ?_⟩
    by_cases hdropped : label = .senderDropped
    · exact hcancelled (hlabel hdropped)
    · have hguard : (system codec config).Guarded (fun _ l => l ≠ .senderDropped) state.system ls :=
        Machine.guarded_of_forall fun l hmem _ => hsender hdropped l hmem
      have hsame : next.system.channel.closed = state.system.channel.closed :=
        Machine.exec_invariant (fun after : System => after.channel.closed = state.system.channel.closed)
          (fun _ _ _ hbefore hguard hmove => (channel_systemStep hguard hmove).trans hbefore) hguard rfl hrun
      exact hcancelled (h.closed (hsame.symm.trans hclosed))

theorem liveInv_initial {state : Fleet} (hstart : (fleet codec config).start state) : LiveInv config state := by
  have hfleet := FleetInv.initial hstart
  obtain ⟨⟨-, hrunning, -, -, hunjoined, -⟩, -, ⟨hchannel, -, htasks⟩, -⟩ := hstart
  refine ⟨hfleet, ?_, ?_, ?_, ?_⟩
  · rw [hunjoined]
    exact List.nodup_nil
  · rw [hrunning]
    intro _ id task hget
    cases hget
  · rw [htasks]
    exact fun task hmem => absurd hmem List.not_mem_nil
  · rw [hchannel]
    exact fun hclosed => Bool.noConfusion hclosed

end Invariant

/-- A task that has not ended is there for the server, as it is configured. -/
def Fleet.Serves (state : Fleet) (server : ServerConfig) : Prop :=
  ∃ task ∈ state.system.tasks, task.phase ≠ .finished ∧ task.server = server

section Waiting

variable {codec : TextCodec} {config : Config} {state : Fleet}

theorem joins_of_waiting (hphase : state.supervision.phase = .waiting ∨ state.supervision.phase = .orphaned) :
    state.supervision.phase.joins = false := by
  rcases hphase with hphase | hphase <;> rw [hphase] <;> rfl

/-- A server is served if and only if a task of the set runs it. -/
theorem LiveInv.serves_iff_running (h : LiveInv config state) (hcancelled : state.cancelled = false)
    (hphase : state.supervision.phase = .waiting ∨ state.supervision.phase = .orphaned) (server : ServerConfig) :
    state.Serves server ↔
      ∃ task, state.supervision.running.get server.id = some task ∧ task.running.server = server := by
  constructor
  · rintro ⟨found, hmem, hlive, rfl⟩
    obtain ⟨handle, hfound⟩ := List.mem_iff_getElem?.mp hmem
    obtain ⟨task, htask, rfl⟩ := h.fleet.unfinished handle found hfound hlive
    obtain ⟨served, hserved, hserver⟩ := h.fleet.servers task htask
    cases hserved.symm.trans hfound
    have hidle : state.supervision.joining = none := by
      by_contra hne
      have hjoins := h.fleet.joins hne
      rw [joins_of_waiting hphase] at hjoins
      cases hjoins
    have hget := (h.fleet.books.accounted task htask).resolve_right (by simp [hidle])
    rw [Spawned.id, ← hserver] at hget
    exact ⟨task, hget, hserver.symm⟩
  · rintro ⟨task, hget, rfl⟩
    obtain ⟨found, hfound, hserver⟩ := h.fleet.servers task (h.fleet.running _ task hget)
    refine ⟨found, List.mem_of_getElem? hfound, fun hfinished => ?_, hserver⟩
    obtain ⟨other, hother, huntold⟩ := h.untold hcancelled _ task hget
    cases hother.symm.trans hfound
    have hending := h.willing found (List.mem_of_getElem? hfound) (by rw [hfinished]; rfl)
    rcases hending with htold | hclosed
    · exact Bool.noConfusion (huntold.symm.trans htold)
    · exact Bool.noConfusion (hcancelled.symm.trans (h.closed hclosed))

/-- At a wait point the servers that are served are those of the merged list. -/
theorem LiveInv.serves_iff (h : LiveInv config state) (hcancelled : state.cancelled = false)
    (hphase : state.supervision.phase = .waiting ∨ state.supervision.phase = .orphaned) (server : ServerConfig) :
    state.Serves server ↔ server ∈ merge_servers state.supervision.seen config.servers := by
  have hbooks := h.fleet.books
  have hreconciled := (settled_of_waiting hbooks hphase).runningSet_eq
  have hdistinct : (serverIds (desired config state.supervision.seen)).Nodup := nodup_desired hbooks.distinctSeen
  rw [h.serves_iff_running hcancelled hphase]
  constructor
  · rintro ⟨task, hget, rfl⟩
    have hrunning : (reconcile (runningSet state.supervision.before) (desired config state.supervision.seen)).get
        task.running.server.id = some task.running := by
      rw [← hreconciled, get_runningSet, hget, Option.map_some]
    exact List.mem_of_find?_eq_some (server_of_get_reconcile hrunning)
  · intro hmem
    have hwanted : server.id ∈ serverIds (desired config state.supervision.seen) := List.mem_map_of_mem hmem
    have hsome : ((runningSet state.supervision.running).get server.id).isSome := by
      rw [hreconciled]
      exact reconcile_isSome hwanted
    rw [get_runningSet, Option.isSome_map] at hsome
    obtain ⟨task, hget⟩ := Option.isSome_iff_exists.mp hsome
    have hrunning : (reconcile (runningSet state.supervision.before) (desired config state.supervision.seen)).get
        server.id = some task.running := by
      rw [← hreconciled, get_runningSet, hget, Option.map_some]
    obtain ⟨hfound, hid⟩ := (find?_id_eq_some hdistinct).mp (server_of_get_reconcile hrunning)
    exact ⟨task, hget, eq_of_mem_of_id_eq hdistinct hfound hmem hid⟩

end Waiting

end gateway.supervisor
