import Mathlib.Data.Prod.Lex
import OpcuaGateway.Foundation.Progress
import OpcuaGateway.Gateway.Supervisor.Joining

open transition watch ordered_map mapping.namespace_table mapping.source gateway.config gateway.server_task

namespace gateway.supervisor

/-- A step of the supervisor, or of a task that is told to end. Lists of servers and of
device types come from outside, and so does what the readers of a task read. -/
def Ending (state : Fleet) : FleetLabel → Prop
  | .supervise (.sent _) | .supervise .closed => False
  | .supervise _ => True
  | .task handle label => label.isOwn = true ∧ ∃ task, state.system.tasks[handle]? = some task ∧ task.told = true
  | .sent _ | .senderDropped | .cancel => False

/-- The supervisor waits with nothing left to do, or has returned. Once the process is
cancelled it does not wait. -/
def AtRest (state : Fleet) : Prop :=
  state.supervision.phase = .stopped ∨ state.cancelled = false ∧
    (state.supervision.phase = .orphaned ∨ state.supervision.phase = .waiting ∧ state.supervision.unseen = false)

/-- How many phases are still ahead. -/
def SupervisorPhase.rank : SupervisorPhase → Nat
  | .stopped => 0
  | .finishing => 1
  | .orphaned => 2
  | .waiting => 3
  | .starting .. => 4
  | .restarting .. => 5
  | .removing .. => 6
  | .deciding => 7

/-- A list that has not been seen is worth a round of its own. -/
def SupervisorState.stage (state : SupervisorState) : Nat :=
  (if state.unseen then 8 else 0) + state.phase.rank

/-- What is still to be visited in the phase. -/
def SupervisorState.pending (state : SupervisorState) : Nat :=
  match state.phase with
  | .removing pending _ _ => pending.length
  | .restarting pending _ => pending.length
  | .starting _ pending => pending.length
  | .finishing => state.running.entries.length
  | _ => 0

/-- A task that is visited is taken up first and then joined. -/
def SupervisorState.outstanding (state : SupervisorState) : Nat :=
  2 * state.pending + (if state.joining.isSome then 1 else 0)

def SupervisorState.position (state : SupervisorState) : ℕ ×ₗ ℕ := toLex (state.stage, state.outstanding)

/-- The steps that the tasks have left if they are all told to end. -/
def Fleet.work (state : Fleet) : Nat := (state.system.tasks.map fun task => task.phase.distance).sum

def Fleet.measure (state : Fleet) : (ℕ ×ₗ ℕ) ×ₗ ℕ := toLex (state.supervision.position, state.work)

section Position

variable {config : Config} {state next : SupervisorState}

theorem position_lt_of_stage (h : next.stage < state.stage) : next.position < state.position := by
  rw [SupervisorState.position, SupervisorState.position, Prod.Lex.toLex_lt_toLex]
  exact .inl h

theorem position_lt_of_outstanding (hstage : next.stage = state.stage) (h : next.outstanding < state.outstanding) :
    next.position < state.position := by
  rw [SupervisorState.position, SupervisorState.position, Prod.Lex.toLex_lt_toLex]
  exact .inr ⟨hstage, h⟩

theorem joining_le_one (joining : Option Spawned) : (if joining.isSome then 1 else 0) ≤ 1 := by
  split <;> omega

/-- Every move of the passes takes the supervisor on. -/
theorem position_advance (hidle : state.joining = none) (hstep : state.advance = some next) :
    next.position < state.position := by
  unfold SupervisorState.advance at hstep
  split at hstep
  · rename_i id pending again desired hphase
    cases hstep
    have hle := joining_le_one (state.fire .remove id (.removing pending again desired)).joining
    refine position_lt_of_outstanding (by simp [SupervisorState.stage, hphase, SupervisorPhase.rank]) ?_
    simp only [SupervisorState.outstanding, SupervisorState.pending, SupervisorState.fire_phase, hphase, hidle,
      List.length_cons]
    simp only [Option.isSome_none, Bool.false_eq_true, if_false]
    omega
  · rename_i hphase
    cases hstep
    refine position_lt_of_stage ?_
    simp only [SupervisorState.stage, hphase, SupervisorPhase.rank]
    omega
  · rename_i id pending desired hphase
    cases hstep
    have hle := joining_le_one (state.fire .stop id (.restarting pending desired)).joining
    refine position_lt_of_outstanding (by simp [SupervisorState.stage, hphase, SupervisorPhase.rank]) ?_
    simp only [SupervisorState.outstanding, SupervisorState.pending, SupervisorState.fire_phase, hphase, hidle,
      List.length_cons]
    simp only [Option.isSome_none, Bool.false_eq_true, if_false]
    omega
  · rename_i hphase
    cases hstep
    refine position_lt_of_stage ?_
    simp only [SupervisorState.stage, hphase, SupervisorPhase.rank]
    omega
  · rename_i hphase
    cases hstep
    refine position_lt_of_outstanding (by simp [SupervisorState.stage, hphase, SupervisorPhase.rank]) ?_
    simp only [SupervisorState.outstanding, SupervisorState.pending, SupervisorState.spawn_phase, spawn_joining, hphase,
      List.length_cons]
    omega
  · rename_i hphase
    cases hstep
    refine position_lt_of_stage ?_
    simp only [SupervisorState.stage, hphase, SupervisorPhase.rank]
    omega
  · rename_i hphase
    obtain ⟨-, hnext⟩ := Option.ite_none_right_eq_some.mp hstep
    cases hnext
    refine position_lt_of_stage ?_
    simp only [SupervisorState.stage, hphase, SupervisorPhase.rank]
    omega
  · cases hstep

/-- So does every other step of its own. -/
theorem position_step {label : SupervisorLabel} (hsent : ∀ cloud, label ≠ .sent cloud) (hclosed : label ≠ .closed)
    (hstep : taskStep config state label = some next) : next.position < state.position := by
  cases label with
  | sent cloud => exact absurd rfl (hsent cloud)
  | closed => exact absurd rfl hclosed
  | borrowed order =>
    obtain ⟨⟨hphase, -⟩, rfl⟩ := when_eq_some.mp hstep
    refine position_lt_of_stage ?_
    simp only [SupervisorState.stage, hphase, SupervisorPhase.rank, Bool.false_eq_true, if_false]
    omega
  | advance =>
    simp only [taskStep, Option.ite_none_right_eq_some] at hstep
    exact position_advance hstep.1 hstep.2
  | joined =>
    obtain ⟨task, hjoining, rfl⟩ := Option.map_eq_some_iff.mp hstep
    refine position_lt_of_outstanding rfl ?_
    simp only [SupervisorState.outstanding, SupervisorState.pending, hjoining]
    simp
  | changed =>
    obtain ⟨⟨hphase, hunseen⟩, rfl⟩ := when_eq_some.mp hstep
    refine position_lt_of_stage ?_
    simp [SupervisorState.stage, hphase, hunseen, SupervisorPhase.rank]
  | providerGone =>
    obtain ⟨⟨hphase, -⟩, rfl⟩ := when_eq_some.mp hstep
    refine position_lt_of_stage ?_
    simp [SupervisorState.stage, hphase, SupervisorPhase.rank]
  | cancelled =>
    obtain ⟨hphase, rfl⟩ := when_eq_some.mp hstep
    refine position_lt_of_stage ?_
    rcases hphase with hphase | hphase <;> simp [SupervisorState.stage, hphase, SupervisorPhase.rank]
  | drained id =>
    simp only [taskStep, Option.ite_none_right_eq_some] at hstep
    obtain ⟨⟨hphase, hidle⟩, hdrain⟩ := hstep
    obtain ⟨task, hget, rfl⟩ := Option.map_eq_some_iff.mp hdrain
    have hless := OrderedMap.length_remove_lt hget
    refine position_lt_of_outstanding rfl ?_
    simp only [SupervisorState.outstanding, SupervisorState.pending, hphase, hidle]
    simp only [Option.isSome_some, Option.isSome_none, Bool.false_eq_true, if_false, if_true]
    omega

end Position

section Settling

variable {codec : TextCodec} {config : Config} {state next : Fleet}

theorem supervision_of_step {label : SupervisorLabel}
    (hstep : fleetStep codec config state (.supervise label) = some next) :
    taskStep config state.supervision label = some next.supervision := by
  simp only [fleetStep, Option.bind_eq_bind, Option.bind_eq_some_iff] at hstep
  obtain ⟨supervision, hmove, hrest⟩ := hstep
  cases label with
  | advance =>
    obtain ⟨moved, -, hnext⟩ := Option.bind_eq_some_iff.mp hrest
    cases hnext
    exact hmove
  | joined | cancelled =>
    obtain ⟨-, rfl⟩ := when_eq_some.mp hrest
    exact hmove
  | sent | closed | borrowed | changed | providerGone | drained =>
    cases hrest
    exact hmove

/-- Every step towards the end leaves less of the way. -/
theorem measure_step {label : FleetLabel} (hending : Ending state label)
    (hstep : fleetStep codec config state label = some next) : next.measure < state.measure := by
  rw [Fleet.measure, Fleet.measure, Prod.Lex.toLex_lt_toLex]
  cases label with
  | supervise label =>
    left
    apply position_step _ _ (supervision_of_step hstep)
    · rintro cloud rfl
      exact hending
    · rintro rfl
      exact hending
  | task handle label =>
    right
    obtain ⟨hown, task, htask, htold⟩ := hending
    obtain ⟨found, ended, hfound, -, -, hended, rfl⟩ := task_step hstep
    cases htask.symm.trans hfound
    obtain ⟨device_types, backoff, phase, rfl, hless⟩ := own_step_spec hown hended
    have hwork := sum_map_set_lt (y := { task with device_types, backoff, phase })
      (fun task : ServerTask => task.phase.distance) hfound (hless htold)
    exact ⟨rfl, hwork⟩
  | sent | senderDropped | cancel => exact hending.elim

variable (codec) in
/-- What the supervisor is about to do to the tasks can be done. -/
theorem exists_effects (h : FleetInv config state) :
    ∃ moved, (system codec config).exec state.system (state.supervision.effects state.cancelled) = some moved := by
  have hfire : ∀ (token : Token) (id : String), ∃ moved, (system codec config).exec state.system
      ((state.supervision.running.get id).toList.map fun task => .task task.handle token.label) = some moved := by
    intro token id
    cases hget : state.supervision.running.get id with
    | none => exact ⟨state.system, rfl⟩
    | some task =>
      obtain ⟨found, hfound, -⟩ := h.servers task (h.running id task hget)
      obtain ⟨ended, hended, -⟩ := exec_token codec config token hfound
      exact ⟨_, hended⟩
  unfold SupervisorState.effects
  split
  · exact hfire .remove _
  · exact hfire .stop _
  · split
    · exact ⟨state.system, rfl⟩
    · obtain ⟨spawned, hspawned, -⟩ := exec_spawned codec config _ _ state.cancelled state.system
      rw [← h.length]
      exact ⟨_, hspawned⟩
  · exact ⟨state.system, rfl⟩

/-- A task that is being joined is on its way to the end. -/
theorem exists_ending_of_joining (h : FleetInv config state) {task : Spawned}
    (hjoining : state.supervision.joining = some task) :
    ∃ label next, Ending state label ∧ fleetStep codec config state label = some next := by
  obtain ⟨found, hfound, htold⟩ := h.told task hjoining
  by_cases hphase : found.phase = .finished
  · have hjoinable : state.joinable = true := by
      rw [Fleet.joinable, hjoining, Option.bind_some, hfound]
      simp only [hphase]
    have hstep : (fleetStep codec config state (.supervise .joined)).isSome = true := by
      simp [fleetStep, taskStep, hjoining, when, hjoinable]
    obtain ⟨next, hnext⟩ := Option.isSome_iff_exists.mp hstep
    exact ⟨.supervise .joined, next, trivial, hnext⟩
  · obtain ⟨label, ended, hown, hended⟩ := exists_step_of_told codec config state.system.channel htold hphase
    have hstep : (fleetStep codec config state (.task task.handle label)).isSome = true := by
      cases label with
      | stopCancelled | removeCancelled | reader => cases hown
      | proceed | connected | connectFailed | slept | woken | tornDown =>
        simp [fleetStep, systemStep, hfound, hended]
    obtain ⟨next, hnext⟩ := Option.isSome_iff_exists.mp hstep
    exact ⟨.task task.handle label, next, ⟨hown, found, hfound, htold⟩, hnext⟩

/-- Until the fleet is at rest, it is never stuck. -/
theorem exists_ending (h : FleetInv config state) (hrest : ¬ AtRest state) :
    ∃ label next, Ending state label ∧ fleetStep codec config state label = some next := by
  cases hidle : state.supervision.joining with
  | some task => exact exists_ending_of_joining h hidle
  | none =>
    have hgo : ∀ label, Ending state (.supervise label) →
        (fleetStep codec config state (.supervise label)).isSome = true →
        ∃ label next, Ending state label ∧ fleetStep codec config state label = some next := by
      intro label hending hstep
      obtain ⟨next, hnext⟩ := Option.isSome_iff_exists.mp hstep
      exact ⟨.supervise label, next, hending, hnext⟩
    have hadvance : ∀ supervision, state.supervision.advance = some supervision →
        ∃ label next, Ending state label ∧ fleetStep codec config state label = some next := by
      intro supervision hadvance
      obtain ⟨moved, hmoved⟩ := exists_effects codec h
      exact hgo .advance trivial (by simp [fleetStep, taskStep, hidle, hadvance, hmoved])
    have hcancel : state.supervision.phase = .waiting ∨ state.supervision.phase = .orphaned → state.cancelled = true →
        ∃ label next, Ending state label ∧ fleetStep codec config state label = some next := by
      intro hphase hcancelled
      exact hgo .cancelled trivial (by simp [fleetStep, taskStep, when, hphase, hcancelled])
    cases hphase : state.supervision.phase with
    | deciding =>
      let order := removed (runningSet state.supervision.running) (desired config state.supervision.sent)
      exact hgo (.borrowed order) trivial (by simp [fleetStep, taskStep, when, hphase, order])
    | removing pending again desired =>
      cases pending <;> exact hadvance _ (by simp only [SupervisorState.advance, hphase]; rfl)
    | restarting pending desired =>
      cases pending <;> exact hadvance _ (by simp only [SupervisorState.advance, hphase]; rfl)
    | starting known_server_ids pending =>
      cases pending <;> exact hadvance _ (by simp only [SupervisorState.advance, hphase]; rfl)
    | waiting =>
      cases hcancelled : state.cancelled with
      | true => exact hcancel (.inl hphase) hcancelled
      | false =>
        have hunseen : state.supervision.unseen = true := by
          by_contra hseen
          exact hrest (.inr ⟨hcancelled, .inr ⟨hphase, Bool.eq_false_of_not_eq_true hseen⟩⟩)
        exact hgo .changed trivial (by simp [fleetStep, taskStep, when, hphase, hunseen])
    | orphaned =>
      cases hcancelled : state.cancelled with
      | true => exact hcancel (.inr hphase) hcancelled
      | false => exact absurd (.inr ⟨hcancelled, .inl hphase⟩) hrest
    | finishing =>
      by_cases hempty : state.supervision.running.entries = []
      · exact hadvance _ (by simp only [SupervisorState.advance, hphase, if_pos hempty]; rfl)
      · obtain ⟨entry, hentry⟩ := List.exists_mem_of_ne_nil _ hempty
        have hget : state.supervision.running.get entry.1 = some entry.2 := (OrderedMap.get_eq_some_iff_mem _).mpr hentry
        exact hgo (.drained entry.1) trivial (by simp [fleetStep, taskStep, hphase, hidle, hget])
    | stopped => exact absurd (.inl hphase) hrest

/-- A supervisor that has returned has joined every task. -/
theorem all_finished_of_stopped (h : FleetInv config state) (hphase : state.supervision.phase = .stopped) :
    ∀ task ∈ state.system.tasks, task.phase = .finished := by
  intro found hmem
  obtain ⟨handle, hfound⟩ := List.mem_iff_getElem?.mp hmem
  by_contra hunfinished
  obtain ⟨task, htask, -⟩ := h.unfinished handle found hfound hunfinished
  have hidle : state.supervision.joining = none := by
    by_contra hne
    have hjoins := h.joins hne
    rw [hphase] at hjoins
    cases hjoins
  have hget := (h.books.accounted task htask).resolve_right (by simp [hidle])
  have hentry := (OrderedMap.get_eq_some_iff_mem _).mp hget
  rw [h.emptied hphase] at hentry
  cases hentry

/-- Two tasks that have not ended serve two servers. -/
theorem eq_of_unfinished (h : FleetInv config state) {i j : Nat} {found other : ServerTask}
    (hfound : state.system.tasks[i]? = some found) (hother : state.system.tasks[j]? = some other)
    (hlive : found.phase ≠ .finished) (hlive' : other.phase ≠ .finished) (hid : found.server.id = other.server.id) :
    i = j := by
  obtain ⟨task, htask, rfl⟩ := h.unfinished i found hfound hlive
  obtain ⟨task', htask', rfl⟩ := h.unfinished j other hother hlive'
  obtain ⟨served, hserved, hserver⟩ := h.servers task htask
  obtain ⟨served', hserved', hserver'⟩ := h.servers task' htask'
  cases hserved.symm.trans hfound
  cases hserved'.symm.trans hother
  have hsame : task.id = task'.id := by
    rw [Spawned.id, Spawned.id, ← hserver, ← hserver', hid]
  rw [List.inj_on_of_nodup_map h.books.single htask htask' hsame]

end Settling

/-- However its own steps and those of the tasks that are told to end are ordered, the
supervisor comes to rest, and once the process is cancelled it returns. It returns only
after every task it has spawned, and at no time do two tasks of one server run. Calls to
the broker and to the OPC UA server are taken to return. -/
theorem fleet_settles (codec : TextCodec) (config : Config) {state : Fleet} (h : (fleet codec config).Reachable state) :
    (fleet codec config).Inevitable Ending AtRest state ∧
      (state.supervision.phase = .stopped → ∀ task ∈ state.system.tasks, task.phase = .finished) ∧
      ∀ (i j : Nat) (found other : ServerTask), state.system.tasks[i]? = some found → state.system.tasks[j]? = some other →
        found.phase ≠ .finished → other.phase ≠ .finished → found.server.id = other.server.id → i = j := by
  have hinv := fleetInv_of_reachable h
  refine ⟨?_, all_finished_of_stopped hinv, ?_⟩
  · apply Machine.inevitable_of_measure wellFounded_lt Fleet.measure (FleetInv config)
    · intro before label after hbefore hending hstep
      exact ⟨hbefore.step hstep, measure_step hending hstep⟩
    · exact fun before hbefore hrest => exists_ending hbefore hrest
    · exact hinv
  · intro i j found other hfound hother
    exact eq_of_unfinished hinv hfound hother

/-- A process that is cancelled while the task of a server connects, shuts down. -/
theorem fleet_settles_with_plc :
    ∃ state, (fleet plainCodec gatewayOnlyConfig).Reachable state ∧ state.cancelled = true ∧
      state.supervision.phase = .waiting ∧ state.system.tasks.map (·.server.id) = ["42"] ∧
      (fleet plainCodec gatewayOnlyConfig).Inevitable Ending AtRest state := by
  obtain ⟨state, hrun, hcancelled, hphase, hids⟩ : ∃ state, (fleet plainCodec gatewayOnlyConfig).exec
      ⟨.initial, ⟨⟨[], [], false⟩, ⟨0⟩, []⟩, false⟩
      [.supervise (.sent (converted gatewayOnlyConfig [("42", objectAt "opc.tcp://plc:4840")])),
        .supervise (.borrowed []), .supervise .advance, .supervise .advance, .supervise .advance, .supervise .advance,
        .task 0 .proceed, .task 0 .proceed, .cancel] = some state ∧ state.cancelled = true ∧
      state.supervision.phase = .waiting ∧ state.system.tasks.map (·.server.id) = ["42"] := ⟨_, rfl, rfl, rfl, rfl⟩
  have hreach : (fleet plainCodec gatewayOnlyConfig).Reachable state :=
    Machine.Reachable.exec (.start ⟨⟨rfl, rfl, rfl, rfl, rfl, rfl, rfl, rfl⟩, rfl, ⟨rfl, rfl, rfl⟩, rfl⟩) hrun
  obtain ⟨hinevitable, -, -⟩ := fleet_settles plainCodec gatewayOnlyConfig hreach
  exact ⟨state, hreach, hcancelled, hphase, hids, hinevitable⟩

end gateway.supervisor
