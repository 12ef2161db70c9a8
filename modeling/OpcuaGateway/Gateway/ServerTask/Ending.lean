import OpcuaGateway.Gateway.ServerTask.Updates

open transition watch mapping.namespace_table mapping.source gateway.config opcua_conn

namespace gateway.server_task

/-- How many steps a task that is told to end may still take, if its readers' turns are
not counted. -/
def TaskPhase.distance : TaskPhase → Nat
  | .finished => 0
  | .looping | .teardown _ .finish => 1
  | .registering | .retryWait | .faultWait | .teardown _ .again => 2
  | .teardown _ .backOff => 3
  | .steady _ => 4
  | .starting _ => 5
  | .resolving _ _ => 6
  | .connected _ => 7
  | .connecting => 8

/-- A token of the task is fired. -/
def ServerTask.told (task : ServerTask) : Bool := task.stop || task.remove

/-- The steps that a task takes, other than the turns of its readers. -/
def StepLabel.isOwn : StepLabel → Bool
  | .stopCancelled | .removeCancelled | .reader _ _ => false
  | _ => true

/-- The task is the same, if later: what it serves and that it is told to end, or has
ended, stays. -/
structure LaterTask (task next : ServerTask) : Prop where
  server : next.server = task.server
  stop : task.stop = true → next.stop = true
  remove : task.remove = true → next.remove = true
  finished : task.phase = .finished → next.phase = .finished

/-- The task has ended or tears down to end. -/
def TaskPhase.isEnding : TaskPhase → Bool
  | .finished | .teardown _ .finish => true
  | _ => false

/-- A task ends only if it is told to, or if the provider of device types is gone. -/
def ServerTask.Willing (task : ServerTask) (channel : Channel (List LoadedDeviceType)) : Prop :=
  task.phase.isEnding = true → task.told = true ∨ channel.closed = true

section Step

variable {codec : TextCodec} {config : Config} {channel : Channel (List LoadedDeviceType)} {task next : ServerTask}

theorem LaterTask.refl (task : ServerTask) : LaterTask task task := ⟨rfl, id, id, id⟩

theorem LaterTask.told (h : LaterTask task next) (htold : task.told = true) : next.told = true := by
  rw [ServerTask.told, Bool.or_eq_true] at htold ⊢
  exact htold.imp h.stop h.remove

/-- A wait that ends leaves the task where fewer steps are left. -/
theorem wake_spec {branch : Wake} (hstep : task.wake channel branch = some next) :
    ∃ device_types phase, next = { task with device_types, phase } ∧ phase.distance < task.phase.distance := by
  have hfinish : task.finishWait = some next →
      ∃ device_types phase, next = { task with device_types, phase } ∧ phase.distance < task.phase.distance := by
    intro hfinish
    unfold ServerTask.finishWait at hfinish
    split at hfinish <;> cases hfinish <;> rename_i hphase <;>
      exact ⟨_, _, rfl, by simp only [hphase, TaskPhase.distance]; omega⟩
  cases branch with
  | stop => exact hfinish (Option.ite_none_right_eq_some.mp hstep).2
  | remove => exact hfinish (Option.ite_none_right_eq_some.mp hstep).2
  | changed =>
    simp only [ServerTask.wake] at hstep
    split at hstep <;> cases hstep <;> rename_i hphase _ <;>
      exact ⟨_, _, rfl, by simp only [hphase, TaskPhase.distance]; omega⟩
  | readerExit =>
    simp only [ServerTask.wake] at hstep
    split at hstep
    · rename_i hphase
      obtain ⟨-, hnext⟩ := Option.ite_none_right_eq_some.mp hstep
      cases hnext
      refine ⟨_, _, rfl, ?_⟩
      rw [hphase]
      split <;> simp only [TaskPhase.distance] <;> omega
    · cases hstep

/-- A step of the task's own moves its phase, and nearer to the end if the task is told
to end. -/
theorem own_step_spec {label : StepLabel} (hown : label.isOwn = true)
    (hstep : task.step codec config channel label = some next) :
    ∃ device_types backoff phase, next = { task with device_types, backoff, phase } ∧
      (task.told = true → phase.distance < task.phase.distance) := by
  cases label with
  | stopCancelled | removeCancelled | reader => cases hown
  | proceed =>
    simp only [ServerTask.step, ServerTask.proceed] at hstep
    split at hstep <;> cases hstep <;> rename_i hphase <;> refine ⟨_, _, _, rfl, fun htold => ?_⟩ <;> rw [hphase]
    · exact Nat.lt_succ_self 1
    · -- the loop looks at both tokens before it connects
      rw [ServerTask.told] at htold
      rw [if_pos htold]
      exact Nat.zero_lt_one
    · exact Nat.lt_succ_self 6
    · exact Nat.lt_succ_self 5
    · exact Nat.lt_succ_self 4
  | connected connection =>
    simp only [ServerTask.step] at hstep
    split at hstep <;> cases hstep
    rename_i hphase
    exact ⟨_, _, _, rfl, fun _ => by simp only [hphase, TaskPhase.distance]; omega⟩
  | connectFailed =>
    simp only [ServerTask.step] at hstep
    split at hstep <;> cases hstep
    rename_i hphase
    exact ⟨_, _, _, rfl, fun _ => by simp only [hphase, TaskPhase.distance]; omega⟩
  | slept =>
    simp only [ServerTask.step] at hstep
    split at hstep <;> cases hstep <;> rename_i hphase <;>
      exact ⟨_, _, _, rfl, fun _ => by simp only [hphase, TaskPhase.distance]; omega⟩
  | woken branch =>
    obtain ⟨device_types, phase, rfl, hless⟩ := wake_spec hstep
    exact ⟨device_types, task.backoff, phase, rfl, fun _ => hless⟩
  | tornDown =>
    simp only [ServerTask.step] at hstep
    split at hstep <;> cases hstep <;> rename_i hphase <;>
      exact ⟨_, _, _, rfl, fun _ => by simp only [hphase, TaskPhase.distance]; omega⟩

/-- A task that has ended does nothing more. -/
theorem finished_of_step {label : StepLabel} (hphase : task.phase = .finished)
    (hstep : task.step codec config channel label = some next) : next.phase = .finished := by
  cases label with
  | stopCancelled | removeCancelled =>
    cases hstep
    exact hphase
  | woken branch =>
    cases branch <;> simp [ServerTask.step, ServerTask.wake, ServerTask.finishWait, hphase] at hstep
  | proceed | connected | connectFailed | slept | reader | tornDown =>
    simp [ServerTask.step, ServerTask.proceed, hphase] at hstep

theorem laterTask_of_step {label : StepLabel} (hstep : task.step codec config channel label = some next) :
    LaterTask task next := by
  have hfinished : task.phase = .finished → next.phase = .finished := fun hphase => finished_of_step hphase hstep
  cases hown : label.isOwn with
  | true =>
    obtain ⟨device_types, backoff, phase, rfl, -⟩ := own_step_spec hown hstep
    exact ⟨rfl, id, id, hfinished⟩
  | false =>
    cases label with
    | stopCancelled =>
      cases hstep
      exact ⟨rfl, fun _ => rfl, id, id⟩
    | removeCancelled =>
      cases hstep
      exact ⟨rfl, id, fun _ => rfl, id⟩
    | reader index event =>
      simp only [ServerTask.step] at hstep
      split at hstep
      · obtain ⟨turned, -, rfl⟩ := Option.map_eq_some_iff.mp hstep
        exact ⟨rfl, id, id, hfinished⟩
      · obtain ⟨turned, -, rfl⟩ := Option.map_eq_some_iff.mp hstep
        exact ⟨rfl, id, id, hfinished⟩
      · cases hstep
    | proceed | connected | connectFailed | slept | woken | tornDown => cases hown

/-- Only a token tells the task. -/
theorem told_of_step {label : StepLabel} (hstop : label ≠ .stopCancelled) (hremove : label ≠ .removeCancelled)
    (hstep : task.step codec config channel label = some next) : next.told = task.told := by
  cases hown : label.isOwn with
  | true =>
    obtain ⟨device_types, backoff, phase, rfl, -⟩ := own_step_spec hown hstep
    rfl
  | false =>
    cases label with
    | stopCancelled => exact absurd rfl hstop
    | removeCancelled => exact absurd rfl hremove
    | reader index event =>
      simp only [ServerTask.step] at hstep
      split at hstep
      · obtain ⟨turned, -, rfl⟩ := Option.map_eq_some_iff.mp hstep
        rfl
      · obtain ⟨turned, -, rfl⟩ := Option.map_eq_some_iff.mp hstep
        rfl
      · cases hstep
    | proceed | connected | connectFailed | slept | woken | tornDown => cases hown

/-- The wait ends for a token, a change or a reader. -/
theorem willing_of_wake {branch : Wake} (hstep : task.wake channel branch = some next) : next.Willing channel := by
  have hfinish : task.told = true → task.finishWait = some next → next.told = true := by
    intro htold hfinish
    unfold ServerTask.finishWait at hfinish
    split at hfinish <;> cases hfinish <;> exact htold
  intro hending
  cases branch with
  | stop =>
    obtain ⟨hstop, hnext⟩ := Option.ite_none_right_eq_some.mp hstep
    exact .inl (hfinish (by rw [ServerTask.told, hstop, Bool.true_or]) hnext)
  | remove =>
    obtain ⟨hremove, hnext⟩ := Option.ite_none_right_eq_some.mp hstep
    exact .inl (hfinish (by rw [ServerTask.told, hremove, Bool.or_true]) hnext)
  | changed =>
    simp only [ServerTask.wake] at hstep
    split at hstep
    · cases hstep
      cases hending
    · rename_i hgone
      exact .inr (channel.closed_of_senderGone hgone)
    · cases hstep
  | readerExit =>
    simp only [ServerTask.wake] at hstep
    split at hstep
    · obtain ⟨-, hnext⟩ := Option.ite_none_right_eq_some.mp hstep
      cases hnext
      dsimp only at hending
      split at hending <;> cases hending
    · cases hstep

theorem willing_of_step {label : StepLabel} (h : task.Willing channel)
    (hstep : task.step codec config channel label = some next) : next.Willing channel := by
  cases label with
  | stopCancelled =>
    cases hstep
    exact fun _ => .inl rfl
  | removeCancelled =>
    cases hstep
    exact fun _ => .inl (by simp [ServerTask.told])
  | proceed =>
    simp only [ServerTask.step, ServerTask.proceed] at hstep
    split at hstep <;> cases hstep
    · exact fun hending => Bool.noConfusion hending
    · -- a task at the head of its loop ends only if it is told to
      intro hending
      dsimp only at hending
      split at hending
      · rename_i htold
        exact .inl htold
      · cases hending
    all_goals exact fun hending => Bool.noConfusion hending
  | connected | connectFailed | slept =>
    simp only [ServerTask.step] at hstep
    split at hstep <;> cases hstep <;> exact fun hending => Bool.noConfusion hending
  | reader index event =>
    simp only [ServerTask.step] at hstep
    split at hstep
    · obtain ⟨turned, -, rfl⟩ := Option.map_eq_some_iff.mp hstep
      exact fun hending => Bool.noConfusion hending
    · obtain ⟨turned, -, rfl⟩ := Option.map_eq_some_iff.mp hstep
      exact fun hending => Bool.noConfusion hending
    · cases hstep
  | woken branch => exact willing_of_wake hstep
  | tornDown =>
    simp only [ServerTask.step] at hstep
    split at hstep <;> cases hstep
    · rename_i hphase
      exact fun _ => h (by rw [hphase]; rfl)
    all_goals exact fun hending => Bool.noConfusion hending

variable (codec config channel) in
/-- A task that is told to end never waits for anything else. -/
theorem exists_step_of_told (htold : task.told = true) (hphase : task.phase ≠ .finished) :
    ∃ label next, label.isOwn = true ∧ task.step codec config channel label = some next := by
  have hwait : ∀ next, task.finishWait = some next →
      ∃ label next, label.isOwn = true ∧ task.step codec config channel label = some next := by
    intro next hfinish
    rw [ServerTask.told, Bool.or_eq_true] at htold
    rcases htold with hstop | hremove
    · exact ⟨.woken .stop, next, rfl, by simp [ServerTask.step, ServerTask.wake, hstop, hfinish]⟩
    · exact ⟨.woken .remove, next, rfl, by simp [ServerTask.step, ServerTask.wake, hremove, hfinish]⟩
  cases hcase : task.phase with
  | finished => exact absurd hcase hphase
  | registering | looping | connected | resolving | starting =>
    exact ⟨.proceed, _, rfl, by simp only [ServerTask.step, ServerTask.proceed, hcase]; rfl⟩
  | connecting | retryWait | faultWait | steady => exact hwait _ (by simp only [ServerTask.finishWait, hcase]; rfl)
  | teardown generation ending =>
    cases ending <;> exact ⟨.tornDown, _, rfl, by simp only [ServerTask.step, hcase]; rfl⟩

end Step

end gateway.server_task
