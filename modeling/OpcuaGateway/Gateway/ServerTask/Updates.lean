import OpcuaGateway.Foundation.Watch
import OpcuaGateway.Gateway.ServerTask.Served

open transition watch mapping.namespace_table mapping.source gateway.config opcua_conn

namespace gateway.server_task

/-- Where a task stands, with the steps between a connection and the steady wait. -/
inductive TaskPhase where
  /-- Registering the server's device. -/
  | registering
  | looping
  | connecting
  | retryWait
  /-- Connected, and about to read the device types. -/
  | connected (connection : Connection)
  | resolving (connection : Connection) (current : List LoadedDeviceType)
  /-- Registering the devices and starting the readers. -/
  | starting (generation : Generation)
  | steady (generation : Generation)
  | teardown (generation : Generation) (next : Next)
  | faultWait
  | finished

/-- The device types that a task resolves or has resolved for its session. -/
def TaskPhase.held : TaskPhase → Option (List LoadedDeviceType)
  | .resolving _ current => some current
  | .starting generation | .steady generation => some generation.resolvedFrom
  | _ => none

/-- The generation whose devices are registered, read from or torn down. -/
def TaskPhase.generation : TaskPhase → Option Generation
  | .starting generation | .steady generation | .teardown generation _ => some generation
  | _ => none

structure ServerTask where
  server : ServerConfig
  known_server_ids : List String
  stop : Bool
  remove : Bool
  device_types : Receiver
  backoff : Nat
  phase : TaskPhase

def ServerTask.spawn (server : ServerConfig) (known_server_ids : List String) (device_types : Receiver) : ServerTask where
  server := server
  known_server_ids := known_server_ids
  stop := false
  remove := false
  device_types := device_types
  backoff := 1
  phase := .registering

inductive StepLabel where
  | stopCancelled
  | removeCancelled
  | proceed
  | connected (connection : Connection)
  | connectFailed
  | slept
  | reader (index : Nat) (event : ReaderEvent)
  | woken (wake : Wake)
  | tornDown

section Step

variable (codec : TextCodec) (config : Config) (channel : Channel (List LoadedDeviceType))

/-- A turn of one of the readers. Their token is a child of the task's. -/
def Generation.turn (generation : Generation) (stop : Bool) (index : Nat) (event : ReaderEvent) : Option Generation := do
  let reader ← generation.readers[index]?
  if !reader.running || (event == .cancelled && !stop) then none
  else
    let next ← reader.turn event
    some { generation with readers := generation.readers.set index next }

namespace ServerTask

/-- The next step of the task's own, where it waits for nothing. -/
def proceed (task : ServerTask) : Option ServerTask :=
  match task.phase with
  | .registering => some { task with phase := .looping }
  | .looping => some { task with phase := if task.stop || task.remove then .finished else .connecting }
  | .connected connection =>
    some { task with
      device_types := channel.borrow_and_update task.device_types
      phase := .resolving connection channel.value }
  | .resolving connection current =>
    some { task with phase := .starting (newGeneration codec config task.server task.known_server_ids connection current) }
  | .starting generation => some { task with phase := .steady generation }
  | _ => none

/-- The end of a wait when the task is stopped or its server is gone. -/
def finishWait (task : ServerTask) : Option ServerTask :=
  match task.phase with
  | .connecting | .retryWait | .faultWait => some { task with phase := .finished }
  | .steady generation => some { task with phase := .teardown generation .finish }
  | _ => none

def wake (task : ServerTask) : Wake → Option ServerTask
  | .stop => if task.stop then task.finishWait else none
  | .remove => if task.remove then task.finishWait else none
  | .changed =>
    match task.phase, channel.changed task.device_types with
    | .steady generation, some .changed =>
      some { task with
        device_types := channel.borrow_and_update task.device_types
        phase := .teardown generation .again }
    | .steady generation, some .senderGone => some { task with phase := .teardown generation .finish }
    | _, _ => none
  | .readerExit =>
    match task.phase with
    | .steady generation =>
      if generation.readers.any (!·.running) then
        some { task with phase := .teardown generation (if task.stop then .again else .backOff) }
      else none
    | _ => none

def step (task : ServerTask) : StepLabel → Option ServerTask
  | .stopCancelled => some { task with stop := true }
  | .removeCancelled => some { task with remove := true }
  | .proceed => task.proceed codec config channel
  | .connected connection =>
    match task.phase with
    | .connecting => some { task with backoff := 1, phase := .connected connection }
    | _ => none
  | .connectFailed =>
    match task.phase with
    | .connecting => some { task with phase := .retryWait }
    | _ => none
  | .slept =>
    match task.phase with
    | .retryWait | .faultWait =>
      some { task with backoff := min (task.backoff * 2) config.max_backoff, phase := .looping }
    | _ => none
  | .reader index event =>
    match task.phase with
    | .starting generation =>
      (generation.turn task.stop index event).map fun next => { task with phase := .starting next }
    | .steady generation =>
      (generation.turn task.stop index event).map fun next => { task with phase := .steady next }
    | _ => none
  | .woken branch => task.wake channel branch
  | .tornDown =>
    match task.phase with
    | .teardown _ .finish => some { task with phase := .finished }
    | .teardown _ .again => some { task with phase := .looping }
    | .teardown _ .backOff => some { task with phase := .faultWait }
    | _ => none

end ServerTask

end Step

/-- The device type channel and the tasks that read from it. -/
structure System where
  channel : Channel (List LoadedDeviceType)
  /-- The supervisor's receiver, of which every task gets a clone. -/
  device_types : Receiver
  tasks : List ServerTask

inductive SystemLabel where
  | sent (device_types : List LoadedDeviceType)
  | senderDropped
  | spawned (server : ServerConfig) (known_server_ids : List String)
  | task (index : Nat) (label : StepLabel)

section System

variable (codec : TextCodec) (config : Config)

def systemStep (state : System) : SystemLabel → Option System
  | .sent device_types =>
    if state.channel.closed then none else some { state with channel := state.channel.send device_types }
  | .senderDropped => some { state with channel := state.channel.close }
  | .spawned server known_server_ids =>
    some { state with tasks := state.tasks ++ [.spawn server known_server_ids state.device_types] }
  | .task index label => do
    let task ← state.tasks[index]?
    let next ← task.step codec config state.channel label
    some { state with tasks := state.tasks.set index next }

def system : Machine System SystemLabel where
  start state := state.channel = ⟨[], [], false⟩ ∧ state.device_types = ⟨0⟩ ∧ state.tasks = []
  step := systemStep codec config

end System

section Moves

variable (codec : TextCodec) (config : Config) (channel : Channel (List LoadedDeviceType))

/-- A task is spawned for one server, with the servers known at that moment. -/
def SpawnedFor (task next : ServerTask) : Prop :=
  next.server = task.server ∧ next.known_server_ids = task.known_server_ids

/-- What a step does to the receiver and the phase of a task. Tokens, the backoff and the
readers' turns are not told apart. -/
inductive TaskMove (task next : ServerTask) : Prop
  | stay (hserver : SpawnedFor task next) (hreceiver : next.device_types = task.device_types)
      (hphase : next.phase = task.phase)
  /-- There is neither a generation nor a set to resolve behind the step. -/
  | idle (hserver : SpawnedFor task next) (hreceiver : next.device_types = task.device_types)
      (hheld : next.phase.held = none) (hgeneration : next.phase.generation = none)
  | read {connection : Connection} (hserver : SpawnedFor task next)
      (hreceiver : next.device_types = ⟨channel.version⟩) (hphase : next.phase = .resolving connection channel.value)
  | resolve {connection : Connection} {current : List LoadedDeviceType} (hserver : SpawnedFor task next)
      (hreceiver : next.device_types = task.device_types) (hbefore : task.phase = .resolving connection current)
      (hphase : next.phase = .starting (newGeneration codec config task.server task.known_server_ids connection current))
  | serve {generation moved : Generation} (hserver : SpawnedFor task next)
      (hreceiver : next.device_types = task.device_types)
      (hbefore : task.phase = .starting generation ∨ task.phase = .steady generation)
      (hphase : next.phase = .starting moved ∨ next.phase = .steady moved)
      (hsame : ∃ readers, moved = { generation with readers } ∧
        readers.map (·.task) = generation.readers.map (·.task))
  | leave {generation : Generation} {ending : Next} (hserver : SpawnedFor task next)
      (hreceiver : next.device_types = task.device_types ∨ next.device_types = ⟨channel.version⟩)
      (hbefore : task.phase = .steady generation) (hphase : next.phase = .teardown generation ending)

variable {codec config channel} {task next : ServerTask}

/-- A turn of a reader changes nothing of a generation but how its readers stand. -/
theorem turn_frame {generation turned : Generation} {stop : Bool} {index : Nat} {event : ReaderEvent}
    (h : generation.turn stop index event = some turned) :
    ∃ readers, turned = { generation with readers } ∧ readers.map (·.task) = generation.readers.map (·.task) := by
  simp only [Generation.turn, Option.bind_eq_bind, Option.bind_eq_some_iff, Option.ite_none_left_eq_some] at h
  obtain ⟨reader, hreader, -, stepped, hstepped, hturned⟩ := h
  cases hturned
  exact ⟨_, rfl, map_set_of_eq hreader (turn_task hstepped)⟩

theorem taskMove_of_proceed (hstep : task.proceed codec config channel = some next) :
    TaskMove codec config channel task next := by
  unfold ServerTask.proceed at hstep
  split at hstep
  · cases hstep
    exact .idle ⟨rfl, rfl⟩ rfl rfl rfl
  · cases hstep
    refine .idle ⟨rfl, rfl⟩ rfl ?_ ?_
    · dsimp only
      split <;> rfl
    · dsimp only
      split <;> rfl
  · cases hstep
    exact .read ⟨rfl, rfl⟩ rfl rfl
  · rename_i hphase
    cases hstep
    exact .resolve ⟨rfl, rfl⟩ rfl hphase rfl
  · rename_i hphase
    cases hstep
    exact .serve ⟨rfl, rfl⟩ rfl (Or.inl hphase) (Or.inr rfl) ⟨_, rfl, rfl⟩
  · cases hstep

theorem taskMove_of_finishWait (hstep : task.finishWait = some next) : TaskMove codec config channel task next := by
  unfold ServerTask.finishWait at hstep
  split at hstep
  · cases hstep
    exact .idle ⟨rfl, rfl⟩ rfl rfl rfl
  · cases hstep
    exact .idle ⟨rfl, rfl⟩ rfl rfl rfl
  · cases hstep
    exact .idle ⟨rfl, rfl⟩ rfl rfl rfl
  · rename_i hphase
    cases hstep
    exact .leave ⟨rfl, rfl⟩ (Or.inl rfl) hphase rfl
  · cases hstep

/-- Every wait that ends for a change or a fault ends in a teardown. -/
theorem taskMove_of_wake {branch : Wake} (hstep : task.wake channel branch = some next) :
    TaskMove codec config channel task next := by
  cases branch with
  | stop =>
    obtain ⟨-, hfinish⟩ := Option.ite_none_right_eq_some.mp hstep
    exact taskMove_of_finishWait hfinish
  | remove =>
    obtain ⟨-, hfinish⟩ := Option.ite_none_right_eq_some.mp hstep
    exact taskMove_of_finishWait hfinish
  | changed =>
    simp only [ServerTask.wake] at hstep
    split at hstep
    · rename_i hphase _
      cases hstep
      exact .leave ⟨rfl, rfl⟩ (Or.inr rfl) hphase rfl
    · rename_i hphase _
      cases hstep
      exact .leave ⟨rfl, rfl⟩ (Or.inl rfl) hphase rfl
    · cases hstep
  | readerExit =>
    simp only [ServerTask.wake] at hstep
    split at hstep
    · rename_i hphase
      obtain ⟨-, hnext⟩ := Option.ite_none_right_eq_some.mp hstep
      cases hnext
      exact .leave ⟨rfl, rfl⟩ (Or.inl rfl) hphase rfl
    · cases hstep

theorem taskMove_of_step {label : StepLabel} (hstep : task.step codec config channel label = some next) :
    TaskMove codec config channel task next := by
  cases label with
  | stopCancelled =>
    cases hstep
    exact .stay ⟨rfl, rfl⟩ rfl rfl
  | removeCancelled =>
    cases hstep
    exact .stay ⟨rfl, rfl⟩ rfl rfl
  | proceed => exact taskMove_of_proceed hstep
  | woken branch => exact taskMove_of_wake hstep
  | reader index event =>
    simp only [ServerTask.step] at hstep
    split at hstep
    · rename_i hphase
      obtain ⟨turned, hturn, hnext⟩ := Option.map_eq_some_iff.mp hstep
      have hsame := turn_frame hturn
      cases hnext
      exact .serve ⟨rfl, rfl⟩ rfl (Or.inl hphase) (Or.inl rfl) hsame
    · rename_i hphase
      obtain ⟨turned, hturn, hnext⟩ := Option.map_eq_some_iff.mp hstep
      have hsame := turn_frame hturn
      cases hnext
      exact .serve ⟨rfl, rfl⟩ rfl (Or.inr hphase) (Or.inr rfl) hsame
    · cases hstep
  | connected connection =>
    simp only [ServerTask.step] at hstep
    split at hstep <;> cases hstep
    exact .idle ⟨rfl, rfl⟩ rfl rfl rfl
  | connectFailed =>
    simp only [ServerTask.step] at hstep
    split at hstep <;> cases hstep
    exact .idle ⟨rfl, rfl⟩ rfl rfl rfl
  | slept =>
    simp only [ServerTask.step] at hstep
    split at hstep <;> cases hstep <;> exact .idle ⟨rfl, rfl⟩ rfl rfl rfl
  | tornDown =>
    simp only [ServerTask.step] at hstep
    split at hstep <;> cases hstep <;> exact .idle ⟨rfl, rfl⟩ rfl rfl rfl

end Moves

/-- What a task holds is the set at the version that it has seen. -/
structure Held (channel : Channel (List LoadedDeviceType)) (task : ServerTask) : Prop where
  seen : task.device_types.seen ≤ channel.version
  held : ∀ set, task.phase.held = some set → channel.valueAt task.device_types.seen = some set

section Held

variable {codec : TextCodec} {config : Config} {channel : Channel (List LoadedDeviceType)} {task next : ServerTask}

/-- The task moves on with the same receiver, to a phase that holds nothing new. -/
theorem Held.move (h : Held channel task) (hreceiver : next.device_types = task.device_types)
    (hheld : ∀ set, next.phase.held = some set → task.phase.held = some set) : Held channel next where
  seen := by
    rw [hreceiver]
    exact h.seen
  held := by
    intro set hset
    rw [hreceiver]
    exact h.held set (hheld set hset)

/-- The task has just read the channel. -/
theorem Held.read (hreceiver : next.device_types = ⟨channel.version⟩)
    (hheld : ∀ set, next.phase.held = some set → set = channel.value) : Held channel next where
  seen := le_of_eq (congrArg Receiver.seen hreceiver)
  held := by
    intro set hset
    rw [hreceiver, hheld set hset]
    exact channel.valueAt_version

theorem Held.step (h : Held channel task) {label : StepLabel}
    (hstep : task.step codec config channel label = some next) : Held channel next := by
  cases taskMove_of_step hstep with
  | stay _ hreceiver hphase => exact h.move hreceiver fun set hset => hphase ▸ hset
  | idle _ hreceiver hheld => exact h.move hreceiver fun set hset => by rw [hheld] at hset; cases hset
  | read _ hreceiver hphase =>
    apply Held.read hreceiver
    intro set hset
    rw [hphase] at hset
    exact (Option.some.inj hset).symm
  | resolve _ hreceiver hbefore hphase =>
    apply h.move hreceiver
    intro set hset
    rw [hphase] at hset
    rw [hbefore]
    exact hset
  | serve _ hreceiver hbefore hphase hsame =>
    obtain ⟨readers, rfl, -⟩ := hsame
    apply h.move hreceiver
    intro set hset
    have hheld : next.phase.held = task.phase.held := by
      rcases hbefore with hbefore | hbefore <;> rcases hphase with hphase | hphase <;>
        simp only [hbefore, hphase, TaskPhase.held]
    rwa [hheld] at hset
  | leave _ hreceiver _ hphase =>
    have hnone : next.phase.held = none := by rw [hphase]; rfl
    rcases hreceiver with hreceiver | hreceiver
    · exact h.move hreceiver (by simp [hnone])
    · exact Held.read hreceiver (by simp [hnone])

/-- Sending a set leaves what was seen before it. -/
theorem Held.send (h : Held channel task) (device_types : List LoadedDeviceType) :
    Held (channel.send device_types) task where
  seen := by
    rw [Channel.version_send]
    exact Nat.le_succ_of_le h.seen
  held := by
    intro set hset
    rw [channel.valueAt_send h.seen]
    exact h.held set hset

theorem Held.close (h : Held channel task) : Held channel.close task := ⟨h.seen, h.held⟩

theorem Held.spawn {receiver : Receiver} (hseen : receiver.seen ≤ channel.version) (server : ServerConfig)
    (known_server_ids : List String) : Held channel (.spawn server known_server_ids receiver) where
  seen := hseen
  held := by simp [ServerTask.spawn, TaskPhase.held]

end Held

section Run

variable {codec : TextCodec} {config : Config}

structure SystemInv (state : System) : Prop where
  seen : state.device_types.seen ≤ state.channel.version
  held : ∀ task ∈ state.tasks, Held state.channel task

theorem SystemInv.step {state next : System} {label : SystemLabel} (h : SystemInv state)
    (hstep : systemStep codec config state label = some next) : SystemInv next := by
  cases label with
  | sent device_types =>
    obtain ⟨-, hnext⟩ := Option.ite_none_left_eq_some.mp hstep
    cases hnext
    refine ⟨?_, fun task hmem => (h.held task hmem).send device_types⟩
    rw [Channel.version_send]
    exact Nat.le_succ_of_le h.seen
  | senderDropped =>
    cases hstep
    exact ⟨h.seen, fun task hmem => (h.held task hmem).close⟩
  | spawned server known_server_ids =>
    cases hstep
    refine ⟨h.seen, fun task hmem => ?_⟩
    rcases List.mem_append.mp hmem with hmem | hmem
    · exact h.held task hmem
    · rw [List.mem_singleton.mp hmem]
      exact .spawn h.seen server known_server_ids
  | task index label =>
    simp only [systemStep, Option.bind_eq_bind, Option.bind_eq_some_iff] at hstep
    obtain ⟨task, htask, moved, hmoved, hnext⟩ := hstep
    cases hnext
    refine ⟨h.seen, fun other hmem => ?_⟩
    rcases List.mem_or_eq_of_mem_set hmem with hmem | rfl
    · exact h.held other hmem
    · exact (h.held task (List.mem_of_getElem? htask)).step hmoved

variable (codec config)

/-- While a task sits in its steady wait and no change is ready, its generation was
resolved from the set sent last. -/
theorem no_update_lost {state : System} (h : (system codec config).Reachable state) {task : ServerTask}
    (hmem : task ∈ state.tasks) {generation : Generation} (hphase : task.phase = .steady generation)
    (hpending : state.channel.changed task.device_types = none) :
    generation.resolvedFrom = state.channel.sent.getLast?.getD state.channel.initial := by
  have hinv : SystemInv state := by
    refine h.invariant SystemInv ?_ fun _ _ _ hinv _ hstep => hinv.step hstep
    rintro start ⟨hchannel, hreceiver, htasks⟩
    exact ⟨by simp [hreceiver], by simp [htasks]⟩
  have hheld := (hinv.held task hmem).held generation.resolvedFrom (by rw [hphase]; rfl)
  obtain ⟨hseen, -⟩ := state.channel.changed_eq_none_iff.mp hpending
  rw [hseen, Channel.valueAt_version] at hheld
  exact (Option.some.inj hheld).symm

end Run

/-- A set that is sent while a task connects is the one it resolves. -/
theorem update_while_connecting_not_lost :
    ∃ state task generation, (system plainCodec .default).Reachable state ∧ task ∈ state.tasks ∧
      task.phase = .steady generation ∧ state.channel.changed task.device_types = none ∧
      generation.resolvedFrom = state.channel.sent.getLast?.getD state.channel.initial ∧
      state.channel.sent = [[], [sampleDeviceType]] := by
  obtain ⟨state, hrun, task, hmem, generation, hphase, hpending, hsent⟩ :
      ∃ state, (system plainCodec .default).exec ⟨⟨[], [], false⟩, ⟨0⟩, []⟩
          [.sent [], .spawned (sampleServer "b") ["b"], .task 0 .proceed, .task 0 .proceed,
            .sent [sampleDeviceType], .task 0 (.connected refusingConnection), .task 0 .proceed,
            .task 0 .proceed, .task 0 .proceed] = some state ∧
        ∃ task ∈ state.tasks, ∃ generation, task.phase = .steady generation ∧
          state.channel.changed task.device_types = none ∧ state.channel.sent = [[], [sampleDeviceType]] :=
    ⟨_, rfl, _, List.mem_cons_self, _, rfl, rfl, rfl⟩
  have hreach : (system plainCodec .default).Reachable state := Machine.Reachable.exec (.start ⟨rfl, rfl, rfl⟩) hrun
  exact ⟨state, task, generation, hreach, hmem, hphase, hpending,
    no_update_lost plainCodec .default hreach hmem hphase hpending, hsent⟩

end gateway.server_task
