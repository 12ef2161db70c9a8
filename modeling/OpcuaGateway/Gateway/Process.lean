import OpcuaGateway.Gateway.Main
import OpcuaGateway.Gateway.Publish
import OpcuaGateway.Gateway.ServerTask.Updates

open transition watch ordered_map tedge.topic tedge.mqtt mapping.value mapping.payload mapping.namespace_table
  mapping.resolve mapping.source gateway.config gateway.publish opcua_conn

namespace gateway.server_task

/-- Where servers hang: below the gateway device when there is one, below the main
device otherwise. -/
def parent_entity (config : Config) : EntityTopicId :=
  if config.gateway.enabled then gateway_device.entity config.gateway else .main_device

/-- Entity types follow the same switch. -/
def server_entity_type (config : Config) : String :=
  if config.gateway.enabled then OPCUA_SERVER_MO_TYPE else OPCUA_SERVER_ENTITY_TYPE

def device_entity_type (config : Config) : String :=
  if config.gateway.enabled then OPCUA_DEVICE_MO_TYPE else OPCUA_DEVICE_ENTITY_TYPE

/-- The registration that a task starts with. -/
def registerServer (config : Config) (server : ServerConfig) : Publish :=
  TedgeMqtt.register_child_device (serverEntity server) (parent_entity config) server.name
    (server_entity_type config) server.external_id

/-- The registration of the device of one applied device type, and its units. -/
def registerDevice (config : Config) (server : ServerConfig) (device : AppliedDeviceType) : List Publish :=
  TedgeMqtt.register_child_device device.entity (serverEntity server) device.name (device_entity_type config) none ::
    publish_units device.entity device.mapping

/-- What is published for the devices of a generation before its readers start. -/
def registerDevices (config : Config) (server : ServerConfig) (applied : List AppliedDeviceType) : List Publish :=
  applied.flatMap (registerDevice config server)

/-- The publishers of a reader as it is spawned, one per device. -/
def ReaderTask.publishers : ReaderTask → List Publisher
  | .subscription_loop routes => (routes.values.map (·.entity)).dedup.map fun entity => .new entity false
  | .read_loop entity _ _ => [.new entity true]

/-- The device and the node of a value: by the client handle of a notification, or
by the position in what a cycle reads. -/
def ReaderTask.source : ReaderTask → Nat → Option (EntityTopicId × ResolvedNode)
  | .subscription_loop routes, handle => (routes.get handle).map fun target => (target.entity, target.node)
  | .read_loop entity _ nodes, position => nodes[position]?.map fun node => (entity, node)

/-- A reader with its publishers and what one of them has still to enqueue. -/
structure PublishingReader where
  task : ReaderTask
  publishers : List Publisher
  outbox : List Publish

def PublishingReader.spawn (task : ReaderTask) : PublishingReader := ⟨task, task.publishers, []⟩

/-- A call of a reader to one of its publishers. -/
inductive PublisherCall where
  | accept (source : Nat) (data_value : DataValue) (clock : Nat → DateTime)
  | flush (index : Nat) (now : DateTime)

section Reader

variable (render : Rendering)

/-- A call starts once everything that the one before it published is enqueued. -/
def PublishingReader.call (self : PublishingReader) : PublisherCall → Option PublishingReader
  | .accept source data_value clock => do
    let (entity, node) ← self.task.source source
    let index ← self.publishers.findIdx? (·.entity = entity)
    let publisher ← self.publishers[index]?
    let (next, messages) := publisher.accept render clock node data_value
    when (self.outbox = []) { self with publishers := self.publishers.set index next, outbox := messages }
  | .flush index now => do
    let publisher ← self.publishers[index]?
    let (next, messages) := publisher.flush render now
    when (self.outbox = []) { self with publishers := self.publishers.set index next, outbox := messages }

end Reader

/-- A server task with its readers and what it has still to enqueue itself. -/
structure PublishingTask where
  task : ServerTask
  outbox : List Publish
  readers : List PublishingReader

namespace PublishingTask

def spawn (config : Config) (server : ServerConfig) (known_server_ids : List String) (device_types : Receiver) :
    PublishingTask where
  task := .spawn server known_server_ids device_types
  outbox := [registerServer config server]
  readers := []

/-- A generation begins with the registration of its devices, and its readers end
with it. -/
def follow (config : Config) (self : PublishingTask) (next : ServerTask) : PublishingTask :=
  match self.task.phase.generation, next.phase.generation with
  | none, some generation =>
    { task := next
      outbox := registerDevices config next.server generation.applied
      readers := generation.readers.map fun reader => .spawn reader.task }
  | some _, none => { self with task := next, readers := [] }
  | _, _ => { self with task := next }

/-- Tokens are fired from outside. Nothing else happens to a task that waits for room
in the queue. -/
def step (codec : TextCodec) (config : Config) (channel : Channel (List LoadedDeviceType)) (self : PublishingTask)
    (label : StepLabel) : Option PublishingTask :=
  match label with
  | .stopCancelled | .removeCancelled => (self.task.step codec config channel label).map (self.follow config)
  | _ => if self.outbox = [] then (self.task.step codec config channel label).map (self.follow config) else none

/-- The reader is spawned once the devices are registered, and has not returned. -/
def readerRuns (self : PublishingTask) (index : Nat) : Bool :=
  self.outbox.isEmpty &&
    (self.task.phase.generation.bind fun generation => generation.readers[index]?).any (·.running)

end PublishingTask

end gateway.server_task

namespace gateway.process

open gateway.server_task

/-- Where `main` stands: behind so many publishes of its startup, or with all tasks
spawned, or gone. -/
inductive MainPhase where
  | starting (index : Nat)
  | running
  | exited
  deriving DecidableEq

/-- A failure to register the service or to publish its health ends the process. A
gateway device that cannot be registered is left without its fragments. -/
def afterFailure (index : Nat) : MainPhase :=
  if index < 2 then .exited
  else if index = 2 then .running
  else .starting (index + 1)

/-- The process with the log of its request queue. -/
structure Process where
  /-- The queue is closed, for good. -/
  closed : Bool
  /-- What has been enqueued, in order. -/
  log : List Publish
  main : MainPhase
  channel : Channel (List LoadedDeviceType)
  /-- The supervisor's receiver, of which every task gets a clone. -/
  device_types : Receiver
  tasks : List PublishingTask

namespace Process

/-- Nothing is enqueued any more once the queue is closed. -/
def enqueue (self : Process) (message : Publish) : Process :=
  if self.closed then self else { self with log := self.log ++ [message] }

/-- A task enqueues what comes first in its outbox. -/
def enqueueOwn (self : Process) (index : Nat) : Option Process := do
  let task ← self.tasks[index]?
  match task.outbox with
  | [] => none
  | message :: rest =>
    some ({ self with tasks := self.tasks.set index { task with outbox := rest } }.enqueue message)

/-- A reader of a task enqueues what comes first in its outbox. -/
def enqueueRead (self : Process) (index reader : Nat) : Option Process := do
  let task ← self.tasks[index]?
  let publishing ← task.readers[reader]?
  match publishing.outbox with
  | [] => none
  | message :: rest =>
    let readers := task.readers.set reader { publishing with outbox := rest }
    when (task.readerRuns reader = true)
      ({ self with tasks := self.tasks.set index { task with readers } }.enqueue message)

end Process

inductive Label where
  | queueClosed
  | startup
  /-- The provider of device types sends a set, or ends. -/
  | sent (device_types : List LoadedDeviceType)
  | senderDropped
  /-- An operation is answered. -/
  | operation (external_id record : String)
  /-- The supervisor starts a task, whatever set of servers it reconciles. -/
  | spawned (server : ServerConfig) (known_server_ids : List String)
  | task (index : Nat) (label : StepLabel)
  | enqueueOwn (index : Nat)
  | reader (index reader : Nat) (call : PublisherCall)
  | enqueueRead (index reader : Nat)

section Process

variable (codec : TextCodec) (render : Rendering) (config : Config) (pid unix_time : Nat) (version : String)

/-- One step of `main` up to the point where it spawns the tasks. -/
def startupStep (state : Process) : Option Process :=
  match state.main with
  | .starting index =>
    match (main.startupPublishes config pid unix_time version)[index]? with
    | none => some { state with main := .running }
    | some message =>
      if state.closed then some { state with main := afterFailure index }
      else some ({ state with main := .starting (index + 1) }.enqueue message)
  | _ => none

def step (state : Process) : Label → Option Process
  | .queueClosed => some { state with closed := true }
  | .startup => startupStep config pid unix_time version state
  | .sent device_types =>
    when (state.main = .running ∧ state.channel.closed = false)
      { state with channel := state.channel.send device_types }
  | .senderDropped => when (state.main = .running) { state with channel := state.channel.close }
  | .operation external_id record =>
    when (state.main = .running ∧ config.gateway.enabled = true)
      (state.enqueue (TedgeMqtt.publish_smartrest external_id record))
  | .spawned server known_server_ids =>
    when (state.main = .running)
      { state with tasks := state.tasks ++ [.spawn config server known_server_ids state.device_types] }
  | .task index label => do
    let task ← state.tasks[index]?
    let next ← task.step codec config state.channel label
    some { state with tasks := state.tasks.set index next }
  | .enqueueOwn index => state.enqueueOwn index
  | .reader index reader call => do
    let task ← state.tasks[index]?
    let publishing ← task.readers[reader]?
    let next ← publishing.call render call
    when (task.readerRuns reader = true)
      { state with tasks := state.tasks.set index { task with readers := task.readers.set reader next } }
  | .enqueueRead index reader => state.enqueueRead index reader

/-- `main`, the server tasks and their readers over one request queue. -/
def run : Machine Process Label where
  start state :=
    state.closed = false ∧ state.log = [] ∧ state.main = .starting 0 ∧ state.channel = ⟨[], [], false⟩ ∧
      state.device_types = ⟨0⟩ ∧ state.tasks = []
  step := step codec render config pid unix_time version

end Process

section System

variable {codec : TextCodec} {render : Rendering} {config : Config} {pid unix_time : Nat} {version : String}
  {state next : Process}

/-- The device type channel and the server tasks, without what they publish. -/
def Process.system (state : Process) : System where
  channel := state.channel
  device_types := state.device_types
  tasks := state.tasks.map (·.task)

theorem follow_task (sender : PublishingTask) (moved : ServerTask) : (sender.follow config moved).task = moved := by
  unfold PublishingTask.follow
  split <;> rfl

/-- Only a token reaches a task that has something to enqueue, and it leaves the task
where it is. -/
theorem publishingStep_eq_some {channel : Channel (List LoadedDeviceType)} {sender moved : PublishingTask}
    {label : StepLabel}
    (hstep : sender.step codec config channel label = some moved) :
    ∃ next, sender.task.step codec config channel label = some next ∧ moved = sender.follow config next ∧
      (sender.outbox = [] ∨ next.phase = sender.task.phase) := by
  unfold PublishingTask.step at hstep
  split at hstep
  · obtain ⟨next, hnext, hmoved⟩ := Option.map_eq_some_iff.mp hstep
    refine ⟨next, hnext, hmoved.symm, Or.inr ?_⟩
    cases hnext
    rfl
  · obtain ⟨next, hnext, hmoved⟩ := Option.map_eq_some_iff.mp hstep
    refine ⟨next, hnext, hmoved.symm, Or.inr ?_⟩
    cases hnext
    rfl
  · obtain ⟨hempty, hstep⟩ := Option.ite_none_right_eq_some.mp hstep
    obtain ⟨next, hnext, hmoved⟩ := Option.map_eq_some_iff.mp hstep
    exact ⟨next, hnext, hmoved.symm, Or.inl hempty⟩

theorem publishingStep_task {channel : Channel (List LoadedDeviceType)} {sender moved : PublishingTask} {label : StepLabel}
    (hstep : sender.step codec config channel label = some moved) :
    sender.task.step codec config channel label = some moved.task := by
  obtain ⟨next, hnext, rfl, -⟩ := publishingStep_eq_some hstep
  rw [hnext, follow_task]

theorem system_enqueue (message : Publish) : (state.enqueue message).system = state.system := by
  unfold Process.enqueue
  split <;> rfl

/-- Nothing changes for the others when a task publishes. -/
theorem system_set {index : Nat} {sender moved : PublishingTask} (hsender : state.tasks[index]? = some sender)
    (htask : moved.task = sender.task) : { state with tasks := state.tasks.set index moved }.system = state.system := by
  simp only [Process.system, map_set_of_eq hsender htask]

/-- A step of the process is one of its channel and tasks, or none of theirs. -/
theorem system_step {label : Label} (hstep : step codec render config pid unix_time version state label = some next) :
    next.system = state.system ∨ ∃ label, systemStep codec config state.system label = some next.system := by
  cases label with
  | queueClosed =>
    cases hstep
    exact Or.inl rfl
  | startup =>
    simp only [step, startupStep] at hstep
    split at hstep
    · split at hstep
      · cases hstep
        exact Or.inl rfl
      · split at hstep
        · cases hstep
          exact Or.inl rfl
        · cases hstep
          exact Or.inl (system_enqueue _)
    · cases hstep
  | sent device_types =>
    obtain ⟨⟨-, hopen⟩, rfl⟩ := when_eq_some.mp hstep
    refine Or.inr ⟨.sent device_types, ?_⟩
    simp [systemStep, Process.system, hopen]
  | senderDropped =>
    obtain ⟨-, rfl⟩ := when_eq_some.mp hstep
    exact Or.inr ⟨.senderDropped, rfl⟩
  | operation external_id record =>
    obtain ⟨-, rfl⟩ := when_eq_some.mp hstep
    exact Or.inl (system_enqueue _)
  | spawned server known_server_ids =>
    obtain ⟨-, rfl⟩ := when_eq_some.mp hstep
    refine Or.inr ⟨.spawned server known_server_ids, ?_⟩
    simp [systemStep, Process.system, PublishingTask.spawn]
  | task index label =>
    simp only [step, Option.bind_eq_bind, Option.bind_eq_some_iff] at hstep
    obtain ⟨sender, hsender, moved, hmoved, hnext⟩ := hstep
    cases hnext
    refine Or.inr ⟨.task index label, ?_⟩
    have htask : state.system.tasks[index]? = some sender.task := by simp [Process.system, hsender]
    have hmoved' : sender.task.step codec config state.system.channel label = some moved.task := publishingStep_task hmoved
    simp only [systemStep, htask, Option.bind_eq_bind, Option.bind_some, hmoved']
    simp [Process.system, List.map_set]
  | enqueueOwn index =>
    simp only [step, Process.enqueueOwn, Option.bind_eq_bind, Option.bind_eq_some_iff] at hstep
    obtain ⟨sender, hsender, hstep⟩ := hstep
    split at hstep
    · cases hstep
    · cases hstep
      exact Or.inl ((system_enqueue _).trans (system_set hsender rfl))
  | reader index reader call =>
    simp only [step, Option.bind_eq_bind, Option.bind_eq_some_iff, when_eq_some] at hstep
    obtain ⟨sender, hsender, publishing, -, called, -, -, rfl⟩ := hstep
    exact Or.inl (system_set hsender rfl)
  | enqueueRead index reader =>
    simp only [step, Process.enqueueRead, Option.bind_eq_bind, Option.bind_eq_some_iff] at hstep
    obtain ⟨sender, hsender, publishing, -, hstep⟩ := hstep
    split at hstep
    · cases hstep
    · obtain ⟨-, rfl⟩ := when_eq_some.mp hstep
      exact Or.inl ((system_enqueue _).trans (system_set hsender rfl))

/-- Publishing holds the tasks up and lets them do nothing else: what they do in the
process they do on their own. -/
theorem system_reachable (h : (run codec render config pid unix_time version).Reachable state) :
    (system codec config).Reachable state.system := by
  induction h with
  | start hstart =>
    obtain ⟨-, -, -, hchannel, hreceiver, htasks⟩ := hstart
    exact .start ⟨hchannel, hreceiver, by simp [Process.system, htasks]⟩
  | step _ _ hstep ih =>
    rcases system_step hstep with hsame | ⟨label, hmove⟩
    · rwa [hsame]
    · exact .step ih trivial hmove

end System

end gateway.process
