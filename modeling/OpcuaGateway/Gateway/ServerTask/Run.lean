import OpcuaGateway.Foundation.Transition
import OpcuaGateway.Gateway.ServerTask.Service

open transition mapping.namespace_table mapping.source gateway.config opcua_conn

namespace gateway.server_task

/-- Consecutive read failures tolerated before the session is treated as lost. -/
def MAX_CONSECUTIVE_READ_FAILURES : Nat := 3

/-- A spawned reader task. A task that has returned stays in the set until the set
is waited for or shut down. -/
structure Reader where
  task : ReaderTask
  failures : Nat
  running : Bool

def Reader.spawn (task : ReaderTask) : Reader := ⟨task, 0, true⟩

inductive ReaderEvent where
  | readOk
  | readFailed
  /-- The session dropped the subscription. -/
  | channelClosed
  | cancelled
  deriving DecidableEq

/-- One turn of a running reader; nothing for an event its task does not have. -/
def Reader.turn (reader : Reader) : ReaderEvent → Option Reader
  | .readOk =>
    match reader.task with
    | .read_loop .. => some { reader with failures := 0 }
    | .subscription_loop _ => none
  | .readFailed =>
    match reader.task with
    | .read_loop .. =>
      let failures := reader.failures + 1
      some { reader with failures, running := decide (failures < MAX_CONSECUTIVE_READ_FAILURES) }
    | .subscription_loop _ => none
  | .channelClosed =>
    match reader.task with
    | .subscription_loop _ => some { reader with running := false }
    | .read_loop .. => none
  | .cancelled => some { reader with running := false }

/-- Everything resolved against one session and one device type set. -/
structure Generation where
  connection : Connection
  resolvedFrom : List LoadedDeviceType
  applied : List AppliedDeviceType
  readers : List Reader

/-- How the task goes on once a generation is torn down. -/
inductive Next where
  | finish
  | again
  | backOff
  deriving DecidableEq

inductive Phase where
  | looping
  | connecting
  /-- Waiting out the backoff of a failed connection attempt. -/
  | retryWait
  /-- The wait that follows `start_subscription` and `start_read_loops`. -/
  | steady (generation : Generation)
  | teardown (generation : Generation) (next : Next)
  /-- Waiting out the backoff of a session that a reader gave up. -/
  | faultWait
  | finished

/-- The receiving end of the device type channel. -/
structure Watch where
  value : List LoadedDeviceType
  unseen : Bool
  closed : Bool

structure TaskState where
  stop : Bool
  remove : Bool
  device_types : Watch
  backoff : Nat
  phase : Phase

/-- The branch of a wait that completes. -/
inductive Wake where
  | stop
  | remove
  | changed
  | readerExit
  deriving DecidableEq

inductive TaskLabel where
  | stopCancelled
  | removeCancelled
  | sent (device_types : List LoadedDeviceType)
  | senderDropped
  | proceed
  | connected (connection : Connection)
  | connectFailed
  | slept
  | reader (index : Nat) (event : ReaderEvent)
  | woken (wake : Wake)
  | tornDown

section Run

variable (codec : TextCodec) (config : Config) (server : ServerConfig) (known_server_ids : List String)

/-- What a session and a device type set make of the reader tasks. Nothing is
applied when the mappings cannot be resolved. -/
def newGeneration (connection : Connection) (device_types : List LoadedDeviceType) : Generation :=
  let applied :=
    match resolve_all codec connection.toSession server known_server_ids device_types with
    | .ok mappings => mappings.map (AppliedDeviceType.new server)
    | .error _ => []
  { connection
    resolvedFrom := device_types
    applied
    readers := (startReaders config.subscription connection applied).map Reader.spawn }

/-- The end of a wait when the task is stopped or its server is gone. -/
def endWait (state : TaskState) : Option TaskState :=
  match state.phase with
  | .connecting | .retryWait | .faultWait => some { state with phase := .finished }
  | .steady generation => some { state with phase := .teardown generation .finish }
  | _ => none

/-- A change of the device types ends the steady wait, and so does the end of their
provider. A change that is pending is seen first. -/
def observeChange (state : TaskState) : Option TaskState :=
  match state.phase with
  | .steady generation =>
    if state.device_types.unseen then
      some { state with
        device_types := { state.device_types with unseen := false }
        phase := .teardown generation .again }
    else if state.device_types.closed then some { state with phase := .teardown generation .finish }
    else none
  | _ => none

/-- A reader that has returned ends the steady wait. It is a fault unless the task is
being stopped. -/
def observeExit (state : TaskState) : Option TaskState :=
  match state.phase with
  | .steady generation =>
    if generation.readers.any (!·.running) then
      some { state with phase := .teardown generation (if state.stop then .again else .backOff) }
    else none
  | _ => none

def wake (state : TaskState) : Wake → Option TaskState
  | .stop => if state.stop then endWait state else none
  | .remove => if state.remove then endWait state else none
  | .changed => observeChange state
  | .readerExit => observeExit state

/-- A turn of one reader during the steady wait. Its token is a child of the task's. -/
def readerTurn (state : TaskState) (index : Nat) (event : ReaderEvent) : Option TaskState :=
  match state.phase with
  | .steady generation => do
    let reader ← generation.readers[index]?
    if !reader.running || (event == .cancelled && !state.stop) then none
    else
      let next ← reader.turn event
      some { state with phase := .steady { generation with readers := generation.readers.set index next } }
  | _ => none

/-- The loop of one server's task, up to its connection attempts. -/
def runStep (state : TaskState) : TaskLabel → Option TaskState
  | .stopCancelled => some { state with stop := true }
  | .removeCancelled => some { state with remove := true }
  | .sent device_types =>
    if state.device_types.closed then none
    else some { state with device_types := ⟨device_types, true, false⟩ }
  | .senderDropped => some { state with device_types := { state.device_types with closed := true } }
  | .proceed =>
    match state.phase with
    | .looping => some { state with phase := if state.stop || state.remove then .finished else .connecting }
    | _ => none
  | .connected connection =>
    match state.phase with
    | .connecting => some { state with
        device_types := { state.device_types with unseen := false }
        backoff := 1
        phase := .steady (newGeneration codec config server known_server_ids connection
          state.device_types.value) }
    | _ => none
  | .connectFailed =>
    match state.phase with
    | .connecting => some { state with phase := .retryWait }
    | _ => none
  | .slept =>
    match state.phase with
    | .retryWait | .faultWait =>
      some { state with backoff := min (state.backoff * 2) config.max_backoff, phase := .looping }
    | _ => none
  | .reader index event => readerTurn state index event
  | .woken branch => wake state branch
  | .tornDown =>
    match state.phase with
    | .teardown _ .finish => some { state with phase := .finished }
    | .teardown _ .again => some { state with phase := .looping }
    | .teardown _ .backOff => some { state with phase := .faultWait }
    | _ => none

/-- What a step can be, with its guards. Turns of readers and ends of waits stay as
they are defined. -/
inductive RunSteps (state : TaskState) : TaskLabel → TaskState → Prop
  | stopCancelled : RunSteps state .stopCancelled { state with stop := true }
  | removeCancelled : RunSteps state .removeCancelled { state with remove := true }
  | sent (device_types : List LoadedDeviceType) (hopen : state.device_types.closed = false) :
      RunSteps state (.sent device_types) { state with device_types := ⟨device_types, true, false⟩ }
  | senderDropped :
      RunSteps state .senderDropped { state with device_types := { state.device_types with closed := true } }
  | proceed (hphase : state.phase = .looping) :
      RunSteps state .proceed
        { state with phase := if state.stop || state.remove then .finished else .connecting }
  | connected (connection : Connection) (hphase : state.phase = .connecting) :
      RunSteps state (.connected connection)
        { state with
          device_types := { state.device_types with unseen := false }
          backoff := 1
          phase := .steady (newGeneration codec config server known_server_ids connection
            state.device_types.value) }
  | connectFailed (hphase : state.phase = .connecting) :
      RunSteps state .connectFailed { state with phase := .retryWait }
  | slept (hphase : state.phase = .retryWait ∨ state.phase = .faultWait) :
      RunSteps state .slept
        { state with backoff := min (state.backoff * 2) config.max_backoff, phase := .looping }
  | reader (index : Nat) (event : ReaderEvent) {next : TaskState}
      (hturn : readerTurn state index event = some next) : RunSteps state (.reader index event) next
  | woken (branch : Wake) {next : TaskState} (hwake : wake state branch = some next) :
      RunSteps state (.woken branch) next
  | finish {generation : Generation} (hphase : state.phase = .teardown generation .finish) :
      RunSteps state .tornDown { state with phase := .finished }
  | again {generation : Generation} (hphase : state.phase = .teardown generation .again) :
      RunSteps state .tornDown { state with phase := .looping }
  | backOff {generation : Generation} (hphase : state.phase = .teardown generation .backOff) :
      RunSteps state .tornDown { state with phase := .faultWait }

variable {codec config server known_server_ids} in
theorem runSteps_of_runStep {state next : TaskState} {label : TaskLabel}
    (h : runStep codec config server known_server_ids state label = some next) :
    RunSteps codec config server known_server_ids state label next := by
  cases label with
  | stopCancelled =>
    cases h
    exact .stopCancelled
  | removeCancelled =>
    cases h
    exact .removeCancelled
  | sent device_types =>
    obtain ⟨hopen, hnext⟩ := Option.ite_none_left_eq_some.mp h
    cases hnext
    exact .sent device_types (Bool.eq_false_iff.mpr hopen)
  | senderDropped =>
    cases h
    exact .senderDropped
  | proceed =>
    simp only [runStep] at h
    split at h
    · rename_i hphase
      cases h
      exact .proceed hphase
    · cases h
  | connected connection =>
    simp only [runStep] at h
    split at h
    · rename_i hphase
      cases h
      exact .connected connection hphase
    · cases h
  | connectFailed =>
    simp only [runStep] at h
    split at h
    · rename_i hphase
      cases h
      exact .connectFailed hphase
    · cases h
  | slept =>
    simp only [runStep] at h
    split at h
    · rename_i hphase
      cases h
      exact .slept (Or.inl hphase)
    · rename_i hphase
      cases h
      exact .slept (Or.inr hphase)
    · cases h
  | reader index event => exact .reader index event h
  | woken branch => exact .woken branch h
  | tornDown =>
    simp only [runStep] at h
    split at h
    · rename_i hphase
      cases h
      exact .finish hphase
    · rename_i hphase
      cases h
      exact .again hphase
    · rename_i hphase
      cases h
      exact .backOff hphase
    · cases h

/-- Supervise one server until it is stopped or removed. -/
def run : Machine TaskState TaskLabel where
  start state := state.stop = false ∧ state.remove = false ∧ state.backoff = 1 ∧ state.phase = .looping
  step := runStep codec config server known_server_ids

end Run

end gateway.server_task
