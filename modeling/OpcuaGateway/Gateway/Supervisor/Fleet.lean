import OpcuaGateway.Gateway.ServerTask.Updates
import OpcuaGateway.Gateway.Supervisor.Tasks

open transition watch ordered_map mapping.namespace_table mapping.source gateway.config gateway.server_task

namespace gateway.supervisor

/-- The supervisor together with the server tasks that it spawns and joins. A task's
handle is its place among those that have been spawned. -/
structure Fleet where
  supervision : SupervisorState
  system : System
  /-- The process-wide token, of which every `stop` token is a child. -/
  cancelled : Bool

inductive FleetLabel where
  | supervise (label : SupervisorLabel)
  | task (handle : Nat) (label : StepLabel)
  /-- The provider of device types. -/
  | sent (device_types : List LoadedDeviceType)
  | senderDropped
  | cancel

/-- What a token of the supervisor is to the task. -/
def Token.label : Token → StepLabel
  | .stop => .stopCancelled
  | .remove => .removeCancelled

/-- What the supervisor does to the tasks as it goes on: it fires a token of one, or
spawns one. The `stop` token of a task that is spawned during a shutdown is fired from
the start. -/
def SupervisorState.effects (state : SupervisorState) (cancelled : Bool) : List SystemLabel :=
  match state.phase with
  | .removing (id :: _) _ _ =>
    (state.running.get id).toList.map fun task => .task task.handle Token.remove.label
  | .restarting (id :: _) _ =>
    (state.running.get id).toList.map fun task => .task task.handle Token.stop.label
  | .starting known_server_ids (server :: _) =>
    if (state.running.get server.id).isSome then []
    else .spawned server known_server_ids ::
      (if cancelled then [.task state.spawned Token.stop.label] else [])
  | _ => []

/-- The task that is being joined has returned. -/
def Fleet.joinable (state : Fleet) : Bool :=
  match state.supervision.joining.bind fun task => state.system.tasks[task.handle]? with
  | some task =>
    match task.phase with
    | .finished => true
    | _ => false
  | none => false

section Fleet

variable (codec : TextCodec) (config : Config)

/-- The supervisor joins a task once it has returned, and leaves its loop once the
process is cancelled. The tokens of a task are fired by the supervisor only. -/
def fleetStep (state : Fleet) : FleetLabel → Option Fleet
  | .supervise label => do
    let supervision ← taskStep config state.supervision label
    match label with
    | .advance =>
      let system ← (system codec config).exec state.system (state.supervision.effects state.cancelled)
      some { state with supervision, system }
    | .joined => when (state.joinable = true) { state with supervision }
    | .cancelled => when (state.cancelled = true) { state with supervision }
    | _ => some { state with supervision }
  | .task handle label =>
    match label with
    | .stopCancelled | .removeCancelled => none
    | _ => (systemStep codec config state.system (.task handle label)).map fun system => { state with system }
  | .sent device_types =>
    (systemStep codec config state.system (.sent device_types)).map fun system => { state with system }
  | .senderDropped => (systemStep codec config state.system .senderDropped).map fun system => { state with system }
  | .cancel =>
    let tasks := state.system.tasks.map fun task => { task with stop := true }
    some { state with cancelled := true, system := { state.system with tasks } }

/-- Keep the running server tasks equal to the configured set until cancelled, and join
them. -/
def fleet : Machine Fleet FleetLabel where
  start state := (tasks config).start state.supervision ∧ state.supervision.spawned = 0 ∧
    (system codec config).start state.system ∧ state.cancelled = false
  step := fleetStep codec config

end Fleet

end gateway.supervisor
