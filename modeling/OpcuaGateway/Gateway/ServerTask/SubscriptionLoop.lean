import Mathlib.Algebra.GroupWithZero.Nat
import OpcuaGateway.Foundation.Transition
import OpcuaGateway.Gateway.Publish
import OpcuaGateway.Gateway.ServerTask.Service

open transition ordered_map tedge.topic tedge.mqtt mapping.value mapping.payload mapping.resolve
  gateway.config gateway.publish

namespace gateway.server_task

/-- A value delivered by a subscription, under the handle of its monitored item. -/
structure DataChange where
  client_handle : Nat
  value : DataValue
  deriving DecidableEq

/-- What the loop does once every publisher is flushed. -/
inductive FlushEnd where
  | select
  | return
  deriving DecidableEq

/-- Where the loop stands. Messages that are listed wait to be handed to the client,
the first of them at an await point. -/
inductive LoopPhase where
  /-- In the select, waiting for a cancellation, a tick or a notification. -/
  | selecting
  /-- Publisher `index` accepts a value: these actions remain. -/
  | accepting (index : Nat) (node : ResolvedNode) (data_value : DataValue) (actions : List Action)
      (messages : List Publish)
  /-- The publishers from `index` on remain to be flushed. -/
  | flushing (index : Nat) (messages : List Publish) (after : FlushEnd)
  | returned
  | aborted
  deriving DecidableEq

/-- A measurement series, by the topic and the place its value is published at. -/
structure Series where
  topic : String
  fragment : String
  name : String
  deriving DecidableEq

/-- What happens to measurements: a series is accepted into a publisher, early if
that is before the generation is cancelled, or a message is handed to the client. -/
inductive LogEvent where
  | accepted (series : Series) (early : Bool)
  | handed (message : Publish)
  deriving DecidableEq

/-- Where the task that owns the readers stands. -/
inductive Owner where
  | steady
  | cancelled
  /-- Every reader task is told to abort, and waited for. -/
  | shuttingDown
  | shutDown
  | disconnected
  deriving DecidableEq

/-- The set of readers is shut down: every task in it has ended. -/
def Owner.isDown : Owner → Bool
  | .shutDown => true
  | .disconnected => true
  | _ => false

/-- A subscription loop with the task that owns it. -/
structure LoopState where
  owner : Owner
  /-- A worker is running the loop's task. It is suspended at an await point otherwise. -/
  polled : Bool
  phase : LoopPhase
  /-- One publisher per device, in the order in which they are flushed. -/
  publishers : List Publisher
  /-- The log of the run, newest event first. -/
  log : List LogEvent
  deriving DecidableEq

inductive LoopLabel where
  /-- The steps of the owner. -/
  | cancel
  | shutdown
  | joined
  | disconnect
  /-- The steps of the runtime. -/
  | poll
  | suspend
  | abort
  /-- The branches of the select. -/
  | observeCancel
  | tick
  | notified (change : DataChange)
  | closed
  /-- The loop goes on, up to and including the next message it hands over. -/
  | advance (now : DateTime)
  deriving DecidableEq

/-- Positions at which the task can be suspended. -/
def LoopPhase.isAwait : LoopPhase → Bool
  | .selecting => true
  | .accepting _ _ _ _ messages => !messages.isEmpty
  | .flushing _ messages _ => !messages.isEmpty
  | .returned => false
  | .aborted => false

def LoopPhase.isDead : LoopPhase → Bool
  | .returned => true
  | .aborted => true
  | _ => false

/-- The series an action of a node puts into the publisher's batch. -/
def acceptedSeries (publisher : Publisher) (node : ResolvedNode) (data_value : DataValue) :
    Action → Option Series
  | .Measurement creation =>
    match measurement_type creation, MeasurementBuilder.numberOf data_value with
    | some type, some _ => some {
        topic := publisher.entity.channel_topic ("m/" ++ type)
        fragment := creation.fragmentName node.node_id_str
        name := creation.series_name node.node_id_str }
    | _, _ => none
  | _ => none

section Loop

variable (render : Rendering) (config : SubscriptionConfig) (routes : Routes)

def startFlush (state : LoopState) (after : FlushEnd) : LoopState :=
  { state with phase := .flushing 0 [] after }

/-- A batch that is large enough is flushed at once. -/
def checkPending (state : LoopState) : LoopState :=
  if config.flush_max_series ≤ (state.publishers.map (·.pending_series)).sum then startFlush state .select
  else { state with phase := .selecting }

/-- Look up where a notification goes. A value that must not be published leaves no
action to handle. -/
def onNotification (state : LoopState) (change : DataChange) : LoopState :=
  match routes.get change.client_handle with
  | none => checkPending config state
  | some target =>
    match state.publishers.findIdx? (·.entity = target.entity) with
    | none => checkPending config state
    | some index =>
      let actions := if is_bad change.value then [] else target.node.actions
      { state with phase := .accepting index target.node change.value actions [] }

/-- The next action of a value, the next message, or the next publisher. -/
def advance (now : DateTime) (state : LoopState) : Option LoopState :=
  match state.phase with
  | .accepting index node data_value actions (message :: messages) =>
    some { state with
      phase := .accepting index node data_value actions messages
      log := .handed message :: state.log }
  | .accepting _ _ _ [] [] => some (checkPending config state)
  | .accepting index node data_value (action :: actions) [] => do
    let publisher ← state.publishers[index]?
    let (next, messages) := publisher.acceptAction render now node data_value action
    let accepted := (acceptedSeries publisher node data_value action).map fun series =>
      LogEvent.accepted series (state.owner == .steady)
    some { state with
      phase := .accepting index node data_value actions messages
      publishers := state.publishers.set index next
      log := accepted.toList ++ state.log }
  | .flushing index (message :: messages) after =>
    some { state with
      phase := .flushing index messages after
      log := .handed message :: state.log }
  | .flushing index [] after =>
    match state.publishers[index]? with
    | some publisher =>
      let (next, messages) := publisher.flush render now
      some { state with
        phase := .flushing (index + 1) messages after
        publishers := state.publishers.set index next }
    | none =>
      match after with
      | .select => some { state with phase := .selecting }
      | .return => some { state with phase := .returned }
  | _ => none

/-- A branch of the select. -/
def select (state : LoopState) (next : LoopState) : Option LoopState :=
  if state.polled && state.phase == .selecting then some next else none

/-- The loop, its owner and the runtime between them. A task that is told to abort is
not polled again: it ends where it is suspended, or at its next await point. -/
def loopStep (state : LoopState) : LoopLabel → Option LoopState
  | .cancel => when (state.owner = .steady) { state with owner := .cancelled }
  | .shutdown => when (state.owner = .cancelled) { state with owner := .shuttingDown }
  | .joined =>
    when (state.owner = .shuttingDown ∧ state.phase.isDead = true) { state with owner := .shutDown }
  | .disconnect => when (state.owner = .shutDown) { state with owner := .disconnected }
  | .poll =>
    when (state.polled = false ∧ state.phase.isDead = false ∧
      (state.owner = .steady ∨ state.owner = .cancelled)) { state with polled := true }
  | .suspend => when (state.polled = true ∧ state.phase.isAwait = true) { state with polled := false }
  | .abort =>
    when (state.polled = false ∧ state.phase.isDead = false ∧ state.owner = .shuttingDown)
      { state with phase := .aborted }
  | .observeCancel => if state.owner = .steady then none else select state (startFlush state .return)
  | .tick => select state (startFlush state .select)
  | .notified change => select state (onNotification config routes state change)
  | .closed => select state (startFlush state .return)
  | .advance now => if state.polled then advance render config now state else none

/-- The publishers of a loop as it is spawned: a new one for each device of a route. -/
def FreshPublishers (publishers : List Publisher) : Prop :=
  (publishers.map (·.entity)).Nodup ∧ (∀ publisher ∈ publishers, publisher = .new publisher.entity false) ∧
    ∀ entity, entity ∈ publishers.map (·.entity) ↔ ∃ target ∈ routes.values, target.entity = entity

/-- Publish subscription notifications, batching measurements on size or interval. -/
def subscription_loop : Machine LoopState LoopLabel where
  start state := state.owner = .steady ∧ state.polled = false ∧ state.phase = .selecting ∧
    FreshPublishers routes state.publishers ∧ state.log = []
  step := loopStep render config routes

end Loop

end gateway.server_task
