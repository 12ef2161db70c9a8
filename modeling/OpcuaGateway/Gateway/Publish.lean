import Mathlib.Data.Prod.Lex
import OpcuaGateway.Mapping.Payload
import OpcuaGateway.Mapping.Resolve
import OpcuaGateway.Tedge.Mqtt

open text json ordered_map tedge.topic tedge.mqtt mapping.value mapping.payload mapping.resolve

namespace gateway.publish

/-- Keys of what is remembered about a node: its NodeId and an event or alarm type. -/
abbrev NodeType := Lex (String × String)

/-- Accumulates measurements and publishes events and alarms as they happen. -/
structure Publisher where
  entity : EntityTopicId
  /-- Whether repeated identical event values should be suppressed. -/
  dedup_events : Bool
  last_event : OrderedMap NodeType String
  last_alarm : OrderedMap NodeType Bool
  batch : OrderedMap String MeasurementBuilder
  pending_series : Nat
  deriving DecidableEq

namespace Publisher

def new (entity : EntityTopicId) (dedup_events : Bool) : Publisher where
  entity := entity
  dedup_events := dedup_events
  last_event := .empty
  last_alarm := .empty
  batch := .empty
  pending_series := 0

variable (render : Rendering) (now : DateTime)

/-- Batch one measurement of a node. -/
def acceptMeasurement (self : Publisher) (creation : mapping.model.MeasurementCreation) (node : ResolvedNode)
    (data_value : DataValue) : Publisher :=
  match measurement_type creation with
  | none => self
  | some type =>
    let builder := (self.batch.get type).getD .new
    let (builder, added) := builder.add render now creation node.node_id_str data_value
    { self with
      batch := self.batch.insert type builder
      pending_series := if added then self.pending_series + 1 else self.pending_series }

/-- Publish one event of a node, unless its text is still the one published last. -/
def acceptEvent (self : Publisher) (creation : mapping.model.EventCreation) (node : ResolvedNode)
    (data_value : DataValue) : Publisher × List Publish :=
  match creation.type with
  | none => (self, [])
  | some type =>
    let body := event render now creation node.node_id_str data_value
    let message := TedgeMqtt.publish_event self.entity type body
    if self.dedup_events then
      let text := ((body.get "text").bind Value.as_str).getD ""
      let key : NodeType := toLex (node.node_id_str, type)
      if self.last_event.get key = some text then (self, [])
      else ({ self with last_event := self.last_event.insert key text }, [message])
    else (self, [message])

/-- Raise or clear one alarm of a node. Only transitions are published. -/
def acceptAlarm (self : Publisher) (creation : mapping.model.AlarmCreation) (node : ResolvedNode)
    (data_value : DataValue) : Publisher × List Publish :=
  match creation.type, data_value.value.bind as_bool with
  | some type, some active =>
    let key : NodeType := toLex (node.node_id_str, type)
    if self.last_alarm.get key = some active then (self, [])
    else
      let message :=
        if active then
          TedgeMqtt.raise_alarm self.entity type (alarm render now creation node.node_id_str data_value)
        else TedgeMqtt.clear_alarm self.entity type
      ({ self with last_alarm := self.last_alarm.insert key active }, [message])
  | _, _ => (self, [])

def acceptAction (self : Publisher) (node : ResolvedNode) (data_value : DataValue) :
    Action → Publisher × List Publish
  | .Measurement creation => (self.acceptMeasurement render now creation node data_value, [])
  | .Event creation => self.acceptEvent render now creation node data_value
  | .Alarm creation => self.acceptAlarm render now creation node data_value

/-- The actions of a node in order, each under its own reading of the clock. -/
def acceptActions (render : Rendering) (node : ResolvedNode) (data_value : DataValue) :
    Publisher → List Action → (Nat → DateTime) → Publisher × List Publish
  | self, [], _ => (self, [])
  | self, action :: rest, clock =>
    let (next, first) := self.acceptAction render (clock 0) node data_value action
    let (last, others) := acceptActions render node data_value next rest fun i => clock (i + 1)
    (last, first ++ others)

/-- Handle one value: batch its measurements, publish its events and alarms. -/
def accept (clock : Nat → DateTime) (self : Publisher) (node : ResolvedNode) (data_value : DataValue) :
    Publisher × List Publish :=
  if is_bad data_value then (self, [])
  else acceptActions render node data_value self node.actions clock

/-- Publish every batched measurement, one message per measurement type. -/
def flush (self : Publisher) : Publisher × List Publish :=
  ({ self with pending_series := 0, batch := .empty },
    self.batch.entries.filterMap fun (type, builder) =>
      (builder.build render now).map (TedgeMqtt.publish_measurement self.entity type))

end Publisher

/-- Publish the retained `m/<type>/meta` topics declaring each series' unit, for one device. -/
def publish_units (entity : EntityTopicId) (mapping : ResolvedMapping) : List Publish :=
  mapping.measurement_units.entries.filterMap fun (type, series) =>
    (measurement_meta series).map (TedgeMqtt.publish_measurement_meta entity type)

end gateway.publish
