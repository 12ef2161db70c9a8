import OpcuaGateway.Foundation.Json
import OpcuaGateway.Tedge.Topic

open json tedge.topic

namespace tedge.mqtt

def SERVICE_TYPE : String := "service"
def OPCUA_SERVER_ENTITY_TYPE : String := "opcua-server"
def OPCUA_DEVICE_ENTITY_TYPE : String := "opcua-device"
def GATEWAY_MO_TYPE : String := "c8y_OPCUA_Device_Agent"
def OPCUA_SERVER_MO_TYPE : String := "c8y_OpcuaServer"
def OPCUA_DEVICE_MO_TYPE : String := "c8y_OpcuaDevice"
def C8Y_OPERATION_TOPIC : String := "c8y/devicecontrol/notifications"

def smartrest_topic (external_id : String) : String := "c8y/s/us/" ++ external_id

structure MqttConfig where
  host : String
  port : Nat
  client_id : String
  /-- Bound on in-flight publishes; also the point at which publishing back-pressures. -/
  capacity : Nat
  keep_alive_secs : Nat
  service_name : String
  deriving DecidableEq

/-- A published body: a serialized JSON tree, or bytes written as they are. -/
inductive Payload where
  | json (value : Value)
  | bytes (text : String)
  deriving DecidableEq

/-- A publish at QoS 1. -/
structure Publish where
  topic : String
  payload : Payload
  retain : Bool
  deriving DecidableEq

/-- What the client puts into its request queue. -/
inductive Request where
  | publish (message : Publish)
  | subscribe (topic : String)
  deriving DecidableEq

/-- The publisher for the `te/` topics. The queue it writes to belongs to the
event loop. -/
structure TedgeMqtt where
  service : EntityTopicId
  deriving DecidableEq

namespace TedgeMqtt

def new (config : MqttConfig) : TedgeMqtt := ⟨.main_service config.service_name⟩

/-- The last will given to the broker at connection time. -/
def last_will (config : MqttConfig) : Publish where
  topic := (EntityTopicId.main_service config.service_name).channel_topic "status/health"
  payload := .json (.ofMembers [("status", .string "down")])
  retain := true

def register_service (self : TedgeMqtt) : Publish where
  topic := self.service.registration_topic
  payload := .json (.ofMembers [
    ("@type", .string SERVICE_TYPE),
    ("@parent", .string EntityTopicId.main_device.as_str),
    ("name", .string (text.afterLast '/' self.service.as_str)),
    ("type", .string "systemd")])
  retain := true

def register_child_device (entity parent : EntityTopicId) (name type : String)
    (external_id : Option String) : Publish where
  topic := entity.registration_topic
  payload := .json (.ofMembers ([
    ("@type", .string "child-device"),
    ("@parent", .string parent.as_str),
    ("name", .string name),
    ("type", .string type)] ++ external_id.toList.map fun id => ("@id", .string id)))
  retain := true

def publish_twin (entity : EntityTopicId) (fragment : String) (payload : Value) : Publish :=
  ⟨entity.channel_topic ("twin/" ++ fragment), .json payload, true⟩

/-- Remove a twin fragment: an empty payload, retained. -/
def clear_twin (entity : EntityTopicId) (fragment : String) : Publish :=
  ⟨entity.channel_topic ("twin/" ++ fragment), .bytes "", true⟩

def publish_smartrest (external_id record : String) : Publish :=
  ⟨smartrest_topic external_id, .bytes record, false⟩

/-- Health `up`, retained. The process id and the clock are readings of the
moment it is published. -/
def publish_health_up (self : TedgeMqtt) (pid unix_time : Nat) : Publish where
  topic := self.service.channel_topic "status/health"
  payload := .json (.ofMembers [
    ("status", .string "up"),
    ("pid", .number (.PosInt pid)),
    ("time", .number (.PosInt unix_time))])
  retain := true

def publish_measurement (entity : EntityTopicId) (type : String) (payload : Value) : Publish :=
  ⟨entity.channel_topic ("m/" ++ type), .json payload, false⟩

/-- Retained `m/<type>/meta`, declaring the unit of each series. -/
def publish_measurement_meta (entity : EntityTopicId) (type : String) (payload : Value) : Publish :=
  ⟨entity.channel_topic ("m/" ++ type ++ "/meta"), .json payload, true⟩

def publish_event (entity : EntityTopicId) (type : String) (payload : Value) : Publish :=
  ⟨entity.channel_topic ("e/" ++ type), .json payload, false⟩

def raise_alarm (entity : EntityTopicId) (type : String) (payload : Value) : Publish :=
  ⟨entity.channel_topic ("a/" ++ type), .json payload, false⟩

/-- Clear an alarm: an empty payload, retained. -/
def clear_alarm (entity : EntityTopicId) (type : String) : Publish :=
  ⟨entity.channel_topic ("a/" ++ type), .bytes "", true⟩

end TedgeMqtt

/-- The client library, as far as the calls of `TedgeMqtt` see it while its event loop
runs: it takes a message for its queue, or refuses the topic with an error. -/
structure Client where
  takes : (topic : String) → Bool

namespace Client

/-- What the client takes of the messages it is called with. -/
def taken (client : Client) (messages : List Publish) : List Publish :=
  messages.filter fun message => client.takes message.topic

@[simp] theorem taken_nil (client : Client) : client.taken [] = [] := rfl

theorem taken_cons (client : Client) (message : Publish) (messages : List Publish) :
    client.taken (message :: messages) =
      if client.takes message.topic then message :: client.taken messages else client.taken messages :=
  List.filter_cons

@[simp] theorem taken_append (client : Client) (first second : List Publish) :
    client.taken (first ++ second) = client.taken first ++ client.taken second :=
  List.filter_append ..

theorem mem_taken {client : Client} {message : Publish} {messages : List Publish} :
    message ∈ client.taken messages ↔ message ∈ messages ∧ client.takes message.topic = true :=
  List.mem_filter

/-- The topic check of the library: a message goes to one topic, so there is no
wildcard in it. -/
def checking : Client where
  takes topic := !topic.toList.contains '+' && !topic.toList.contains '#'

end Client

end tedge.mqtt
