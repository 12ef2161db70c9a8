import OpcuaGateway.Gateway.Config
import OpcuaGateway.Tedge.EventLoop

open json tedge.topic tedge.mqtt gateway.config

namespace gateway.gateway_device

def entity (gateway : GatewayConfig) : EntityTopicId := .child_device (sanitize_id gateway.id)

/-- The registration of the gateway device and its fragments, in order. -/
def register (gateway : GatewayConfig) (version : String) : List Publish :=
  TedgeMqtt.register_child_device (entity gateway) .main_device gateway.name GATEWAY_MO_TYPE
      (some gateway.external_id) ::
    [("c8y_IsDevice", Value.ofMembers []),
      ("c8y_SupportedOperations", .array (gateway.supported_operations.map .string)),
      ("c8y_Firmware", .ofMembers [
        ("name", .string "c8y-opcua-gateway-rs"),
        ("version", .string version)])].map fun fragment =>
      TedgeMqtt.publish_twin (entity gateway) fragment.1 fragment.2

end gateway.gateway_device

namespace gateway.main

/-- Bound on undelivered incoming messages. -/
def INCOMING_CAPACITY : Nat := 64

/-- The topics the event loop subscribes on every connection. -/
def subscriptions (config : Config) : List String :=
  if config.gateway.enabled then [C8Y_OPERATION_TOPIC] else []

/-- The one health message of a run. -/
def healthUp (config : Config) (pid unix_time : Nat) : Publish :=
  (TedgeMqtt.new config.mqtt).publish_health_up pid unix_time

/-- What `run` publishes before it starts any other task: the service, its health
and, when there is one, the gateway device. -/
def startupPublishes (config : Config) (pid unix_time : Nat) (version : String) : List Publish :=
  [(TedgeMqtt.new config.mqtt).register_service, healthUp config pid unix_time] ++
    if config.gateway.enabled then gateway_device.register config.gateway version else []

/-- The process with its event loop, publishing tasks and broker. -/
def machine (config : Config) (pid unix_time : Nat) (version : String) :
    transition.Machine tedge.event_loop.State tedge.event_loop.Label :=
  tedge.event_loop.machine config.mqtt INCOMING_CAPACITY (subscriptions config)
    (startupPublishes config pid unix_time version)

end gateway.main
