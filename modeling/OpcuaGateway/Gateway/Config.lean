import OpcuaGateway.Foundation.Result
import OpcuaGateway.Tedge.Mqtt

open text tedge.topic

set_option linter.dupNamespace false

namespace gateway.config

/-- The Cumulocity gateway device. -/
structure GatewayConfig where
  enabled : Bool
  /-- Topic-id segment of the gateway child device, and half of its external id. -/
  id : String
  name : String
  /-- thin-edge device id, the other half of every external id this gateway derives. -/
  device_id : String
  server_poll_interval_secs : Nat
  supported_operations : List String
  deriving DecidableEq

def GatewayConfig.default : GatewayConfig where
  enabled := true
  id := "opcua-gateway"
  name := "OPC UA Gateway"
  device_id := ""
  server_poll_interval_secs := 60
  supported_operations := ["c8y_OpcuaConfiguration"]

/-- External id of the gateway device, in thin-edge's own `<device>:device:<child>` shape. -/
def GatewayConfig.external_id (self : GatewayConfig) : String :=
  self.device_id ++ ":device:" ++ self.id

/-- External id for a server object adopted below this gateway, keyed by managed
object id because a name can be edited at any time. -/
def GatewayConfig.server_external_id (self : GatewayConfig) (mo_id : String) : String :=
  self.device_id ++ ":device:" ++ self.id ++ ":device:" ++ mo_id

structure RuntimeConfig where
  worker_threads : Nat
  connect_timeout_secs : Nat
  /-- Backoff cap for reconnect attempts and for device-type retries. -/
  max_backoff_secs : Nat
  deriving DecidableEq

def RuntimeConfig.default : RuntimeConfig := ⟨2, 30, 60⟩

structure ProxyConfig where
  enabled : Bool
  poll_interval_secs : Nat
  /-- Restrict the fetch to these managed object ids; empty means every device type. -/
  device_type_ids : List String
  deriving DecidableEq

def ProxyConfig.default : ProxyConfig := ⟨true, 60, []⟩

structure SubscriptionConfig where
  publishing_interval_ms : Nat
  lifetime_count : Nat
  max_keep_alive_count : Nat
  max_notifications_per_publish : Nat
  priority : Nat
  default_queue_size : Nat
  /-- Bound on undelivered notifications. -/
  channel_capacity : Nat
  /-- Batched measurements are flushed at least this often. -/
  flush_interval_ms : Nat
  /-- …and immediately once this many series are waiting. -/
  flush_max_series : Nat
  deriving DecidableEq

def SubscriptionConfig.default : SubscriptionConfig := ⟨100, 600, 200, 500, 0, 10, 4096, 1000, 200⟩

structure MappingsConfig where
  dir : String
  deriving DecidableEq

def SERVERS_SUBDIR : String := "servers"

structure ServerConfig where
  /-- Free-form local identifier, compared against `matchesServerIds`. -/
  id : String
  /-- thin-edge child device topic id and display name. -/
  name : String
  url : String
  security_policy : String
  user : Option String
  password : Option String
  /-- Device type ids allowed on this server; empty accepts every applicable one. -/
  device_types : List String
  /-- Set only for a server adopted from a managed object. -/
  external_id : Option String
  /-- Topic-id segment override, again only for an adopted server. -/
  topic_id_override : Option String
  deriving DecidableEq

/-- Topic-id segment of this server's thin-edge entity. -/
def ServerConfig.topic_id (self : ServerConfig) : String :=
  sanitize_id (self.topic_id_override.getD self.name)

def ServerConfig.is_adopted (self : ServerConfig) : Bool := self.external_id.isSome

def ServerConfig.accepts_device_type (self : ServerConfig) (device_type_id : String) : Bool :=
  self.device_types.isEmpty || self.device_types.any fun allowed => trim allowed == device_type_id

structure Config where
  runtime : RuntimeConfig
  mqtt : tedge.mqtt.MqttConfig
  proxy : ProxyConfig
  subscription : SubscriptionConfig
  mappings : MappingsConfig
  gateway : GatewayConfig
  servers : List ServerConfig
  deriving DecidableEq

def Config.default : Config where
  runtime := .default
  mqtt := ⟨"127.0.0.1", 1883, "c8y-opcua-gateway", 1024, 60, "opcua-gateway"⟩
  proxy := .default
  subscription := .default
  mappings := ⟨"/etc/tedge/opcua"⟩
  gateway := .default
  servers := []

/-- The largest delay between two attempts, in seconds. -/
def Config.max_backoff (self : Config) : Nat := self.runtime.max_backoff_secs

def Config.server_poll_interval (self : Config) : Nat := max self.gateway.server_poll_interval_secs 1

/-- Why a configuration is rejected. -/
inductive ConfigError where
  | noServers
  | gatewayIdEmpty
  | gatewayDeviceIdEmpty
  | serverPollIntervalZero
  | workerThreadsZero
  | channelCapacityZero
  | publishingIntervalZero
  | flushIntervalZero
  | serverIdEmpty
  | duplicateId (id : String)
  | urlScheme (id url : String)
  | serverNameEmpty (id : String)
  | securityPolicy (id policy : String)
  | noMappingSource
  deriving DecidableEq

/-- The text of the error; `debug` renders a string the way `{:?}` does. -/
def ConfigError.message (debug : String → String) (dir : String) : ConfigError → String
  | .noServers =>
    "no OPC UA servers configured and gateway.enabled is false, so no server can ever arrive: " ++
      "add a [[servers]] entry, a file in " ++ dir ++ "/" ++ SERVERS_SUBDIR ++
      ", or enable the gateway device"
  | .gatewayIdEmpty => "gateway.id must not be empty: it is half of the gateway's external id"
  | .gatewayDeviceIdEmpty =>
    "gateway.device_id must not be empty when the gateway device is enabled"
  | .serverPollIntervalZero => "gateway.server_poll_interval_secs must be greater than zero"
  | .workerThreadsZero => "runtime.worker_threads must be at least 1"
  | .channelCapacityZero => "subscription.channel_capacity must be at least 1"
  | .publishingIntervalZero => "subscription.publishing_interval_ms must be greater than zero"
  | .flushIntervalZero => "subscription.flush_interval_ms must be greater than zero"
  | .serverIdEmpty => "every server needs a non-empty id"
  | .duplicateId id => "two servers share the id " ++ debug id ++ "; ids must be unique"
  | .urlScheme id url =>
    "server " ++ id ++ " has url " ++ debug url ++ ": only opc.tcp:// endpoints are supported"
  | .serverNameEmpty id => "server " ++ id ++ " needs a name for its thin-edge child device"
  | .securityPolicy id policy =>
    "server " ++ id ++ " requests security_policy " ++ debug policy ++
      ", but only \"None\" is supported: secured endpoints need an application instance " ++
      "certificate, which this gateway does not yet accept from configuration"
  | .noMappingSource =>
    "proxy.enabled is false and the mapping directory " ++ dir ++
      " does not exist, so there is no mapping source at all"

/-- Fail with an error under a condition. -/
def bailIf (condition : Bool) (error : ConfigError) : Except ConfigError Unit :=
  if condition then .error error else .ok ()

/-- The checks on each server, in order; `seen` holds the ids checked before. -/
def validateServers (seen : List String) : List ServerConfig → Except ConfigError Unit
  | [] => .ok ()
  | server :: rest => do
    bailIf (isBlank server.id) .serverIdEmpty
    bailIf (seen.contains server.id) (.duplicateId server.id)
    bailIf (!starts_with "opc.tcp://" server.url) (.urlScheme server.id server.url)
    bailIf (isBlank server.name) (.serverNameEmpty server.id)
    bailIf (!eq_ignore_ascii_case server.security_policy "None")
      (.securityPolicy server.id server.security_policy)
    validateServers (seen ++ [server.id]) rest

/-- Reject a configuration that cannot work. `dirExists` says whether the mapping
directory is there. -/
def Config.validate (self : Config) (dirExists : Bool) : Except ConfigError Unit := do
  bailIf (self.servers.isEmpty && !self.gateway.enabled) .noServers
  bailIf (self.gateway.enabled && isBlank self.gateway.id) .gatewayIdEmpty
  bailIf (self.gateway.enabled && isBlank self.gateway.device_id) .gatewayDeviceIdEmpty
  bailIf (self.gateway.enabled && self.gateway.server_poll_interval_secs == 0)
    .serverPollIntervalZero
  bailIf (self.runtime.worker_threads == 0) .workerThreadsZero
  bailIf (self.subscription.channel_capacity == 0) .channelCapacityZero
  bailIf (self.subscription.publishing_interval_ms == 0) .publishingIntervalZero
  bailIf (self.subscription.flush_interval_ms == 0) .flushIntervalZero
  validateServers [] self.servers
  bailIf (!self.proxy.enabled && !dirExists) .noMappingSource

/-- Put a server in the place of the one with its id, or behind all others. -/
def putServer (out : List ServerConfig) (server : ServerConfig) : List ServerConfig :=
  match out with
  | [] => [server]
  | existing :: rest =>
    if existing.id = server.id then server :: rest else existing :: putServer rest server

/-- Merge inline servers with pushed server files, the pushed file winning on a
shared id. -/
def merge_servers (inline pushed : List ServerConfig) : List ServerConfig :=
  pushed.foldl putServer inline

@[simp] theorem bailIf_eq_ok {condition : Bool} {error : ConfigError} {u : Unit} :
    bailIf condition error = .ok u ↔ condition = false := by
  cases condition <;> simp [bailIf]

@[simp] theorem bailIf_eq_error {condition : Bool} {error error' : ConfigError} :
    bailIf condition error = .error error' ↔ condition = true ∧ error = error' := by
  cases condition <;> simp [bailIf]

end gateway.config
