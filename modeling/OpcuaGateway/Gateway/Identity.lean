import OpcuaGateway.Gateway.Main
import OpcuaGateway.Gateway.ServerTask
import OpcuaGateway.Gateway.Supervisor
import OpcuaGateway.Tedge.Topic.Words

open tedge.topic gateway.config gateway.supervisor gateway.server_task

set_option linter.dupNamespace false

namespace gateway.identity

/-- Everything this gateway addresses as a device of its own. -/
inductive Entity where
  | mainDevice
  | gatewayDevice
  | server (s : ServerConfig)
  | device (s : ServerConfig) (device_type_id : String)
  deriving DecidableEq

/-- The topic id an entity is registered and published under. -/
def Entity.topicId (config : Config) : Entity → EntityTopicId
  | .mainDevice => .main_device
  | .gatewayDevice => gateway_device.entity config.gateway
  | .server s => serverEntity s
  | .device s device_type_id => deviceEntity s device_type_id

/-- The words of the name that is authored for a server. -/
def serverWords (server : ServerConfig) : List (List Char) := nameWords (server.topic_id_override.getD server.name)

/-- The words of an entity's authored names: a device has those of its server and
those of its device type. -/
def Entity.words (config : Config) : Entity → List (List Char)
  | .mainDevice => ["main".toList]
  | .gatewayDevice => nameWords config.gateway.id
  | .server s => serverWords s
  | .device s device_type_id => serverWords s ++ nameWords device_type_id

section Distinct

variable (config : Config) (servers : List ServerConfig) (applied : ServerConfig → List String)

/-- The entities of a gateway that runs these servers, each with these device types. -/
def Present : Entity → Prop
  | .mainDevice => True
  | .gatewayDevice => config.gateway.enabled = true
  | .server server => server ∈ servers
  | .device server device_type_id => server ∈ servers ∧ device_type_id ∈ applied server

/-- The authored names differ as words do, whatever is written between the words and in
whatever case. -/
structure DistinctNames : Prop where
  gatewayMain : config.gateway.enabled = true → nameWords config.gateway.id ≠ ["main".toList]
  serverMain : ∀ server ∈ servers, serverWords server ≠ ["main".toList]
  serverGateway : config.gateway.enabled = true → ∀ server ∈ servers,
    serverWords server ≠ nameWords config.gateway.id
  serverNames : ∀ server ∈ servers, ∀ other ∈ servers, serverWords server = serverWords other → server = other
  deviceTypeNames : ∀ server ∈ servers, ∀ id ∈ applied server, ∀ other ∈ applied server,
    nameWords id = nameWords other → id = other
  /-- The gateway's name is not that of a server with a device type behind it. -/
  deviceGateway : config.gateway.enabled = true → ∀ server ∈ servers, ∀ id ∈ applied server,
    nameWords config.gateway.id ≠ serverWords server ++ nameWords id
  /-- Nor is the name of a server. -/
  deviceServer : ∀ server ∈ servers, ∀ id ∈ applied server, ∀ other ∈ servers,
    serverWords other ≠ serverWords server ++ nameWords id
  /-- Where a server's name starts with the name of another, what is left of it does not
  start a device type of that other one. -/
  overlap : ∀ server ∈ servers, ∀ id ∈ applied server, ∀ other ∈ servers, ∀ id' ∈ applied other,
    ∀ middle, middle ≠ [] → serverWords other = serverWords server ++ middle →
      nameWords id ≠ middle ++ nameWords id'

end Distinct

variable {config : Config} {servers : List ServerConfig} {applied : ServerConfig → List String}

theorem topic_id_eq_join (server : ServerConfig) : server.topic_id = joinWords (serverWords server) :=
  sanitize_id_eq_join _

/-- The topic id of an entity is made of its words. -/
theorem topicId_eq (entity : Entity) : entity.topicId config = .child_device (joinWords (entity.words config)) := by
  cases entity with
  | mainDevice => rfl
  | gatewayDevice => exact congrArg EntityTopicId.child_device (sanitize_id_eq_join _)
  | server s => exact congrArg EntityTopicId.child_device (topic_id_eq_join s)
  | device s device_type_id =>
    have hdevice : s.topic_id ++ "-" ++ sanitize_id device_type_id =
        joinWords (serverWords s ++ nameWords device_type_id) := by
      rw [@joinWords_append (serverWords s) _ (nameWords_ne_nil _) (nameWords_ne_nil _), ← topic_id_eq_join,
        ← sanitize_id_eq_join]
    exact congrArg EntityTopicId.child_device hdevice

theorem words_ne_nil (entity : Entity) : entity.words config ≠ [] := by
  cases entity with
  | mainDevice => exact List.cons_ne_nil _ _
  | gatewayDevice => exact nameWords_ne_nil _
  | server s => exact nameWords_ne_nil _
  | device s device_type_id => exact List.append_ne_nil_of_left_ne_nil (nameWords_ne_nil _) _

theorem dash_notMem_words (entity : Entity) : ∀ word ∈ entity.words config, '-' ∉ word := by
  intro word hmem
  cases entity with
  | mainDevice =>
    rw [List.mem_singleton.mp hmem]
    decide
  | gatewayDevice => exact dash_notMem_nameWords hmem
  | server s => exact dash_notMem_nameWords hmem
  | device s device_type_id =>
    rcases List.mem_append.mp hmem with hmem | hmem
    · exact dash_notMem_nameWords hmem
    · exact dash_notMem_nameWords hmem

theorem topicId_eq_iff {entity other : Entity} :
    entity.topicId config = other.topicId config ↔ entity.words config = other.words config := by
  rw [topicId_eq, topicId_eq, EntityTopicId.child_device_inj,
    joinWords_inj (words_ne_nil _) (words_ne_nil _) (dash_notMem_words _) (dash_notMem_words _)]

/-- A device has two words at least. -/
theorem device_words_ne_main (server : ServerConfig) (id : String) :
    serverWords server ++ nameWords id ≠ ["main".toList] := by
  intro h
  have hserver : 0 < (serverWords server).length := List.length_pos_iff.mpr (nameWords_ne_nil _)
  have hid : 0 < (nameWords id).length := List.length_pos_iff.mpr (nameWords_ne_nil _)
  have hlength := congrArg List.length h
  rw [List.length_append, List.length_singleton] at hlength
  omega

/-- Distinct names keep any two entities apart; this is the case of two device types,
possibly below the same server. -/
theorem DistinctNames.device_eq (h : DistinctNames config servers applied) {server other : ServerConfig}
    {id id' : String} (hserver : server ∈ servers) (hid : id ∈ applied server) (hother : other ∈ servers)
    (hid' : id' ∈ applied other) (heq : serverWords server ++ nameWords id = serverWords other ++ nameWords id') :
    Entity.device server id = Entity.device other id' := by
  by_cases hsame : serverWords server = serverWords other
  · obtain rfl := h.serverNames server hserver other hother hsame
    rw [h.deviceTypeNames server hserver id hid id' hid' (List.append_cancel_left heq)]
  · rcases List.append_eq_append_iff.mp heq with ⟨middle, hname, hsuffix⟩ | ⟨middle, hname, hsuffix⟩
    · have hmiddle : middle ≠ [] := by
        rintro rfl
        exact hsame (by simpa using hname.symm)
      exact absurd hsuffix (h.overlap server hserver id hid other hother id' hid' middle hmiddle hname)
    · have hmiddle : middle ≠ [] := by
        rintro rfl
        exact hsame (by simpa using hname)
      exact absurd hsuffix (h.overlap other hother id' hid' server hserver id hid middle hmiddle hname)

theorem DistinctNames.words_inj (h : DistinctNames config servers applied) {entity other : Entity}
    (hentity : Present config servers applied entity) (hother : Present config servers applied other)
    (heq : entity.words config = other.words config) : entity = other := by
  cases entity with
  | mainDevice =>
    cases other with
    | mainDevice => rfl
    | gatewayDevice => exact absurd heq.symm (h.gatewayMain hother)
    | server other => exact absurd heq.symm (h.serverMain other hother)
    | device other id' => exact absurd heq.symm (device_words_ne_main _ _)
  | gatewayDevice =>
    cases other with
    | mainDevice => exact absurd heq (h.gatewayMain hentity)
    | gatewayDevice => rfl
    | server other => exact absurd heq.symm (h.serverGateway hentity other hother)
    | device other id' => exact absurd heq (h.deviceGateway hentity other hother.1 id' hother.2)
  | server server =>
    cases other with
    | mainDevice => exact absurd heq (h.serverMain server hentity)
    | gatewayDevice => exact absurd heq (h.serverGateway hother server hentity)
    | server other => rw [h.serverNames server hentity other hother heq]
    | device other id' => exact absurd heq (h.deviceServer other hother.1 id' hother.2 server hentity)
  | device server id =>
    cases other with
    | mainDevice => exact absurd heq (device_words_ne_main _ _)
    | gatewayDevice => exact absurd heq.symm (h.deviceGateway hother server hentity.1 id hentity.2)
    | server other => exact absurd heq.symm (h.deviceServer server hentity.1 id hentity.2 other hother)
    | device other id' => exact h.device_eq hentity.1 hentity.2 hother.1 hother.2 heq

/-- No two entities share a topic id exactly when the words of their authored names
are distinct. Validation demands this of the ids of servers, not of their names. -/
theorem topicId_injective_iff (config : Config) (servers : List ServerConfig)
    (applied : ServerConfig → List String) :
    (∀ entity other, Present config servers applied entity → Present config servers applied other →
      entity.topicId config = other.topicId config → entity = other) ↔
      DistinctNames config servers applied := by
  simp only [topicId_eq_iff]
  refine ⟨fun hinj => ?_, fun h entity other hentity hother heq => h.words_inj hentity hother heq⟩
  constructor
  · intro henabled heq
    cases hinj .gatewayDevice .mainDevice henabled trivial heq
  · intro server hserver heq
    cases hinj (.server server) .mainDevice hserver trivial heq
  · intro henabled server hserver heq
    cases hinj (.server server) .gatewayDevice hserver henabled heq
  · intro server hserver other hother heq
    cases hinj (.server server) (.server other) hserver hother heq
    rfl
  · intro server hserver id hid other hother heq
    cases hinj (.device server id) (.device server other) ⟨hserver, hid⟩ ⟨hserver, hother⟩
      (congrArg (serverWords server ++ ·) heq)
    rfl
  · intro henabled server hserver id hid heq
    cases hinj .gatewayDevice (.device server id) henabled ⟨hserver, hid⟩ heq
  · intro server hserver id hid other hother heq
    cases hinj (.server other) (.device server id) hother ⟨hserver, hid⟩ heq
  · intro server hserver id hid other hother id' hid' middle hmiddle hname hsuffix
    have hwords : serverWords server ++ nameWords id = serverWords other ++ nameWords id' := by
      rw [hname, hsuffix, List.append_assoc]
    cases hinj (.device server id) (.device other id') ⟨hserver, hid⟩ ⟨hother, hid'⟩ hwords
    exact hmiddle (List.self_eq_append_right.mp hname)

def namedServer (id name : String) : ServerConfig where
  id := id
  name := name
  url := "opc.tcp://plc:4840"
  security_policy := "None"
  user := none
  password := none
  device_types := []
  external_id := none
  topic_id_override := none

/-- Two configured servers that differ in id but not in name. -/
def sameNameConfig : Config :=
  { Config.default with
    gateway := { GatewayConfig.default with device_id := "device" }
    servers := [namedServer "a" "Pump", namedServer "b" "Pump"] }

/-- A valid configuration whose two servers share one device. -/
theorem topicId_collision :
    ¬ ∀ config cloud applied, config.validate true = .ok () → (serverIds cloud).Nodup →
      ∀ entity other, Present config (desired config cloud) applied entity →
        Present config (desired config cloud) applied other →
        entity.topicId config = other.topicId config → entity = other := by
  intro hall
  have hvalid : sameNameConfig.validate true = .ok () := by rfl
  have hsame := hall sameNameConfig [] (fun _ => []) hvalid List.nodup_nil
    (.server (namedServer "a" "Pump")) (.server (namedServer "b" "Pump"))
    (by decide : _ ∈ desired sameNameConfig []) (by decide : _ ∈ desired sameNameConfig []) rfl
  revert hsame
  decide

end gateway.identity
