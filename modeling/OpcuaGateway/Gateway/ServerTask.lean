import OpcuaGateway.Gateway.Config
import OpcuaGateway.Mapping.Constraints
import OpcuaGateway.Mapping.Resolve
import OpcuaGateway.Mapping.Source
import OpcuaGateway.OpcuaConn.Connection

open text tedge.topic mapping.model mapping.namespace_table mapping.resolve mapping.source gateway.config opcua_conn

namespace gateway.server_task

/-- A device type applied to a server, and the thin-edge device it publishes as. -/
structure AppliedDeviceType where
  entity : EntityTopicId
  name : String
  mapping : ResolvedMapping
  deriving DecidableEq

/-- The thin-edge device of a device type below a server. -/
def deviceEntity (server : ServerConfig) (device_type_id : String) : EntityTopicId :=
  .child_device (server.topic_id ++ "-" ++ sanitize_id device_type_id)

/-- The identifier of such a device has no separator. -/
theorem deviceEntity_no_separator (server : ServerConfig) (device_type_id : String) :
    '/' ∉ (server.topic_id ++ "-" ++ sanitize_id device_type_id).toList := by
  have hserver : '/' ∉ server.topic_id.toList := sanitize_id_no_separator _
  have hdevice : '/' ∉ (sanitize_id device_type_id).toList := sanitize_id_no_separator _
  simp [String.toList_append, hserver, hdevice]

/-- Build the device for one resolved device type below `server`. -/
def AppliedDeviceType.new (server : ServerConfig) (mapping : ResolvedMapping) : AppliedDeviceType where
  entity := deviceEntity server mapping.device_type_id
  name :=
    (if isBlank mapping.device_type_name then mapping.device_type_id else mapping.device_type_name) ++
      " (" ++ mapping.root_node_id ++ ")"
  mapping := mapping

/-- The thin-edge device of a server. -/
def serverEntity (server : ServerConfig) : EntityTopicId := .child_device server.topic_id

section Resolve

variable (codec : TextCodec) (session : Session)

/-- Fill in the NodeIds a translation has found. -/
def setAllResolved (plan : Plan) (found : List ((Nat × List QualifiedName) × Option NodeId)) : Plan :=
  found.foldl (fun plan entry =>
    match entry.2 with
    | some node_id => plan.set_resolved entry.1.1 node_id
    | none => plan) plan

/-- Resolve the browse paths of a plan that still need it. -/
def translatePending (plan : Plan) : Except ConnError Plan :=
  let pending := plan.pending_paths
  if pending.isEmpty then .ok plan
  else
    (translate_browse_paths session plan.root_node_id (pending.map Prod.snd)).map fun resolved =>
      setAllResolved plan (pending.zip resolved)

/-- Resolve one device type. Nothing comes out when it cannot be planned or none of
its entries resolves. -/
def resolveDeviceType (table : NamespaceTable) (loaded : LoadedDeviceType) :
    Except ConnError (Option ResolvedMapping) :=
  match plan codec loaded.id loaded.device_type table with
  | .error _ => .ok none
  | .ok plan =>
    (translatePending session plan).map fun plan =>
      let mapping := plan.finish codec
      if mapping.nodes.isEmpty then none else some mapping

/-- The local allow-list is checked before the constraints. -/
def isApplicable (server : ServerConfig) (known_server_ids : List String) (table : NamespaceTable)
    (loaded : LoadedDeviceType) : Bool :=
  server.accepts_device_type loaded.id &&
    mapping.constraints.applies codec loaded.device_type server.id known_server_ids table

/-- The mappings of the applicable device types, in order. The first request that
fails ends the resolution. -/
def resolveEach (server : ServerConfig) (known_server_ids : List String) (table : NamespaceTable) :
    List LoadedDeviceType → Except ConnError (List ResolvedMapping)
  | [] => .ok []
  | loaded :: rest =>
    if !isApplicable codec server known_server_ids table loaded then
      resolveEach server known_server_ids table rest
    else
      match resolveDeviceType codec session table loaded with
      | .error error => .error error
      | .ok none => resolveEach server known_server_ids table rest
      | .ok (some mapping) =>
        (resolveEach server known_server_ids table rest).map fun mappings => mapping :: mappings

/-- Resolve every applicable device type against a live session. -/
def resolve_all (server : ServerConfig) (known_server_ids : List String)
    (device_types : List LoadedDeviceType) : Except ConnError (List ResolvedMapping) :=
  match namespace_array session with
  | .error error => .error error
  | .ok uris => resolveEach codec session server known_server_ids ⟨uris⟩ device_types

end Resolve

end gateway.server_task
