import OpcuaGateway.Mapping.Namespace

open mapping.namespace_table

namespace opcua_conn

inductive ConnError where
  | Request
  | NoNamespaceArray
  | ConnectTimeout
  | InvalidRange (range : String)
  deriving DecidableEq

inductive MessageSecurityMode where
  | None
  | SignAndEncrypt
  deriving DecidableEq

structure Credentials where
  user : String
  password : String
  deriving DecidableEq

/-- How to reach and authenticate against one OPC UA server. -/
structure ServerEndpoint where
  /-- Server id as used in device types. -/
  id : String
  url : String
  security_policy : String
  message_security_mode : MessageSecurityMode
  user : Option Credentials
  deriving DecidableEq

/-- The identity a session is activated with. -/
inductive IdentityToken where
  | Anonymous
  | UserName (user password : String)
  deriving DecidableEq

/-- The identity that `connect` asks for. -/
def ServerEndpoint.identity (endpoint : ServerEndpoint) : IdentityToken :=
  match endpoint.user with
  | some credentials => .UserName credentials.user credentials.password
  | none => .Anonymous

/-- `remaining_path_index` value a server reports for a fully resolved browse path. -/
def PATH_FULLY_RESOLVED : Nat := 2 ^ 32 - 1

/-- A browse path target; its NodeId may name its namespace by URI. -/
structure BrowsePathTarget where
  namespace_uri : String
  node_id : NodeId
  remaining_path_index : Nat
  deriving DecidableEq

structure BrowsePathResult where
  is_good : Bool
  targets : List BrowsePathTarget
  deriving DecidableEq

/-- The answers of a live session. The namespace array is missing when the server
returns some other value for it. -/
structure Session where
  read_namespace_array : Except ConnError (Option (List String))
  translate_browse_paths_to_node_ids :
    NodeId → List (List QualifiedName) → Except ConnError (List BrowsePathResult)

/-- Read `Server_NamespaceArray`. -/
def namespace_array (session : Session) : Except ConnError (List String) :=
  match session.read_namespace_array with
  | .ok (some uris) => .ok uris
  | .ok none => .error .NoNamespaceArray
  | .error error => .error error

/-- A target NodeId is only usable when the server expressed it by namespace index. -/
def to_node_id (target : BrowsePathTarget) : Option NodeId :=
  if target.namespace_uri = "" then some target.node_id else none

/-- The first fully resolved target of one browse path. -/
def resolvedTarget (result : BrowsePathResult) : Option NodeId :=
  if result.is_good then
    (result.targets.find? fun target => target.remaining_path_index == PATH_FULLY_RESOLVED).bind to_node_id
  else none

/-- Resolve browse paths below `root` in a single request, positionally aligned
with `paths`. -/
def translate_browse_paths (session : Session) (root : NodeId) (paths : List (List QualifiedName)) :
    Except ConnError (List (Option NodeId)) :=
  if paths.isEmpty then .ok []
  else
    (session.translate_browse_paths_to_node_ids root paths).map fun results =>
      paths.zipIdx.map fun (_, i) => results[i]?.bind resolvedTarget

end opcua_conn
