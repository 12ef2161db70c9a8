import OpcuaGateway.Gateway.Config
import OpcuaGateway.Tedge.Proxy

open json text tedge.proxy gateway.config

namespace gateway.cloud_servers

/-- Identity type used for every external id in this gateway. -/
def ID_TYPE : String := "c8y_Serial"

/-- Managed object type of a server registered on the gateway. -/
def SERVER_MO_TYPE : String := "c8y_OpcuaServer"

/-- Fragment holding the OPC UA client configuration of a server object. -/
def CLIENT_CONFIG_FRAGMENT : String := "c8y_ua_ClientConfig"

def PAGE_SIZE : Nat := 100

/-- Upper bound on pages read per poll. -/
def MAX_PAGES : Nat := 20

abbrev CloudServers := List ServerConfig

/-- A string member of an object. -/
def stringMember (key : String) (value : Value) : Option String := (value.get key).bind Value.as_str

/-- User credentials from the client configuration, if it asks for them. A
server that wants a password this gateway cannot produce must not be started. -/
def credentials (client_config : Value) : Except Unit (Option String × Option String) :=
  let mode := (stringMember "userIdentityMode" client_config).getD "Anonymous"
  if eq_ignore_ascii_case mode "anonymous" then .ok (none, none)
  else if ((client_config.get "passwordEncrypted").bind Value.as_bool).getD false then .error ()
  else
    let user := (stringMember "userName" client_config).filter fun user => !isBlank user
    let password := (stringMember "userPassword" client_config).filter (· != "")
    if user.isNone || password.isNone then .error () else .ok (user, password)

/-- The name under which a secured endpoint is not asked for. Any other mode
needs a certificate this gateway does not have. -/
def securityPolicy (client_config : Value) : Option String :=
  match stringMember "securityMode" client_config with
  | none => some "None"
  | some mode => if eq_ignore_ascii_case mode "none" then some "None" else none

/-- Convert a `c8y_OpcuaServer` object into a server this gateway can run. -/
def to_server_config (config : Config) (mo_id : String) (mo : Value) : Option ServerConfig := do
  let name := (stringMember "name" mo).getD mo_id
  let client_config ← mo.get CLIENT_CONFIG_FRAGMENT
  let url ← (stringMember "serverUrl" client_config).filter fun url => !isBlank url
  if (stringMember "targetConnectionState" client_config).any (eq_ignore_ascii_case · "disabled") then
    none
  else
    let security_policy ← securityPolicy client_config
    let (user, password) ← (credentials client_config).toOption
    some {
      id := mo_id
      name
      url
      security_policy
      user
      password
      device_types := []
      external_id := some (config.gateway.server_external_id mo_id)
      topic_id_override := some mo_id }

/-- What becomes of the external id of a server object. -/
inductive Adoption where
  | known
  | claimed (existing : String)
  | unchecked (error : ProxyError)
  | created
  | failed (error : ProxyError)
  deriving DecidableEq

/-- Where in one poll a request is sent. Every place is passed at most once. -/
inductive Place where
  | gatewayObject
  | page (page : Nat)
  | object (page index : Nat)
  | lookup (page index : Nat)
  | create (page index : Nat)

/-- The proxy as one poll meets it. -/
abbrev Responses := Place → Endpoint

section Fetch

variable (proxy : C8yProxy) (config : Config) (responses : Responses)

/-- Plant the external id that lets thin-edge address this managed object, unless
it already resolves. -/
def adopt (page index : Nat) (mo_id : String) : Adoption :=
  let external_id := config.gateway.server_external_id mo_id
  match proxy.managed_object_id (responses (.lookup page index)) ID_TYPE external_id with
  | .ok (some existing) => if existing = mo_id then .known else .claimed existing
  | .ok none =>
    match proxy.create_external_id (responses (.create page index)) mo_id ID_TYPE external_id with
    | .ok () => .created
    | .error error => .failed error
  | .error error => .unchecked error

/-- The server behind one reference of a page, if it is one that can be run. -/
def readChild (page index : Nat) (reference : Value) : Option ServerConfig := do
  let id ← C8yProxy.managedObjectId reference
  let mo ← (proxy.managed_object (responses (.object page index)) id).toOption
  if stringMember "type" mo = some SERVER_MO_TYPE then to_server_config config id mo else none

/-- The references of one page, adopting and collecting every server among them.
What the adoption came to is logged and otherwise ignored. -/
def readReferences (page : Nat) : Nat → List Value → List ServerConfig → List ServerConfig
  | _, [], out => out
  | index, reference :: rest, out =>
    match readChild proxy config responses page index reference with
    | some server =>
      let _adoption := adopt proxy config responses page index server.id
      readReferences page (index + 1) rest (out ++ [server])
    | none => readReferences page (index + 1) rest out

/-- The references of a page body; a body without them has none. -/
def references (body : Value) : List Value := ((body.get "references").bind Value.as_array).getD []

/-- One page of the children of the gateway object. -/
def readPage (gateway_mo_id : String) (page : Nat) : Except ProxyError (List Value) :=
  (proxy.child_devices (responses (.page page)) gateway_mo_id page PAGE_SIZE).map references

/-- The pages from `page` on, at most as many as the first argument says. -/
def fetchPages (gateway_mo_id : String) :
    Nat → Nat → List ServerConfig → Except ProxyError (List ServerConfig)
  | 0, _, out => .ok out
  | remaining + 1, page, out =>
    match readPage proxy responses gateway_mo_id page with
    | .error error => .error error
    | .ok found =>
      if found = [] then .ok out
      else
        let out := readReferences proxy config responses page 0 found out
        if found.length < PAGE_SIZE then .ok out
        else fetchPages gateway_mo_id remaining (page + 1) out

/-- Read every `c8y_OpcuaServer` below the gateway object and adopt it. -/
def fetch (gateway_mo_id : String) : Except ProxyError (List ServerConfig) :=
  fetchPages proxy config responses gateway_mo_id MAX_PAGES 1 []

end Fetch

/-- Fingerprint of the current server set, so an unchanged poll publishes nothing. -/
def revision_of (servers : List ServerConfig) : String :=
  String.join <| servers.map fun server =>
    server.id ++ "\u0001" ++ server.name ++ "\u0001" ++ server.url ++ "\u0001" ++
      server.security_policy ++ "\u0001" ++ server.user.getD "" ++ "\u0001" ++
      server.password.getD "" ++ "\u0002"

/-- What the provider remembers between two polls. -/
structure Provider where
  gateway_mo_id : Option String
  backoff : Nat
  revision : String
  misses : Nat
  deriving DecidableEq

def Provider.new : Provider := ⟨none, 1, "", 0⟩

/-- The state after a poll, the delay before the next one and what is sent. -/
structure Poll where
  provider : Provider
  delay : Nat
  sent : Option CloudServers
  deriving DecidableEq

section Run

variable (proxy : C8yProxy) (config : Config) (responses : Responses)

/-- Wait for the backoff and double it up to its cap. -/
def Poll.backOff (poll : Poll) : Poll :=
  { poll with
    delay := poll.provider.backoff
    provider :=
      { poll.provider with backoff := min (poll.provider.backoff * 2) config.max_backoff } }

/-- Look the gateway object up unless its id is known. -/
def lookUpGateway (provider : Provider) : Poll :=
  let poll : Poll := ⟨provider, config.server_poll_interval, none⟩
  if provider.gateway_mo_id.isSome then poll
  else
    match proxy.managed_object_id (responses .gatewayObject) ID_TYPE config.gateway.external_id with
    | .ok (some id) =>
      { poll with provider := { provider with gateway_mo_id := some id, misses := 0, backoff := 1 } }
    | .ok none =>
      { poll with provider := { provider with misses := provider.misses + 1 } }.backOff config
    | .error _ => poll.backOff config

/-- Read the servers below the gateway object `id` and send them when they changed. -/
def pollServers (poll : Poll) (id : String) : Poll :=
  match fetch proxy config responses id with
  | .ok servers =>
    let provider := { poll.provider with backoff := 1 }
    let fresh := revision_of servers
    if fresh ≠ provider.revision then
      { poll with provider := { provider with revision := fresh }, sent := some servers }
    else { poll with provider := provider }
  | .error error =>
    if error.is_transient then poll.backOff config
    else
      match error with
      | .Status _ 404 => { poll with provider := { poll.provider with gateway_mo_id := none } }
      | _ => poll

/-- One turn of the provider's loop. -/
def poll (provider : Provider) : Poll :=
  let looked := lookUpGateway proxy config responses provider
  match looked.provider.gateway_mo_id with
  | some id => pollServers proxy config responses looked id
  | none => looked

end Run

end gateway.cloud_servers
