import OpcuaGateway.Foundation.Json

open json

namespace tedge.proxy

inductive ProxyError where
  | Client
  | ReadFile (path : String)
  | Request (url : String)
  | CloudUnreachable
  | Status (url : String) (status : Nat)
  deriving DecidableEq

/-- Whether the gateway should keep what it has and simply retry later. -/
def ProxyError.is_transient : ProxyError → Bool
  | .CloudUnreachable | .Request _ => true
  | .Status _ status => status == 401 || decide (500 ≤ status)
  | .Client | .ReadFile _ => false

inductive HttpRequest where
  | get (url : String)
  | post (url : String) (body : Value)
  deriving DecidableEq

/-- What comes back for one request: nothing, or a status with a body that may
not be JSON. -/
inductive Response where
  | failed
  | answered (status : Nat) (body : Option Value)
  deriving DecidableEq

/-- The two answers a request can get, the second one only if it is sent again. -/
structure Exchange where
  first : Response
  second : Response
  deriving DecidableEq

/-- The other end of one call: an answer to whatever request is sent. -/
abbrev Endpoint := HttpRequest → Exchange

structure C8yProxy where
  base_url : String
  deriving DecidableEq

def hexDigit (n : Nat) : Char :=
  if n < 10 then Char.ofNat ('0'.toNat + n) else Char.ofNat ('A'.toNat + n - 10)

/-- Percent-encode one path segment. -/
def urlencode (segment : String) : String :=
  String.ofList <| segment.toList.flatMap fun c =>
    if c.isAlphanum then [c]
    else (String.utf8EncodeChar c).flatMap fun byte =>
      ['%', hexDigit (byte.toNat / 16), hexDigit (byte.toNat % 16)]

example : urlencode "dev:é" = "dev%3A%C3%A9" := by decide

namespace C8yProxy

def is_success (status : Nat) : Bool := decide (200 ≤ status) && decide (status < 300)

def get_json_once (url : String) : Response → Except ProxyError Value
  | .failed => .error (.Request url)
  | .answered status body =>
    if status = 502 then .error .CloudUnreachable
    else if !is_success status then .error (.Status url status)
    else
      match body with
      | some value => .ok value
      | none => .error (.Request url)

/-- GET with the spurious 401 of the proxy retried once. -/
def get_json (endpoint : Endpoint) (url : String) : Except ProxyError Value :=
  let exchange := endpoint (.get url)
  match get_json_once url exchange.first with
  | .error (.Status _ 401) => get_json_once url exchange.second
  | other => other

def post_json_once (url : String) : Response → Except ProxyError Unit
  | .failed => .error (.Request url)
  | .answered status _ =>
    if status = 502 then .error .CloudUnreachable
    else if !is_success status then .error (.Status url status)
    else .ok ()

/-- POST with the same one-shot 401 retry as `get_json`. -/
def post_json (endpoint : Endpoint) (url : String) (body : Value) : Except ProxyError Unit :=
  let exchange := endpoint (.post url body)
  match post_json_once url exchange.first with
  | .error (.Status _ 401) => post_json_once url exchange.second
  | other => other

/-- One page of the managed objects of a type with a fragment. -/
def device_types (self : C8yProxy) (endpoint : Endpoint) (mo_type fragment_type : String)
    (page page_size : Nat) : Except ProxyError Value :=
  get_json endpoint (self.base_url ++ "/inventory/managedObjects?type=" ++ mo_type ++
    "&fragmentType=" ++ fragment_type ++ "&pageSize=" ++ toString page_size ++
    "&currentPage=" ++ toString page ++ "&withTotalPages=true")

/-- One managed object by id. -/
def managed_object (self : C8yProxy) (endpoint : Endpoint) (id : String) : Except ProxyError Value :=
  get_json endpoint (self.base_url ++ "/inventory/managedObjects/" ++ id)

/-- One page of an object's child devices. -/
def child_devices (self : C8yProxy) (endpoint : Endpoint) (id : String) (page page_size : Nat) :
    Except ProxyError Value :=
  get_json endpoint (self.base_url ++ "/inventory/managedObjects/" ++ id ++
    "/childDevices?pageSize=" ++ toString page_size ++ "&currentPage=" ++ toString page ++
    "&withTotalPages=true")

/-- The id below `managedObject`, as references and identities carry it. -/
def managedObjectId (value : Value) : Option String :=
  ((value.get "managedObject").bind fun mo => mo.get "id").bind Value.as_str

/-- Resolve an external id to a managed object id, or `none` when it does not exist. -/
def managed_object_id (self : C8yProxy) (endpoint : Endpoint) (id_type external_id : String) :
    Except ProxyError (Option String) :=
  match get_json endpoint
      (self.base_url ++ "/identity/externalIds/" ++ id_type ++ "/" ++ urlencode external_id) with
  | .ok value => .ok (managedObjectId value)
  | .error (.Status _ 404) => .ok none
  | .error error => .error error

/-- Plant an external id on an existing managed object. A 409 counts as success,
whichever object already holds the id. -/
def create_external_id (self : C8yProxy) (endpoint : Endpoint) (mo_id id_type external_id : String) :
    Except ProxyError Unit :=
  match post_json endpoint (self.base_url ++ "/identity/globalIds/" ++ mo_id ++ "/externalIds")
      (.ofMembers [("type", .string id_type), ("externalId", .string external_id)]) with
  | .ok () | .error (.Status _ 409) => .ok ()
  | .error error => .error error

end C8yProxy

end tedge.proxy
