import OpcuaGateway.Gateway.CloudServers.Listing

open json tedge.proxy gateway.config

namespace gateway.cloud_servers

variable {proxy : C8yProxy} {config : Config} {responses : Responses} {gateway_mo_id : String}

/-- The external id is known to resolve to the managed object itself, where
`holder` is what the identity service has the id for when it is planted. -/
def Adoption.Sound (mo_id : String) (holder : Option String) : Adoption → Prop
  | .known => True
  | .created => ∀ other, holder = some other → other = mo_id
  | .claimed _ | .unchecked _ | .failed _ => False

/-- The answers of the identity service for a server object: its external id
resolves to the object, or it does not exist and is planted while no other object
holds it. -/
def OwnIdentity (proxy : C8yProxy) (config : Config) (responses : Responses)
    (holder : Nat → Nat → Option String) (page index : Nat) (mo_id : String) : Prop :=
  let external_id := config.gateway.server_external_id mo_id
  let lookup := proxy.managed_object_id (responses (.lookup page index)) ID_TYPE external_id
  lookup = .ok (some mo_id) ∨
    lookup = .ok none ∧
      proxy.create_external_id (responses (.create page index)) mo_id ID_TYPE external_id = .ok () ∧
      ∀ other, holder page index = some other → other = mo_id

theorem adopt_sound_iff {holder : Nat → Nat → Option String} {page index : Nat} {mo_id : String} :
    (adopt proxy config responses page index mo_id).Sound mo_id (holder page index) ↔
      OwnIdentity proxy config responses holder page index mo_id := by
  simp only [adopt, OwnIdentity]
  cases hlookup : proxy.managed_object_id (responses (.lookup page index)) ID_TYPE
      (config.gateway.server_external_id mo_id) with
  | error error => simp [Adoption.Sound]
  | ok found =>
    cases found with
    | some existing =>
      by_cases hown : existing = mo_id <;> simp [Adoption.Sound, hown]
    | none =>
      cases proxy.create_external_id (responses (.create page index)) mo_id ID_TYPE
          (config.gateway.server_external_id mo_id) <;> simp [Adoption.Sound]

/-- The external id a server is registered under belongs to its own managed object
after this poll. -/
structure SafelyAdopted (proxy : C8yProxy) (config : Config) (responses : Responses)
    (holder : Nat → Nat → Option String) (gateway_mo_id : String) (server : ServerConfig) : Prop where
  derived : server.external_id = some (config.gateway.server_external_id server.id)
  sound : ∀ page index, ReadAt proxy config responses gateway_mo_id page index server →
    (adopt proxy config responses page index server.id).Sound server.id (holder page index)

/-- A poll returns safely adopted servers only, exactly when the identity service
answers for every server object it reads that the external id is its own. The
outcome of an adoption does not keep a server out of the list. -/
theorem fetch_safely_adopted_iff (holder : Nat → Nat → Option String) {servers : List ServerConfig}
    (hfetch : fetch proxy config responses gateway_mo_id = .ok servers) :
    (∀ server ∈ servers, SafelyAdopted proxy config responses holder gateway_mo_id server) ↔
      ∀ page index server, ReadAt proxy config responses gateway_mo_id page index server →
        OwnIdentity proxy config responses holder page index server.id := by
  constructor
  · intro hsafe page index server hread
    have hmem := (mem_fetch hfetch server).mpr ⟨page, index, hread⟩
    exact adopt_sound_iff.mp ((hsafe server hmem).sound page index hread)
  · intro hown server hmem
    obtain ⟨page, index, hread⟩ := (mem_fetch hfetch server).mp hmem
    obtain ⟨found, reference, -, -, hchild⟩ := hread.converted
    obtain ⟨-, mo, -, -, hserver⟩ := readChild_eq_some.mp hchild
    exact ⟨(to_server_config_id hserver).2.1,
      fun page index hread => adopt_sound_iff.mpr (hown page index server hread)⟩

/-- A reference to a managed object. -/
def sampleReference (id : String) : Value :=
  .ofMembers [("managedObject", .ofMembers [("id", .string id)])]

/-- A server object without any security. -/
def sampleObject : Value :=
  .ofMembers [("type", .string SERVER_MO_TYPE),
    (CLIENT_CONFIG_FRAGMENT, .ofMembers [("serverUrl", .string "opc.tcp://plc:4840")])]

def answer (body : Value) : Endpoint := fun _ => ⟨.answered 200 (some body), .failed⟩

/-- One child of the gateway object, a server whose external id resolves to `owner`. -/
def sampleResponses (owner : String) : Responses
  | .page _ => answer (.ofMembers [("references", .array [sampleReference "42"])])
  | .object _ _ => answer sampleObject
  | .lookup _ _ => answer (sampleReference owner)
  | .gatewayObject | .create _ _ => fun _ => ⟨.answered 404 none, .failed⟩

def sampleServer : ServerConfig where
  id := "42"
  name := "42"
  url := "opc.tcp://plc:4840"
  security_policy := "None"
  user := none
  password := none
  device_types := []
  external_id := some (Config.default.gateway.server_external_id "42")
  topic_id_override := some "42"

theorem sample_fetch_safely_adopted :
    SafelyAdopted ⟨"c8y"⟩ .default (sampleResponses "42") (fun _ _ => none) "1" sampleServer := by
  have hfetch : fetch ⟨"c8y"⟩ .default (sampleResponses "42") "1" = .ok [sampleServer] := rfl
  refine (fetch_safely_adopted_iff (fun _ _ => none) hfetch).mpr ?_ sampleServer List.mem_cons_self
  intro page index server hread
  have hmem := (mem_fetch hfetch server).mpr ⟨page, index, hread⟩
  rw [List.mem_singleton.mp hmem]
  exact Or.inl rfl

/-- A server whose external id belongs to another object is returned all the same. -/
theorem fetch_returns_claimed_server :
    ¬ ∀ servers, fetch ⟨"c8y"⟩ .default (sampleResponses "7") "1" = .ok servers →
      ∀ server ∈ servers,
        SafelyAdopted ⟨"c8y"⟩ .default (sampleResponses "7") (fun _ _ => some "7") "1" server := by
  intro hall
  have hfetch : fetch ⟨"c8y"⟩ .default (sampleResponses "7") "1" = .ok [sampleServer] := rfl
  have hsafe := hall _ hfetch sampleServer (by simp)
  obtain ⟨page, index, hread⟩ := (mem_fetch hfetch sampleServer).mp (by simp)
  exact hsafe.sound page index hread

end gateway.cloud_servers
