import OpcuaGateway.Gateway.Supervisor.Admission
import OpcuaGateway.OpcuaConn.Connection

open json text ordered_map tedge.proxy opcua_conn gateway.config gateway.cloud_servers

namespace gateway.config

/-- The endpoint that a server task connects to. -/
def ServerConfig.endpoint (self : ServerConfig) : ServerEndpoint where
  id := self.id
  url := self.url
  security_policy := self.security_policy
  message_security_mode :=
    if eq_ignore_ascii_case self.security_policy "None" then .None else .SignAndEncrypt
  user :=
    match self.user, self.password with
    | some user, some password => some ⟨user, password⟩
    | _, _ => none

end gateway.config

namespace gateway.supervisor

/-- The client configuration has an identity mode other than the anonymous one. -/
def AsksForUser (client_config : Value) : Prop :=
  ∃ mode, stringMember "userIdentityMode" client_config = some mode ∧ eq_ignore_ascii_case mode "anonymous" = false

/-- The client configuration supplies this user and this password, and the password is
readable. -/
structure Supplies (client_config : Value) (user password : String) : Prop where
  user_name : stringMember "userName" client_config = some user
  user_present : isBlank user = false
  user_password : stringMember "userPassword" client_config = some password
  password_present : password ≠ ""
  readable : client_config.get "passwordEncrypted" ≠ some (.bool true)

section Credentials

variable {client_config : Value}

theorem credentials_of_anonymous (h : ¬ AsksForUser client_config) : credentials client_config = .ok (none, none) := by
  have hmode : eq_ignore_ascii_case ((stringMember "userIdentityMode" client_config).getD "Anonymous") "anonymous" =
      true := by
    cases hmode : stringMember "userIdentityMode" client_config with
    | none => decide
    | some mode =>
      by_contra hother
      exact h ⟨mode, hmode, Bool.eq_false_iff.mpr hother⟩
  rw [credentials]
  exact if_pos hmode

/-- Where a user is asked for, the credentials are those of the configuration, whole. -/
theorem credentials_eq_ok_iff (h : AsksForUser client_config) {found : Option String × Option String} :
    credentials client_config = .ok found ↔
      ∃ user password, Supplies client_config user password ∧ found = (some user, some password) := by
  obtain ⟨mode, hmode, hother⟩ := h
  have hask : eq_ignore_ascii_case ((stringMember "userIdentityMode" client_config).getD "Anonymous") "anonymous" =
      false := by
    rw [hmode]
    exact hother
  have hencrypted : ((client_config.get "passwordEncrypted").bind Value.as_bool).getD false = true ↔
      client_config.get "passwordEncrypted" = some (.bool true) := by
    cases hget : client_config.get "passwordEncrypted" with
    | none => simp
    | some value => cases value <;> simp [Value.as_bool]
  simp only [credentials, hask, Bool.false_eq_true, if_false]
  by_cases hunreadable : client_config.get "passwordEncrypted" = some (.bool true)
  · rw [if_pos (hencrypted.mpr hunreadable)]
    constructor
    · intro h
      cases h
    · rintro ⟨user, password, hsupplies, -⟩
      exact absurd hunreadable hsupplies.readable
  · rw [if_neg (mt hencrypted.mp hunreadable)]
    constructor
    · intro h
      cases huser : (stringMember "userName" client_config).filter fun user => !isBlank user with
      | none => simp [huser] at h
      | some user =>
        cases hpassword : (stringMember "userPassword" client_config).filter (· != "") with
        | none => simp [huser, hpassword] at h
        | some password =>
          obtain ⟨huser', hpresent⟩ := Option.filter_eq_some_iff.mp huser
          obtain ⟨hpassword', hpassworded⟩ := Option.filter_eq_some_iff.mp hpassword
          have hfound : found = (some user, some password) := by simpa [huser, hpassword] using h.symm
          exact ⟨user, password, ⟨huser', by simpa using hpresent, hpassword', by simpa using hpassworded,
            hunreadable⟩, hfound⟩
    · rintro ⟨user, password, hsupplies, rfl⟩
      simp [hsupplies.user_name, hsupplies.user_present, hsupplies.user_password, hsupplies.password_present]

/-- The credentials of a server that is made from an object are those found in its client
configuration. -/
theorem credentials_of_to_server_config {config : Config} {mo_id : String} {mo : Value} {server : ServerConfig}
    (h : to_server_config config mo_id mo = some server) :
    ∃ client_config, mo.get CLIENT_CONFIG_FRAGMENT = some client_config ∧
      credentials client_config = .ok (server.user, server.password) := by
  obtain ⟨client_config, hconverts⟩ := to_server_config_eq_some_iff.mp h
  exact ⟨client_config, hconverts.fragment, hconverts.credentials⟩

end Credentials

/-- A task runs a server of the configuration or one that has been sent. -/
theorem running_origin {config : Config} {history : List (List ServerConfig)} {id : String} {task : Running}
    (h : (run config history).get id = some task) :
    task.server ∈ config.servers ∨ ∃ cloud ∈ history, task.server ∈ cloud := by
  induction history using List.reverseRecOn with
  | nil =>
    rw [run, List.foldl_nil, OrderedMap.get_empty] at h
    cases h
  | append_singleton earlier cloud _ =>
    rw [run_append] at h
    have hfind := server_of_get_reconcile h
    rw [desired, find?_merge_servers] at hfind
    cases hconfigured : config.servers.reverse.find? (·.id == id) with
    | some server =>
      rw [hconfigured, Option.some_or] at hfind
      cases hfind
      exact .inl (List.mem_reverse.mp (List.mem_of_find?_eq_some hconfigured))
    | none =>
      rw [hconfigured, Option.none_or] at hfind
      exact .inr ⟨cloud, by simp, List.mem_of_find?_eq_some hfind⟩

/-- The task of the server activates its session with a user name token for this user
and this password. -/
def Carries (server : ServerConfig) (user password : String) : Prop :=
  server.endpoint.user = some ⟨user, password⟩ ∧ server.endpoint.identity = .UserName user password

def IsAnonymous (server : ServerConfig) : Prop :=
  server.endpoint.user = none ∧ server.endpoint.identity = .Anonymous

theorem carries_of_some {server : ServerConfig} {user password : String} (huser : server.user = some user)
    (hpassword : server.password = some password) : Carries server user password := by
  simp [Carries, ServerEndpoint.identity, ServerConfig.endpoint, huser, hpassword]

theorem isAnonymous_of_none {server : ServerConfig} (huser : server.user = none) : IsAnonymous server := by
  simp [IsAnonymous, ServerEndpoint.identity, ServerConfig.endpoint, huser]

/-- A server that a poll has sent. -/
def Fetched (config : Config) (server : ServerConfig) : Prop :=
  ∃ (proxy : C8yProxy) (responses : Responses) (gateway_mo_id : String) (servers : List ServerConfig),
    fetch proxy config responses gateway_mo_id = .ok servers ∧ server ∈ servers

theorem Fetched.to_server_config {config : Config} {server : ServerConfig} (h : Fetched config server) :
    ∃ mo_id mo, to_server_config config mo_id mo = some server := by
  obtain ⟨proxy, responses, gateway_mo_id, servers, hfetch, hmem⟩ := h
  obtain ⟨objects, -, rfl⟩ := exists_objects_fetch hfetch
  obtain ⟨object, -, hobject⟩ := List.mem_filterMap.mp hmem
  exact ⟨object.1, object.2, hobject⟩

/-- A server of the configuration authenticates with its user and password, and without
any anonymously. A server from Cumulocity that asks for a user authenticates as that
user or is not run, and one that does not ask is anonymous. -/
theorem credentials_carried (config : Config) :
    (∀ (history : List (List ServerConfig)) (id : String) (task : Running),
      (∀ cloud ∈ history, ∀ server ∈ cloud, Fetched config server) →
        (run config history).get id = some task →
          task.server ∈ config.servers ∨ ∃ mo_id mo, to_server_config config mo_id mo = some task.server) ∧
    (∀ server ∈ config.servers,
      (∀ user password, server.user = some user → server.password = some password → Carries server user password) ∧
        (server.user = none → server.password = none → IsAnonymous server)) ∧
    (∀ (mo_id : String) (mo client_config : Value), mo.get CLIENT_CONFIG_FRAGMENT = some client_config →
      (AsksForUser client_config → (∀ user password, ¬ Supplies client_config user password) →
        to_server_config config mo_id mo = none) ∧
      ∀ server, to_server_config config mo_id mo = some server →
        (AsksForUser client_config → ∃ user password, Supplies client_config user password ∧
          Carries server user password) ∧
        (¬ AsksForUser client_config → IsAnonymous server)) := by
  refine ⟨fun history id task hfetched hrun => ?_, fun server _ => ⟨fun _ _ => carries_of_some, fun huser _ =>
    isAnonymous_of_none huser⟩, fun mo_id mo client_config hfragment => ⟨fun hasks hnone => ?_, fun server hserver => ?_⟩⟩
  · refine (running_origin hrun).imp_right ?_
    rintro ⟨cloud, hcloud, hmem⟩
    exact (hfetched cloud hcloud task.server hmem).to_server_config
  · refine Option.eq_none_iff_forall_ne_some.mpr fun server hserver => ?_
    obtain ⟨found, hfound, hcredentials⟩ := credentials_of_to_server_config hserver
    cases hfragment.symm.trans hfound
    obtain ⟨user, password, hsupplies, -⟩ := (credentials_eq_ok_iff hasks).mp hcredentials
    exact hnone user password hsupplies
  · obtain ⟨found, hfound, hcredentials⟩ := credentials_of_to_server_config hserver
    cases hfragment.symm.trans hfound
    refine ⟨fun hasks => ?_, fun hunasked => ?_⟩
    · obtain ⟨user, password, hsupplies, hpair⟩ := (credentials_eq_ok_iff hasks).mp hcredentials
      obtain ⟨huser, hpassword⟩ := Prod.mk.inj hpair
      exact ⟨user, password, hsupplies, carries_of_some huser hpassword⟩
    · rw [credentials_of_anonymous hunasked] at hcredentials
      have hpair := Except.ok.inj hcredentials
      exact isAnonymous_of_none (congrArg Prod.fst hpair).symm

/-- A server object whose client configuration names a user. -/
def objectWithUser (mode : String) : Value :=
  .ofMembers [(CLIENT_CONFIG_FRAGMENT, .ofMembers [("serverUrl", .string "opc.tcp://plc:4840"),
    ("userIdentityMode", .string mode), ("userName", .string "operator"), ("userPassword", .string "secret")])]

def serverWithUser (user password : Option String) : ServerConfig where
  id := "42"
  name := "42"
  url := "opc.tcp://plc:4840"
  security_policy := "None"
  user
  password
  device_types := []
  external_id := some (Config.default.gateway.server_external_id "42")
  topic_id_override := some "42"

theorem credentials_carried_operator : Carries (serverWithUser (some "operator") (some "secret")) "operator" "secret" := by
  have hserver : to_server_config .default "42" (objectWithUser "UserName") =
      some (serverWithUser (some "operator") (some "secret")) := by decide
  have hadopted := ((credentials_carried .default).2.2 "42" (objectWithUser "UserName") _ rfl).2 _ hserver
  obtain ⟨user, password, hsupplies, hcarries⟩ := hadopted.1 ⟨"UserName", by decide, by decide⟩
  have huser := hsupplies.user_name.symm.trans (by decide : _ = some "operator")
  have hpassword := hsupplies.user_password.symm.trans (by decide : _ = some "secret")
  cases huser
  cases hpassword
  exact hcarries

/-- An object that has the anonymous mode keeps its user name to itself. -/
theorem anonymous_mode_names_user :
    ¬ ∀ (config : Config) (mo_id : String) (mo client_config : Value) (server : ServerConfig),
      mo.get CLIENT_CONFIG_FRAGMENT = some client_config → to_server_config config mo_id mo = some server →
        (stringMember "userName" client_config).isSome = true ∨
            (stringMember "userPassword" client_config).isSome = true ∨ AsksForUser client_config →
          ∃ user password, Carries server user password := by
  intro hall
  have hserver : to_server_config .default "42" (objectWithUser "Anonymous") = some (serverWithUser none none) := by
    decide
  obtain ⟨user, password, hcarries, -⟩ := hall _ _ _ _ _ rfl hserver (.inl (by decide))
  cases hcarries

end gateway.supervisor
