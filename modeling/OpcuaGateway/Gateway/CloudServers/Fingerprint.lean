import OpcuaGateway.Gateway.Supervisor.Credentials

open json ordered_map text tedge.proxy gateway.config gateway.supervisor

namespace gateway.cloud_servers

/-- Which of the two separators of a fingerprint a kind of text may contain. -/
structure Separators where
  field : Bool
  record : Bool
  deriving DecidableEq

/-- The text contains no other separators. -/
structure Separators.Allow (allowed : Separators) (text : String) : Prop where
  no_field : allowed.field = false → '\x01' ∉ text.toList
  no_record : allowed.record = false → '\x02' ∉ text.toList

/-- The texts of a server that its author chooses. -/
def authored (server : ServerConfig) : List String :=
  [server.name, server.url, server.user.getD "", server.password.getD ""]

/-- A server list as `to_server_config` can produce it, whose ids and whose other
texts contain no separators but these. -/
structure Producible (config : Config) (ids texts : Separators) (servers : List ServerConfig) : Prop where
  converted : ∀ server ∈ servers, ∃ mo_id mo, to_server_config config mo_id mo = some server
  ids : ∀ server ∈ servers, ids.Allow server.id
  texts : ∀ server ∈ servers, ∀ text ∈ authored server, texts.Allow text

/-- No two lists share a fingerprint. -/
def InjectiveOver (config : Config) (ids texts : Separators) : Prop :=
  ∀ servers others, Producible config ids texts servers → Producible config ids texts others →
    revision_of servers = revision_of others → servers = others

/-- What one server adds to the fingerprint. -/
def record (server : ServerConfig) : List Char :=
  server.id.toList ++ '\x01' :: (server.name.toList ++ '\x01' :: (server.url.toList ++ '\x01' ::
    (server.security_policy.toList ++ '\x01' :: ((server.user.getD "").toList ++ '\x01' ::
      ((server.password.getD "").toList ++ ['\x02'])))))

theorem revision_of_cons (server : ServerConfig) (rest : List ServerConfig) :
    (revision_of (server :: rest)).toList = record server ++ (revision_of rest).toList := by
  simp [revision_of, record]

theorem revision_of_append (first second : List ServerConfig) :
    (revision_of (first ++ second)).toList = (revision_of first).toList ++ (revision_of second).toList := by
  induction first with
  | nil => rfl
  | cons server rest ih => rw [List.cons_append, revision_of_cons, ih, revision_of_cons, List.append_assoc]

theorem revision_of_concat (earlier : List ServerConfig) (server : ServerConfig) :
    (revision_of (earlier ++ [server])).toList = (revision_of earlier).toList ++ record server := by
  have hlast : (revision_of [server]).toList = record server ++ [] := revision_of_cons server []
  rw [revision_of_append, hlast, List.append_nil]

/-- Only the empty list has the empty fingerprint. -/
theorem eq_nil_of_revision_of {servers : List ServerConfig} (h : revision_of servers = revision_of []) :
    servers = [] := by
  cases servers with
  | nil => rfl
  | cons server rest =>
    have hnil : record server ++ (revision_of rest).toList = [] := by
      rw [← revision_of_cons, h]
      rfl
    simp [record] at hnil

/-- The texts that make up the record of a server. -/
structure SameTexts (server other : ServerConfig) : Prop where
  id : server.id = other.id
  name : server.name = other.name
  url : server.url = other.url
  user : server.user.getD "" = other.user.getD ""
  password : server.password.getD "" = other.password.getD ""

/-- Neither user nor password is the empty text, which stands for a missing one. -/
theorem credentials_of_converted {config : Config} {mo_id : String} {mo : Value} {server : ServerConfig}
    (h : to_server_config config mo_id mo = some server) : server.user ≠ some "" ∧ server.password ≠ some "" := by
  obtain ⟨client_config, -, hcredentials⟩ := credentials_of_to_server_config h
  by_cases hasks : AsksForUser client_config
  · obtain ⟨user, password, hsupplies, hpair⟩ := (credentials_eq_ok_iff hasks).mp hcredentials
    obtain ⟨huser, hpassword⟩ := Prod.mk.inj hpair
    rw [huser, hpassword]
    refine ⟨fun hempty => ?_, fun hempty => hsupplies.password_present (Option.some.inj hempty)⟩
    have hpresent := hsupplies.user_present
    rw [Option.some.inj hempty] at hpresent
    exact absurd hpresent (by decide)
  · rw [credentials_of_anonymous hasks] at hcredentials
    obtain ⟨huser, hpassword⟩ := Prod.mk.inj (Except.ok.inj hcredentials)
    rw [← huser, ← hpassword]
    exact ⟨nofun, nofun⟩

theorem eq_of_getD_eq {a b : Option String} (ha : a ≠ some "") (hb : b ≠ some "") (h : a.getD "" = b.getD "") :
    a = b := by
  cases a with
  | none =>
    cases b with
    | none => rfl
    | some text => exact absurd (congrArg some h.symm) hb
  | some text =>
    cases b with
    | none => exact absurd (congrArg some h) ha
    | some other => exact congrArg some h

/-- A server that has been produced is known by the texts of its record. -/
theorem SameTexts.eq {config : Config} {server other : ServerConfig} (h : SameTexts server other)
    (hserver : ∃ mo_id mo, to_server_config config mo_id mo = some server)
    (hother : ∃ mo_id mo, to_server_config config mo_id mo = some other) : server = other := by
  obtain ⟨id, mo, hserver⟩ := hserver
  obtain ⟨id', mo', hother⟩ := hother
  have hpolicy := (to_server_config_eq_some hserver).2.2.1.trans (to_server_config_eq_some hother).2.2.1.symm
  obtain ⟨_, hconverts⟩ := to_server_config_eq_some_iff.mp hserver
  obtain ⟨_, hconverts'⟩ := to_server_config_eq_some_iff.mp hother
  obtain ⟨huser, hpassword⟩ := credentials_of_converted hserver
  obtain ⟨huser', hpassword'⟩ := credentials_of_converted hother
  have hsame : id = id' := hconverts.id.symm.trans (h.id.trans hconverts'.id)
  have htypes := hconverts.device_types.trans hconverts'.device_types.symm
  have hexternal := hconverts.external_id.trans (hsame ▸ hconverts'.external_id.symm)
  have htopic := hconverts.topic_id_override.trans (hsame ▸ hconverts'.topic_id_override.symm)
  cases server
  cases other
  obtain ⟨hid, hname, hurl, hsameUser, hsamePassword⟩ := h
  simp only [ServerConfig.mk.injEq]
  exact ⟨hid, hname, hurl, hpolicy, eq_of_getD_eq huser huser' hsameUser,
    eq_of_getD_eq hpassword hpassword' hsamePassword, htypes, hexternal, htopic⟩

/-- Read from the left, a record ends behind its password if no text of it holds
a field separator and the password no record separator. -/
theorem sameTexts_of_record_append {server other : ServerConfig} {rest rest' : List Char}
    (hserver : ∀ text ∈ server.id :: server.security_policy :: authored server, '\x01' ∉ text.toList)
    (hother : ∀ text ∈ other.id :: other.security_policy :: authored other, '\x01' ∉ text.toList)
    (hpassword : '\x02' ∉ (server.password.getD "").toList) (hpassword' : '\x02' ∉ (other.password.getD "").toList)
    (h : record server ++ rest = record other ++ rest') : SameTexts server other ∧ rest = rest' := by
  simp only [authored, List.forall_mem_cons] at hserver hother
  obtain ⟨hid, hpolicy, hname, hurl, huser, -⟩ := hserver
  obtain ⟨hid', hpolicy', hname', hurl', huser', -⟩ := hother
  simp only [record, List.append_assoc, List.cons_append, List.nil_append] at h
  obtain ⟨hsameId, h⟩ := append_sep_inj hid hid' h
  obtain ⟨hsameName, h⟩ := append_sep_inj hname hname' h
  obtain ⟨hsameUrl, h⟩ := append_sep_inj hurl hurl' h
  obtain ⟨-, h⟩ := append_sep_inj hpolicy hpolicy' h
  obtain ⟨hsameUser, h⟩ := append_sep_inj huser huser' h
  obtain ⟨hsamePassword, hrest⟩ := append_sep_inj hpassword hpassword' h
  exact ⟨⟨String.toList_inj.mp hsameId, String.toList_inj.mp hsameName, String.toList_inj.mp hsameUrl,
    String.toList_inj.mp hsameUser, String.toList_inj.mp hsamePassword⟩, hrest⟩

/-- A record seen from its end. -/
theorem append_record (before : List Char) (server : ServerConfig) :
    before ++ record server =
      (before ++ server.id.toList ++ '\x01' :: server.name.toList ++ '\x01' :: server.url.toList ++
        '\x01' :: server.security_policy.toList ++ '\x01' :: (server.user.getD "").toList ++
          '\x01' :: (server.password.getD "").toList) ++ ['\x02'] := by
  simp [record]

/-- Read from the right, a record reaches up to its id if its other texts hold no
field separator. -/
theorem sameTexts_of_append_record {server other : ServerConfig} {before before' : List Char}
    (hserver : ∀ text ∈ server.security_policy :: authored server, '\x01' ∉ text.toList)
    (hother : ∀ text ∈ other.security_policy :: authored other, '\x01' ∉ text.toList)
    (h : before ++ record server = before' ++ record other) :
    before ++ server.id.toList = before' ++ other.id.toList ∧ (server.id = other.id → SameTexts server other) := by
  simp only [authored, List.forall_mem_cons] at hserver hother
  obtain ⟨hpolicy, hname, hurl, huser, hpassword, -⟩ := hserver
  obtain ⟨hpolicy', hname', hurl', huser', hpassword', -⟩ := hother
  rw [append_record, append_record] at h
  obtain ⟨h, hsamePassword⟩ := append_sep_inj_right hpassword hpassword' (List.append_cancel_right h)
  obtain ⟨h, hsameUser⟩ := append_sep_inj_right huser huser' h
  obtain ⟨h, -⟩ := append_sep_inj_right hpolicy hpolicy' h
  obtain ⟨h, hsameUrl⟩ := append_sep_inj_right hurl hurl' h
  obtain ⟨h, hsameName⟩ := append_sep_inj_right hname hname' h
  refine ⟨h, fun hsameId => ⟨hsameId, String.toList_inj.mp hsameName, String.toList_inj.mp hsameUrl, ?_, ?_⟩⟩
  · exact String.toList_inj.mp hsameUser
  · exact String.toList_inj.mp hsamePassword

/-- Every fingerprint but the empty one ends with a record separator. -/
theorem revision_of_ends (servers : List ServerConfig) :
    (revision_of servers).toList = [] ∨ ∃ before, (revision_of servers).toList = before ++ '\x02' :: [] := by
  cases servers using List.reverseRecOn with
  | nil => exact .inl rfl
  | append_singleton earlier server =>
    rw [revision_of_concat, append_record]
    exact .inr ⟨_, rfl⟩

/-- An id without record separators begins behind the last record before it. -/
theorem append_id_inj {before before' id id' : List Char}
    (hbefore : before = [] ∨ ∃ front, before = front ++ '\x02' :: [])
    (hbefore' : before' = [] ∨ ∃ front, before' = front ++ '\x02' :: [])
    (hid : '\x02' ∉ id) (hid' : '\x02' ∉ id') (h : before ++ id = before' ++ id') : before = before' ∧ id = id' := by
  obtain rfl | ⟨front, rfl⟩ := hbefore
  · obtain rfl | ⟨front', rfl⟩ := hbefore'
    · exact ⟨rfl, h⟩
    · refine absurd ?_ hid
      rw [List.nil_append] at h
      simp [h]
  · obtain rfl | ⟨front', rfl⟩ := hbefore'
    · refine absurd ?_ hid'
      rw [List.nil_append] at h
      simp [← h]
    · rw [List.append_assoc, List.append_assoc] at h
      obtain ⟨hfront, hsame⟩ := append_sep_inj_right hid hid' h
      exact ⟨by rw [hfront], hsame⟩

section Decode

variable {config : Config} {ids texts : Separators} {servers : List ServerConfig}

theorem Producible.of_subset {others : List ServerConfig} (h : Producible config ids texts servers)
    (hsubset : others ⊆ servers) : Producible config ids texts others where
  converted := fun server hmem => h.converted server (hsubset hmem)
  ids := fun server hmem => h.ids server (hsubset hmem)
  texts := fun server hmem => h.texts server (hsubset hmem)

theorem Producible.no_field (h : Producible config ids texts servers) (htexts : texts.field = false)
    {server : ServerConfig} (hmem : server ∈ servers) :
    ∀ text ∈ server.security_policy :: authored server, '\x01' ∉ text.toList := by
  refine List.forall_mem_cons.mpr ⟨?_, fun text htext => (h.texts server hmem text htext).no_field htexts⟩
  obtain ⟨mo_id, mo, hserver⟩ := h.converted server hmem
  rw [(to_server_config_eq_some hserver).2.2.1]
  decide

theorem Producible.no_record (h : Producible config ids texts servers) (htexts : texts.record = false)
    {server : ServerConfig} (hmem : server ∈ servers) : '\x02' ∉ (server.password.getD "").toList :=
  (h.texts server hmem (server.password.getD "") (by simp [authored])).no_record htexts

/-- Read from the right, a fingerprint gives the list back. -/
theorem injectiveOver_of_record (htexts : texts.field = false) (hids : ids.record = false) :
    InjectiveOver config ids texts := by
  intro servers
  induction servers using List.reverseRecOn with
  | nil => exact fun others _ _ h => (eq_nil_of_revision_of h.symm).symm
  | append_singleton earlier server ih =>
    intro others hservers hothers h
    cases others using List.reverseRecOn with
    | nil => exact eq_nil_of_revision_of h
    | append_singleton earlier' other =>
      have hlist := congrArg String.toList h
      rw [revision_of_concat, revision_of_concat] at hlist
      have hmem : server ∈ earlier ++ [server] := by simp
      have hmem' : other ∈ earlier' ++ [other] := by simp
      obtain ⟨hfront, hsame⟩ := sameTexts_of_append_record (hservers.no_field htexts hmem)
        (hothers.no_field htexts hmem') hlist
      obtain ⟨hearlier, hid⟩ := append_id_inj (revision_of_ends earlier) (revision_of_ends earlier')
        ((hservers.ids server hmem).no_record hids) ((hothers.ids other hmem').no_record hids) hfront
      have hserver := (hsame (String.toList_inj.mp hid)).eq (hservers.converted server hmem)
        (hothers.converted other hmem')
      have hrest := ih earlier' (hservers.of_subset (List.subset_append_left _ _))
        (hothers.of_subset (List.subset_append_left _ _)) (String.toList_inj.mp hearlier)
      rw [hserver, hrest]

/-- Read from the left, likewise. -/
theorem injectiveOver_of_field (htexts : texts.field = false) (hrecord : texts.record = false)
    (hids : ids.field = false) : InjectiveOver config ids texts := by
  intro servers
  induction servers with
  | nil => exact fun others _ _ h => (eq_nil_of_revision_of h.symm).symm
  | cons server rest ih =>
    intro others hservers hothers h
    cases others with
    | nil => exact eq_nil_of_revision_of h
    | cons other rest' =>
      have hlist := congrArg String.toList h
      rw [revision_of_cons, revision_of_cons] at hlist
      have hmem : server ∈ server :: rest := List.mem_cons_self
      have hmem' : other ∈ other :: rest' := List.mem_cons_self
      obtain ⟨hsame, hrest⟩ := sameTexts_of_record_append
        (List.forall_mem_cons.mpr ⟨(hservers.ids server hmem).no_field hids, hservers.no_field htexts hmem⟩)
        (List.forall_mem_cons.mpr ⟨(hothers.ids other hmem').no_field hids, hothers.no_field htexts hmem'⟩)
        (hservers.no_record hrecord hmem) (hothers.no_record hrecord hmem') hlist
      have hserver := hsame.eq (hservers.converted server hmem) (hothers.converted other hmem')
      have htail := ih rest' (hservers.of_subset (List.subset_cons_self _ _))
        (hothers.of_subset (List.subset_cons_self _ _)) (String.toList_inj.mp hrest)
      rw [hserver, htail]

end Decode

/-- The client configuration of a server with this address and perhaps a user. -/
def clientConfig (url : String) : Option (String × String) → Value
  | none => .object [("serverUrl", .string url)]
  | some (user, password) =>
    .object [("serverUrl", .string url), ("userIdentityMode", .string "UserName"), ("userName", .string user),
      ("userPassword", .string password)]

/-- A registered server object. -/
def registeredObject (name url : String) (login : Option (String × String)) : Value :=
  .object [(CLIENT_CONFIG_FRAGMENT, clientConfig url login), ("name", .string name)]

/-- The server that is made from it. -/
def registeredServer (config : Config) (id name url : String) (login : Option (String × String)) : ServerConfig where
  id
  name
  url
  security_policy := "None"
  user := login.map Prod.fst
  password := login.map Prod.snd
  device_types := []
  external_id := some (config.gateway.server_external_id id)
  topic_id_override := some id

theorem to_server_config_registered (config : Config) (id name : String) {url : String}
    {login : Option (String × String)} (hurl : isBlank url = false)
    (hlogin : ∀ user password, login = some (user, password) → isBlank user = false ∧ password ≠ "") :
    to_server_config config id (registeredObject name url login) =
      some (registeredServer config id name url login) := by
  apply to_server_config_eq_some_iff.mpr
  refine ⟨clientConfig url login, rfl, ?_, hurl, ?_, ?_, ?_, rfl, rfl, rfl, rfl, rfl⟩
  · cases login <;> rfl
  · cases login <;> rfl
  · cases login <;> rfl
  · cases login with
    | none =>
      apply credentials_of_anonymous
      rintro ⟨mode, hmode, -⟩
      cases hmode
    | some pair =>
      obtain ⟨huser, hpassword⟩ := hlogin pair.1 pair.2 rfl
      refine (credentials_eq_ok_iff ⟨"UserName", rfl, by decide⟩).mpr ⟨pair.1, pair.2, ?_, rfl⟩
      exact ⟨rfl, huser, rfl, hpassword, nofun⟩

section Collisions

variable {config : Config} {allowed ids texts : Separators} {text : String}

theorem Separators.allow_of_free (hfield : '\x01' ∉ text.toList) (hrecord : '\x02' ∉ text.toList) :
    allowed.Allow text := ⟨fun _ => hfield, fun _ => hrecord⟩

theorem Separators.allow_of_field (h : allowed.field = true) (hrecord : '\x02' ∉ text.toList) :
    allowed.Allow text := ⟨fun hnone => Bool.noConfusion (h.symm.trans hnone), fun _ => hrecord⟩

theorem Separators.allow_of_record (h : allowed.record = true) (hfield : '\x01' ∉ text.toList) :
    allowed.Allow text := ⟨fun _ => hfield, fun hnone => Bool.noConfusion (h.symm.trans hnone)⟩

theorem Separators.allow_of_both (hfield : allowed.field = true) (hrecord : allowed.record = true) :
    allowed.Allow text where
  no_field := fun hnone => Bool.noConfusion (hfield.symm.trans hnone)
  no_record := fun hnone => Bool.noConfusion (hrecord.symm.trans hnone)

variable (config ids texts) in
theorem producible_nil : Producible config ids texts [] where
  converted := nofun
  ids := nofun
  texts := nofun

theorem Producible.cons {rest : List ServerConfig} (h : Producible config ids texts rest) {id name url : String}
    {login : Option (String × String)} (hblank : isBlank url = false)
    (hlogin : ∀ user password, login = some (user, password) → isBlank user = false ∧ password ≠ "")
    (hid : ids.Allow id) (hname : texts.Allow name) (hurl : texts.Allow url)
    (huser : texts.Allow ((login.map Prod.fst).getD "")) (hpassword : texts.Allow ((login.map Prod.snd).getD "")) :
    Producible config ids texts (registeredServer config id name url login :: rest) where
  converted := List.forall_mem_cons.mpr
    ⟨⟨id, registeredObject name url login, to_server_config_registered config id name hblank hlogin⟩, h.converted⟩
  ids := List.forall_mem_cons.mpr ⟨hid, h.ids⟩
  texts := by
    refine List.forall_mem_cons.mpr ⟨?_, h.texts⟩
    simp only [authored, registeredServer, List.forall_mem_cons]
    exact ⟨hname, hurl, huser, hpassword, nofun⟩

theorem Separators.allow_of_plain (h : (text.toList.all fun c => c != '\x01' && c != '\x02') = true) :
    allowed.Allow text := by
  rw [List.all_eq_true] at h
  refine allow_of_free (fun hmem => ?_) (fun hmem => ?_)
  · exact absurd (h _ hmem) (by decide)
  · exact absurd (h _ hmem) (by decide)

theorem Producible.cons_anonymous {rest : List ServerConfig} (h : Producible config ids texts rest)
    {id name url : String} (hblank : isBlank url = false) (hid : ids.Allow id) (hname : texts.Allow name)
    (hurl : texts.Allow url) : Producible config ids texts (registeredServer config id name url none :: rest) := by
  have hnone : ∀ user password, (none : Option (String × String)) = some (user, password) →
      isBlank user = false ∧ password ≠ "" := by
    intro user password hlogin
    cases hlogin
  have hempty : texts.Allow "" := Separators.allow_of_plain rfl
  exact h.cons hblank hnone hid hname hurl hempty hempty

/-- A name may take over the beginning of the address behind it. -/
theorem not_injectiveOver_of_field (htexts : texts.field = true) : ¬ InjectiveOver config ids texts := by
  intro hinj
  have hnone := producible_nil config ids texts
  have hid : ids.Allow "1" := Separators.allow_of_plain (by decide)
  have hlong : Producible config ids texts [registeredServer config "1" "a" "b\x01c" none] :=
    hnone.cons_anonymous (by decide) hid (Separators.allow_of_plain (by decide))
      (Separators.allow_of_field htexts (by decide))
  have hshort : Producible config ids texts [registeredServer config "1" "a\x01b" "c" none] :=
    hnone.cons_anonymous (by decide) hid (Separators.allow_of_field htexts (by decide))
      (Separators.allow_of_plain (by decide))
  have hsame := hinj _ _ hlong hshort
    (String.toList_inj.mp (by simp [revision_of_cons, record, registeredServer]))
  have hname : "a" = "a\x01b" := congrArg ServerConfig.name (List.cons.inj hsame).1
  exact absurd hname (by decide)

/-- A password may take over the beginning of the id behind it. -/
theorem not_injectiveOver_of_records (hids : ids.record = true) (htexts : texts.record = true) :
    ¬ InjectiveOver config ids texts := by
  intro hinj
  have hplain : ∀ text : String, (text.toList.all fun c => c != '\x01' && c != '\x02') = true → texts.Allow text :=
    fun text => Separators.allow_of_plain
  have ha : texts.Allow "a" := hplain "a" (by decide)
  have hpair : ∀ id password : String, ids.Allow id → texts.Allow password → password ≠ "" →
      Producible config ids texts [registeredServer config "1" "a" "a" (some ("a", password)),
        registeredServer config id "a" "a" none] := by
    intro id password hid hpassword hpresent
    have hlogin : ∀ user secret, some ("a", password) = some (user, secret) →
        isBlank user = false ∧ secret ≠ "" := by
      rintro user secret ⟨⟩
      exact ⟨by decide, hpresent⟩
    have hrest := (producible_nil config ids texts).cons_anonymous (by decide) hid ha ha
    exact hrest.cons (by decide) hlogin (Separators.allow_of_plain (by decide)) ha ha ha hpassword
  have hlong := hpair "2" "p\x02" (Separators.allow_of_plain (by decide))
    (Separators.allow_of_record htexts (by decide)) (by decide)
  have hshort := hpair "\x022" "p" (Separators.allow_of_record hids (by decide)) (hplain "p" (by decide)) (by decide)
  have hsame := hinj _ _ hlong hshort
    (String.toList_inj.mp (by simp [revision_of_cons, record, registeredServer]))
  have hpassword : some "p\x02" = some "p" := congrArg ServerConfig.password (List.cons.inj hsame).1
  exact absurd hpassword (by decide)

/-- An id may take in a whole record before it. -/
theorem not_injectiveOver_of_both (hfield : ids.field = true) (hrecord : ids.record = true) :
    ¬ InjectiveOver config ids texts := by
  intro hinj
  have ha : texts.Allow "a" := Separators.allow_of_plain (by decide)
  have hcons : ∀ {rest : List ServerConfig}, Producible config ids texts rest → ∀ id,
      Producible config ids texts (registeredServer config id "a" "a" none :: rest) := by
    intro rest hrest id
    exact hrest.cons_anonymous (by decide) (Separators.allow_of_both hfield hrecord) ha ha
  have hone := hcons (producible_nil config ids texts) "1\x01a\x01a\x01None\x01\x01\x022"
  have htwo := hcons (hcons (producible_nil config ids texts) "2") "1"
  have hsame := hinj _ _ htwo hone
    (String.toList_inj.mp (by simp [revision_of_cons, record, registeredServer]))
  cases (List.cons.inj hsame).2

end Collisions

/-- After a poll that has read these servers, the supervisor gets them unless
their fingerprint is the one before. -/
theorem pollServers_sent_eq_none_iff {proxy : C8yProxy} {config : Config} {responses : Responses} {id : String}
    {servers : List ServerConfig} (hfetch : fetch proxy config responses id = .ok servers) (provider : Provider)
    (delay : Nat) :
    (pollServers proxy config responses ⟨provider, delay, none⟩ id).sent = none ↔
      revision_of servers = provider.revision := by
  rw [pollServers, hfetch]
  by_cases hsame : revision_of servers = provider.revision
  · simp [hsame]
  · simp [hsame]

/-- The fingerprints of two lists that can be produced differ whenever the lists
do, and no change is withheld, exactly where the separators cannot be mistaken:
no name, address, user or password holds a field separator, and ids hold no record
separator or, failing that, neither do they hold field separators nor the other
texts record separators. -/
theorem revision_of_injective_iff (config : Config) (ids texts : Separators) :
    (InjectiveOver config ids texts ↔
      texts.field = false ∧ (ids.record = false ∨ ids.field = false ∧ texts.record = false)) ∧
    (InjectiveOver config ids texts → ∀ (proxy : C8yProxy) (responses : Responses) (id : String) (provider : Provider)
      (delay : Nat) (servers others : List ServerConfig), Producible config ids texts servers →
        Producible config ids texts others → provider.revision = revision_of servers →
          fetch proxy config responses id = .ok others →
            ((pollServers proxy config responses ⟨provider, delay, none⟩ id).sent = none ↔ others = servers)) := by
  refine ⟨⟨fun hinj => ⟨?_, ?_⟩, ?_⟩, ?_⟩
  · by_contra hfield
    exact not_injectiveOver_of_field (Bool.eq_true_of_not_eq_false hfield) hinj
  · by_contra hnot
    rw [not_or, not_and] at hnot
    have hids : ids.record = true := Bool.eq_true_of_not_eq_false hnot.1
    cases hfield : ids.field with
    | true => exact not_injectiveOver_of_both hfield hids hinj
    | false => exact not_injectiveOver_of_records hids (Bool.eq_true_of_not_eq_false (hnot.2 hfield)) hinj
  · rintro ⟨hfield, hrecord | ⟨hids, hrecord⟩⟩
    · exact injectiveOver_of_record hfield hrecord
    · exact injectiveOver_of_field hfield hrecord hids
  · intro hinj proxy responses id provider delay servers others hservers hothers hrevision hfetch
    rw [pollServers_sent_eq_none_iff hfetch, hrevision]
    exact ⟨hinj others servers hothers hservers, fun heq => congrArg revision_of heq⟩

/-- A server whose name and address change together, so that the separator moves,
is taken for an unchanged one. -/
theorem renamed_server_withheld :
    ∃ registered renamed : ServerConfig,
      to_server_config .default "1" (registeredObject "plc\x01opc.tcp://a" "opc.tcp://b" none) = some registered ∧
      to_server_config .default "1" (registeredObject "plc" "opc.tcp://a\x01opc.tcp://b" none) = some renamed ∧
      registered ≠ renamed ∧ revision_of [registered] = revision_of [renamed] ∧
      ∀ (proxy : C8yProxy) (responses : Responses) (id : String) (provider : Provider) (delay : Nat),
        provider.revision = revision_of [registered] → fetch proxy .default responses id = .ok [renamed] →
          (pollServers proxy .default responses ⟨provider, delay, none⟩ id).sent = none := by
  have hsame : revision_of [registeredServer .default "1" "plc\x01opc.tcp://a" "opc.tcp://b" none] =
      revision_of [registeredServer .default "1" "plc" "opc.tcp://a\x01opc.tcp://b" none] :=
    String.toList_inj.mp (by simp [revision_of_cons, record, registeredServer])
  refine ⟨_, _, to_server_config_registered _ _ _ (by decide) (by simp),
    to_server_config_registered _ _ _ (by decide) (by simp), ?_, hsame, ?_⟩
  · intro heq
    exact absurd (congrArg ServerConfig.name heq) (by decide)
  · intro proxy responses id provider delay hrevision hfetch
    rw [pollServers_sent_eq_none_iff hfetch, hrevision, hsame]

end gateway.cloud_servers
