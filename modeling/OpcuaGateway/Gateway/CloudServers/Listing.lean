import OpcuaGateway.Gateway.CloudServers

open json text tedge.proxy gateway.config

namespace gateway.cloud_servers

variable {proxy : C8yProxy} {config : Config} {responses : Responses} {gateway_mo_id : String}

/-- A page with as many references as a page can hold, behind which another one
is requested. -/
def FullPage (proxy : C8yProxy) (responses : Responses) (gateway_mo_id : String) (page : Nat) : Prop :=
  ∃ found, readPage proxy responses gateway_mo_id page = .ok found ∧ PAGE_SIZE ≤ found.length

/-- The pages a poll requests: the first one and those behind full ones, up to
the page limit. -/
def Requested (proxy : C8yProxy) (responses : Responses) (gateway_mo_id : String) (page : Nat) : Prop :=
  1 ≤ page ∧ page ≤ MAX_PAGES ∧
    ∀ earlier, 1 ≤ earlier → earlier < page → FullPage proxy responses gateway_mo_id earlier

/-- The reference at this place of the listing leads to a server that can be run. -/
structure ReadAt (proxy : C8yProxy) (config : Config) (responses : Responses)
    (gateway_mo_id : String) (page index : Nat) (server : ServerConfig) : Prop where
  requested : Requested proxy responses gateway_mo_id page
  converted : ∃ found reference, readPage proxy responses gateway_mo_id page = .ok found ∧
    found[index]? = some reference ∧
    readChild proxy config responses page index reference = some server

/-- What a server object holds that is converted into this server. -/
structure Converts (config : Config) (mo_id : String) (mo client_config : Value) (server : ServerConfig) : Prop where
  fragment : mo.get CLIENT_CONFIG_FRAGMENT = some client_config
  server_url : stringMember "serverUrl" client_config = some server.url
  url_present : isBlank server.url = false
  enabled : (stringMember "targetConnectionState" client_config).any (eq_ignore_ascii_case · "disabled") = false
  policy : securityPolicy client_config = some server.security_policy
  credentials : credentials client_config = .ok (server.user, server.password)
  id : server.id = mo_id
  name : server.name = (stringMember "name" mo).getD mo_id
  device_types : server.device_types = []
  external_id : server.external_id = some (config.gateway.server_external_id mo_id)
  topic_id_override : server.topic_id_override = some mo_id

theorem to_server_config_eq_some_iff {mo_id : String} {mo : Value} {server : ServerConfig} :
    to_server_config config mo_id mo = some server ↔ ∃ client_config, Converts config mo_id mo client_config server := by
  simp only [to_server_config, Option.bind_eq_bind, Option.bind_eq_some_iff]
  constructor
  · rintro ⟨client_config, hfragment, url, hurl, h⟩
    obtain ⟨hserverUrl, hpresent⟩ := Option.filter_eq_some_iff.mp hurl
    split at h
    · cases h
    · rename_i henabled
      obtain ⟨policy, hpolicy, h⟩ := Option.bind_eq_some_iff.mp h
      obtain ⟨⟨user, password⟩, hfound, h⟩ := Option.bind_eq_some_iff.mp h
      cases h
      exact ⟨client_config, hfragment, hserverUrl, by simpa using hpresent, Bool.eq_false_iff.mpr henabled, hpolicy,
        result.toOption_eq_some.mp hfound, rfl, rfl, rfl, rfl, rfl⟩
  · rintro ⟨client_config, h⟩
    refine ⟨client_config, h.fragment, server.url, ?_, ?_⟩
    · exact Option.filter_eq_some_iff.mpr ⟨h.server_url, by simp [h.url_present]⟩
    · rw [h.enabled, if_neg Bool.false_ne_true, h.policy, Option.bind_some, h.credentials, ← h.name]
      have hserver : ServerConfig.mk mo_id server.name server.url server.security_policy server.user server.password []
          (some (config.gateway.server_external_id mo_id)) (some mo_id) = server := by
        rw [← h.external_id, ← h.topic_id_override, ← h.device_types, ← h.id]
      exact congrArg some hserver

theorem to_server_config_id {mo_id : String} {mo : Value} {server : ServerConfig}
    (h : to_server_config config mo_id mo = some server) :
    server.id = mo_id ∧ server.external_id = some (config.gateway.server_external_id mo_id) ∧
      server.topic_id_override = some mo_id := by
  obtain ⟨client_config, hconverts⟩ := to_server_config_eq_some_iff.mp h
  exact ⟨hconverts.id, hconverts.external_id, hconverts.topic_id_override⟩

/-- A reference leads to a server whose id is the managed object it names. -/
theorem readChild_eq_some {page index : Nat} {reference : Value} {server : ServerConfig} :
    readChild proxy config responses page index reference = some server ↔
      C8yProxy.managedObjectId reference = some server.id ∧
        ∃ mo, proxy.managed_object (responses (.object page index)) server.id = .ok mo ∧
          stringMember "type" mo = some SERVER_MO_TYPE ∧
          to_server_config config server.id mo = some server := by
  simp only [readChild, Option.bind_eq_bind, Option.bind_eq_some_iff, Option.ite_none_right_eq_some,
    result.toOption_eq_some]
  constructor
  · rintro ⟨id, hid, mo, hmo, htype, hserver⟩
    obtain rfl := (to_server_config_id hserver).1
    exact ⟨hid, mo, hmo, htype, hserver⟩
  · rintro ⟨hid, mo, hmo, htype, hserver⟩
    exact ⟨_, hid, mo, hmo, htype, hserver⟩

theorem mem_readReferences {page index : Nat} {found : List Value} {out : List ServerConfig}
    {server : ServerConfig} :
    server ∈ readReferences proxy config responses page index found out ↔
      server ∈ out ∨ ∃ offset reference, found[offset]? = some reference ∧
        readChild proxy config responses page (index + offset) reference = some server := by
  induction found generalizing index out with
  | nil => simp [readReferences]
  | cons reference rest ih =>
    have hsplit : (∃ offset r, (reference :: rest)[offset]? = some r ∧
        readChild proxy config responses page (index + offset) r = some server) ↔
        readChild proxy config responses page index reference = some server ∨
          ∃ offset r, rest[offset]? = some r ∧
            readChild proxy config responses page (index + 1 + offset) r = some server := by
      constructor
      · rintro ⟨offset, r, hget, hread⟩
        cases offset with
        | zero =>
          cases hget
          exact Or.inl hread
        | succ offset => exact Or.inr ⟨offset, r, hget, by rwa [Nat.add_right_comm, Nat.add_assoc]⟩
      · rintro (hread | ⟨offset, r, hget, hread⟩)
        · exact ⟨0, reference, rfl, hread⟩
        · exact ⟨offset + 1, r, hget, by rwa [Nat.add_right_comm, Nat.add_assoc] at hread⟩
    rw [readReferences, hsplit]
    cases hchild : readChild proxy config responses page index reference with
    | none => simp [ih]
    | some child =>
      rw [ih, List.mem_append, List.mem_singleton, Option.some.injEq, or_assoc, eq_comm (a := server)]

/-- Behind a page that is not full no page is requested. -/
theorem Requested.le_of_not_full {page later : Nat} {found : List Value}
    (hpage : readPage proxy responses gateway_mo_id page = .ok found) (hshort : found.length < PAGE_SIZE)
    (hpos : 1 ≤ page) (hlater : Requested proxy responses gateway_mo_id later) : later ≤ page := by
  by_contra hlt
  obtain ⟨full, hfull, hsize⟩ := hlater.2.2 page hpos (by omega)
  cases hpage.symm.trans hfull
  omega

/-- Behind a full page the next one is requested. -/
theorem full_before_succ {page : Nat} {found : List Value} (hpage : readPage proxy responses gateway_mo_id page = .ok found)
    (hlong : ¬ found.length < PAGE_SIZE)
    (hfull : ∀ earlier, 1 ≤ earlier → earlier < page → FullPage proxy responses gateway_mo_id earlier) :
    ∀ earlier, 1 ≤ earlier → earlier < page + 1 → FullPage proxy responses gateway_mo_id earlier := by
  intro earlier hearlier hlt
  rcases Nat.lt_succ_iff_lt_or_eq.mp hlt with hlt | rfl
  · exact hfull earlier hearlier hlt
  · exact ⟨found, hpage, not_lt.mp hlong⟩

section Page

variable {page : Nat} {found : List Value} {server : ServerConfig}

theorem readAt_iff (hrequested : Requested proxy responses gateway_mo_id page)
    (hpage : readPage proxy responses gateway_mo_id page = .ok found) {index : Nat} :
    ReadAt proxy config responses gateway_mo_id page index server ↔
      ∃ reference, found[index]? = some reference ∧
        readChild proxy config responses page index reference = some server := by
  constructor
  · intro hread
    obtain ⟨found', reference, hpage', hget, hchild⟩ := hread.converted
    cases hpage.symm.trans hpage'
    exact ⟨reference, hget, hchild⟩
  · rintro ⟨reference, hget, hchild⟩
    exact ⟨hrequested, found, reference, hpage, hget, hchild⟩

theorem mem_readPage (hrequested : Requested proxy responses gateway_mo_id page)
    (hpage : readPage proxy responses gateway_mo_id page = .ok found) {out : List ServerConfig} :
    server ∈ readReferences proxy config responses page 0 found out ↔
      server ∈ out ∨ ∃ index, ReadAt proxy config responses gateway_mo_id page index server := by
  rw [mem_readReferences]
  simp only [Nat.zero_add, readAt_iff hrequested hpage]

end Page

/-- What a successful read of the pages from `page` on adds to the list, when all
pages before it are full. -/
theorem mem_fetchPages {remaining page : Nat} {out servers : List ServerConfig} (hpos : 1 ≤ page)
    (hlast : page + remaining = MAX_PAGES + 1)
    (hfull : ∀ earlier, 1 ≤ earlier → earlier < page → FullPage proxy responses gateway_mo_id earlier)
    (hfetch : fetchPages proxy config responses gateway_mo_id remaining page out = .ok servers)
    (server : ServerConfig) :
    server ∈ servers ↔ server ∈ out ∨ ∃ later index, page ≤ later ∧
      ReadAt proxy config responses gateway_mo_id later index server := by
  induction remaining generalizing page out with
  | zero =>
    cases hfetch
    refine ⟨Or.inl, fun h => h.resolve_right ?_⟩
    rintro ⟨later, index, hle, hread⟩
    have := hread.requested.2.1
    omega
  | succ remaining ih =>
    have hrequested : Requested proxy responses gateway_mo_id page := ⟨hpos, by omega, hfull⟩
    rw [fetchPages] at hfetch
    split at hfetch
    · cases hfetch
    · rename_i found hpage
      have hend : ∀ {later index : Nat}, found.length < PAGE_SIZE → page ≤ later →
          ReadAt proxy config responses gateway_mo_id later index server → later = page :=
        fun hshort hle hread => le_antisymm (hread.requested.le_of_not_full hpage hshort hpos) hle
      split at hfetch
      · rename_i hempty
        cases hfetch
        refine ⟨Or.inl, fun h => h.resolve_right ?_⟩
        rintro ⟨later, index, hle, hread⟩
        obtain rfl := hend (by rw [hempty]; decide) hle hread
        obtain ⟨reference, hget, -⟩ := (readAt_iff hrequested hpage).mp hread
        rw [hempty] at hget
        cases hget
      · split at hfetch
        · rename_i hshort
          cases hfetch
          rw [mem_readPage hrequested hpage]
          refine or_congr_right ⟨?_, ?_⟩
          · rintro ⟨index, hread⟩
            exact ⟨page, index, le_rfl, hread⟩
          · rintro ⟨later, index, hle, hread⟩
            obtain rfl := hend hshort hle hread
            exact ⟨index, hread⟩
        · rename_i hlong
          have hnext := full_before_succ hpage hlong hfull
          rw [ih (by omega) (by omega) hnext hfetch, mem_readPage hrequested hpage, or_assoc]
          refine or_congr_right ⟨?_, ?_⟩
          · rintro (⟨index, hread⟩ | ⟨later, index, hle, hread⟩)
            · exact ⟨page, index, le_rfl, hread⟩
            · exact ⟨later, index, by omega, hread⟩
          · rintro ⟨later, index, hle, hread⟩
            rcases Nat.eq_or_lt_of_le hle with rfl | hlt
            · exact Or.inl ⟨index, hread⟩
            · exact Or.inr ⟨later, index, hlt, hread⟩

/-- A poll that is not given up returns exactly the servers it has read. -/
theorem mem_fetch {servers : List ServerConfig}
    (hfetch : fetch proxy config responses gateway_mo_id = .ok servers) (server : ServerConfig) :
    server ∈ servers ↔ ∃ page index, ReadAt proxy config responses gateway_mo_id page index server := by
  have hmem := mem_fetchPages (le_refl 1) (Nat.add_comm _ _) (fun _ h1 h2 => absurd h1 (by omega))
    hfetch server
  simp only [List.not_mem_nil, false_or] at hmem
  rw [hmem]
  constructor
  · rintro ⟨page, index, -, hread⟩
    exact ⟨page, index, hread⟩
  · rintro ⟨page, index, hread⟩
    exact ⟨page, index, hread.requested.1, hread⟩

/-- A poll is given up exactly when a page it requests cannot be read. -/
theorem fetchPages_eq_error {remaining page : Nat} {out : List ServerConfig} {error : ProxyError}
    (hpos : 1 ≤ page) (hlast : page + remaining = MAX_PAGES + 1)
    (hfull : ∀ earlier, 1 ≤ earlier → earlier < page → FullPage proxy responses gateway_mo_id earlier) :
    fetchPages proxy config responses gateway_mo_id remaining page out = .error error ↔
      ∃ later, page ≤ later ∧ Requested proxy responses gateway_mo_id later ∧
        readPage proxy responses gateway_mo_id later = .error error := by
  induction remaining generalizing page out with
  | zero =>
    simp only [fetchPages, reduceCtorEq, false_iff, not_exists, not_and]
    intro later hle hrequested
    have := hrequested.2.1
    omega
  | succ remaining ih =>
    have hrequested : Requested proxy responses gateway_mo_id page := ⟨hpos, by omega, hfull⟩
    rw [fetchPages]
    split
    · rename_i error' hpage
      refine ⟨fun h => ?_, ?_⟩
      · cases h
        exact ⟨page, le_rfl, hrequested, hpage⟩
      · rintro ⟨later, hle, hlater, herror⟩
        rcases Nat.eq_or_lt_of_le hle with rfl | hlt
        · cases hpage.symm.trans herror
          rfl
        · obtain ⟨found, hfound, -⟩ := hlater.2.2 page hpos hlt
          cases hpage.symm.trans hfound
    · rename_i found hpage
      have hstop : found.length < PAGE_SIZE → ¬ ∃ later, page ≤ later ∧
          Requested proxy responses gateway_mo_id later ∧
          readPage proxy responses gateway_mo_id later = .error error := by
        rintro hshort ⟨later, hle, hlater, herror⟩
        obtain rfl : later = page := le_antisymm (hlater.le_of_not_full hpage hshort hpos) hle
        cases hpage.symm.trans herror
      split
      · rename_i hempty
        simpa using hstop (by rw [hempty]; decide)
      · split
        · rename_i hshort
          simpa using hstop hshort
        · rename_i hlong
          have hnext := full_before_succ hpage hlong hfull
          rw [ih (by omega) (by omega) hnext]
          constructor
          · rintro ⟨later, hle, hlater, herror⟩
            exact ⟨later, by omega, hlater, herror⟩
          · rintro ⟨later, hle, hlater, herror⟩
            rcases Nat.eq_or_lt_of_le hle with rfl | hlt
            · cases hpage.symm.trans herror
            · exact ⟨later, hlt, hlater, herror⟩

theorem fetch_eq_error {error : ProxyError} :
    fetch proxy config responses gateway_mo_id = .error error ↔
      ∃ page, Requested proxy responses gateway_mo_id page ∧
        readPage proxy responses gateway_mo_id page = .error error := by
  rw [fetch, fetchPages_eq_error (le_refl 1) (Nat.add_comm _ _) (fun _ h1 h2 => absurd h1 (by omega))]
  constructor
  · rintro ⟨page, -, h⟩
    exact ⟨page, h⟩
  · rintro ⟨page, h⟩
    exact ⟨page, h.1.1, h⟩

end gateway.cloud_servers
