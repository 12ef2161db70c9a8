import OpcuaGateway.Gateway.CloudServers.Continuity
import OpcuaGateway.Gateway.DeviceTypes.Unreadable

open json mapping.model mapping.source gateway.config gateway.supervisor tedge.proxy

namespace gateway.device_types

section Listing

variable (proxy : C8yProxy) (responses : FetchResponses)

/-- The listing as a poll reads it, with the pages that it requests. -/
def listing : pages.Polled ProxyError (List LoadedDeviceType) :=
  pollPages proxy responses read_managed_object MAX_PAGES 1 []

theorem fetch_eq_listing {config : Config} (hids : config.proxy.device_type_ids = []) :
    fetch proxy config responses = (listing proxy responses).result := by
  rw [fetch, collect, if_neg (not_not.mpr hids), fetchPages_eq_pollPages, listing]

theorem requested_listing : ∃ count ≤ MAX_PAGES, (listing proxy responses).requested = List.range' 1 count :=
  pages.requested_poll _ _ _ _ _ _

variable {proxy responses}

/-- A listing within the page limit is fetched completely. -/
theorem ServesPages.fetch {config : Config} {objects : List Value} (hids : config.proxy.device_type_ids = [])
    (h : ServesPages proxy responses objects) (hfits : objects.length ≤ MAX_PAGES * PAGE_SIZE) :
    fetch proxy config responses = .ok (objects.filterMap read_managed_object) := by
  rw [fetch_eq_listing proxy responses hids]
  exact pages.result_poll_complete (h.serves read_managed_object) hfits

end Listing

/-- Objects with distinct ids make device types with distinct ids. -/
theorem nodup_read_ids {objects : List Value}
    (h : ((objects.filterMap ManagedObject.deserialize).map (·.id)).Nodup) :
    ((objects.filterMap read_managed_object).map (·.id)).Nodup := by
  have hread : objects.filterMap read_managed_object =
      (objects.filterMap ManagedObject.deserialize).filterMap from_managed_object :=
    List.filterMap_filterMap.symm
  rw [hread]
  refine h.sublist (result.map_filterMap_sublist fun mo loaded hloaded => ?_)
  obtain ⟨device_type, -, rfl⟩ := Option.map_eq_some_iff.mp hloaded
  rfl

end gateway.device_types

namespace gateway.cloud_servers

/-- The server that an object below the gateway object makes, if it is one that can be
run. -/
def Inventory.server (inventory : Inventory) (config : Config) (id : String) : Option ServerConfig :=
  if stringMember "type" (inventory.object id) = some SERVER_MO_TYPE then
    to_server_config config id (inventory.object id)
  else none

/-- Every page of the listing and every object is answered. -/
structure Answers (proxy : C8yProxy) (inventory : Inventory) (responses : Responses) (gateway_mo_id : String) : Prop where
  pages : ∀ page, 1 ≤ page → Listed proxy inventory responses gateway_mo_id page
  objects : ∀ page index id,
    proxy.managed_object (responses (.object page index)) id = .ok (inventory.object id)

section Listing

variable (proxy : C8yProxy) (config : Config) (responses : Responses) (gateway_mo_id : String)

def stopsAt (_page : Nat) (found : List Value) : Bool := found.length < PAGE_SIZE

/-- The same reading of the pages, with the pages that it requests. -/
def pollPages (remaining page : Nat) (out : List ServerConfig) : pages.Polled ProxyError (List ServerConfig) :=
  pages.poll (readPage proxy responses gateway_mo_id)
    (fun page found out => readReferences proxy config responses page 0 found out) stopsAt remaining page out

theorem fetchPages_eq_pollPages (remaining page : Nat) (out : List ServerConfig) :
    fetchPages proxy config responses gateway_mo_id remaining page out =
      (pollPages proxy config responses gateway_mo_id remaining page out).result := by
  induction remaining generalizing page out with
  | zero => rfl
  | succ remaining ih =>
    rw [fetchPages, pollPages]
    cases hpage : readPage proxy responses gateway_mo_id page with
    | error error => rw [pages.result_poll_of_error hpage]
    | ok found =>
      dsimp only
      by_cases hempty : found = []
      · subst hempty
        rw [if_pos rfl, pages.result_poll_of_stops hpage rfl, readReferences]
      · rw [if_neg hempty]
        by_cases hshort : found.length < PAGE_SIZE
        · rw [if_pos hshort, pages.result_poll_of_stops hpage (decide_eq_true hshort)]
        · rw [if_neg hshort, pages.result_poll_of_more hpage (decide_eq_false hshort), ih, pollPages]

/-- The listing as a poll reads it, with the pages that it requests. -/
def listing : pages.Polled ProxyError (List ServerConfig) :=
  pollPages proxy config responses gateway_mo_id MAX_PAGES 1 []

theorem fetch_eq_listing :
    fetch proxy config responses gateway_mo_id = (listing proxy config responses gateway_mo_id).result := by
  rw [fetch, fetchPages_eq_pollPages, listing]

theorem requested_listing :
    ∃ count ≤ MAX_PAGES, (listing proxy config responses gateway_mo_id).requested = List.range' 1 count :=
  pages.requested_poll _ _ _ _ _ _

variable {proxy config responses gateway_mo_id}

variable {inventory : Inventory}

/-- A reference to an object that is answered leads to its server. -/
theorem Answers.readChild (h : Answers proxy inventory responses gateway_mo_id) {reference : Value} {id : String}
    (hid : C8yProxy.managedObjectId reference = some id) (page index : Nat) :
    readChild proxy config responses page index reference = inventory.server config id := by
  rw [gateway.cloud_servers.readChild, hid, Option.bind_eq_bind, Option.bind_some, h.objects]
  rfl

theorem Answers.readReferences (h : Answers proxy inventory responses gateway_mo_id) {found : List Value}
    {ids : List String} (hids : found.map C8yProxy.managedObjectId = ids.map some) (page index : Nat)
    (out : List ServerConfig) :
    readReferences proxy config responses page index found out = out ++ ids.filterMap (inventory.server config) := by
  induction found generalizing ids index out with
  | nil =>
    obtain rfl : ids = [] := List.map_eq_nil_iff.mp hids.symm
    simp [gateway.cloud_servers.readReferences]
  | cons reference rest ih =>
    cases ids with
    | nil => cases hids
    | cons id ids =>
      obtain ⟨hid, hrest⟩ := List.cons.inj hids
      rw [gateway.cloud_servers.readReferences, h.readChild hid, List.filterMap_cons]
      cases inventory.server config id with
      | none => exact ih hrest (index + 1) out
      | some server =>
        dsimp only
        rw [ih hrest, List.append_assoc, List.singleton_append]

theorem Answers.serves (h : Answers proxy inventory responses gateway_mo_id) (number : Nat) (hpos : 1 ≤ number) :
    ∃ body, pages.Serves (inventory.children gateway_mo_id) PAGE_SIZE (inventory.server config)
      (readPage proxy responses gateway_mo_id)
      (fun page found out => gateway.cloud_servers.readReferences proxy config responses page 0 found out) stopsAt number
      body := by
  obtain ⟨found, hpage, hids⟩ := h.pages number hpos
  refine ⟨found, hpage, fun out => h.readReferences hids number 0 out, fun hstop => ?_⟩
  have hlength : found.length = (inventory.page gateway_mo_id number).length := by
    simpa using congrArg List.length hids
  have hshort : found.length < PAGE_SIZE := of_decide_eq_true hstop
  rw [hlength] at hshort
  exact pages.length_le_of_short hpos hshort

/-- A listing within the page limit is fetched completely. -/
theorem Answers.fetch (h : Answers proxy inventory responses gateway_mo_id)
    (hfits : (inventory.children gateway_mo_id).length ≤ MAX_PAGES * PAGE_SIZE) :
    fetch proxy config responses gateway_mo_id =
      .ok ((inventory.children gateway_mo_id).filterMap (inventory.server config)) := by
  rw [fetch_eq_listing]
  exact pages.result_poll_complete h.serves hfits

end Listing

/-- Distinct children make servers with distinct ids. -/
theorem nodup_server_ids (inventory : Inventory) (config : Config) (gateway_mo_id : String) :
    (serverIds ((inventory.children gateway_mo_id).filterMap (inventory.server config))).Nodup := by
  have hsublist : (serverIds ((inventory.children gateway_mo_id).filterMap (inventory.server config))).Sublist
      ((inventory.children gateway_mo_id).map id) := by
    refine result.map_filterMap_sublist fun child server hserver => ?_
    rw [Inventory.server, Option.ite_none_right_eq_some] at hserver
    exact (to_server_config_id hserver.2).1
  rw [List.map_id] at hsublist
  exact (inventory.distinct gateway_mo_id).sublist hsublist

end gateway.cloud_servers

namespace gateway.pagination

open device_types in
/-- A listing within the page limit, its last page full or not, is fetched completely, in
order and without repetition, and whatever the answers are, the pages are requested
one after the other up to the page limit at most. -/
theorem listings_complete (proxy : C8yProxy) (config : Config) :
    (∀ responses objects, config.proxy.device_type_ids = [] → ServesPages proxy responses objects →
      objects.length ≤ device_types.MAX_PAGES * device_types.PAGE_SIZE →
      device_types.fetch proxy config responses = .ok (objects.filterMap read_managed_object) ∧
      (((objects.filterMap ManagedObject.deserialize).map (·.id)).Nodup →
        ((objects.filterMap read_managed_object).map (·.id)).Nodup)) ∧
    (∀ responses inventory gateway_mo_id, cloud_servers.Answers proxy inventory responses gateway_mo_id →
      (inventory.children gateway_mo_id).length ≤ cloud_servers.MAX_PAGES * cloud_servers.PAGE_SIZE →
      cloud_servers.fetch proxy config responses gateway_mo_id =
        .ok ((inventory.children gateway_mo_id).filterMap (inventory.server config)) ∧
      (serverIds ((inventory.children gateway_mo_id).filterMap (inventory.server config))).Nodup) ∧
    (∀ responses, config.proxy.device_type_ids = [] →
      device_types.fetch proxy config responses = (device_types.listing proxy responses).result ∧
      ∃ count ≤ device_types.MAX_PAGES, (device_types.listing proxy responses).requested = List.range' 1 count) ∧
    ∀ responses gateway_mo_id,
      cloud_servers.fetch proxy config responses gateway_mo_id =
        (cloud_servers.listing proxy config responses gateway_mo_id).result ∧
      ∃ count ≤ cloud_servers.MAX_PAGES,
        (cloud_servers.listing proxy config responses gateway_mo_id).requested = List.range' 1 count := by
  refine ⟨fun responses objects hids hserves hfits => ?_, fun responses inventory gateway_mo_id hanswers hfits => ?_,
    fun responses hids => ?_, fun responses gateway_mo_id => ?_⟩
  · exact ⟨hserves.fetch hids hfits, nodup_read_ids⟩
  · exact ⟨hanswers.fetch hfits, cloud_servers.nodup_server_ids inventory config gateway_mo_id⟩
  · exact ⟨device_types.fetch_eq_listing proxy responses hids, device_types.requested_listing proxy responses⟩
  · exact ⟨cloud_servers.fetch_eq_listing proxy config responses gateway_mo_id,
      cloud_servers.requested_listing proxy config responses gateway_mo_id⟩

section Sample

/-- As many different ids. -/
def serials (count : Nat) : List String :=
  (List.range count).map fun n => String.ofList (List.replicate (n + 1) '1')

theorem nodup_serials (count : Nat) : (serials count).Nodup := by
  refine List.nodup_range.map fun m n h => ?_
  have hlength := congrArg List.length (String.ofList_injective h)
  simpa using hlength

theorem length_serials (count : Nat) : (serials count).length = count := by
  rw [serials, List.length_map, List.length_range]

open device_types in
theorem read_deviceTypeObject (id : String) :
    ∃ loaded, read_managed_object (deviceTypeObject id) = some loaded ∧ loaded.id = id := ⟨_, rfl, rfl⟩

open device_types in
theorem map_filterMap_read (ids : List String) :
    ((ids.map (Prod.snd ∘ fun id => (id, deviceTypeObject id))).filterMap read_managed_object).map (·.id) = ids := by
  induction ids with
  | nil => rfl
  | cons id ids ih =>
    obtain ⟨loaded, hread, hid⟩ := read_deviceTypeObject id
    rw [List.map_cons, Function.comp_apply, List.filterMap_cons_some hread, List.map_cons, hid, ih]

open device_types in
/-- A tenant with as many device types. -/
def tenantOf (count : Nat) : Tenant where
  objects := (serials count).map fun id => (id, deviceTypeObject id)
  distinct := by
    rw [List.map_map]
    exact (List.map_id _).symm ▸ nodup_serials count
  named := by
    intro object hmem loaded hread
    obtain ⟨id, -, rfl⟩ := List.mem_map.mp hmem
    obtain ⟨loaded', hread', hid⟩ := read_deviceTypeObject id
    exact Option.some.inj (hread.symm.trans hread') ▸ hid

theorem listed_tenantOf (count : Nat) : (tenantOf count).listed = (tenantOf count).objects := by
  refine List.filter_eq_self.mpr fun object hmem => ?_
  obtain ⟨id, -, rfl⟩ := List.mem_map.mp hmem
  rfl

open cloud_servers in
/-- As many servers below the gateway object. -/
def inventoryOf (count : Nat) : Inventory where
  children _ := serials count
  distinct _ := nodup_serials count
  object _ := sampleObject

open cloud_servers in
/-- A proxy that answers everything. -/
def answersOf (count : Nat) : Responses
  | .gatewayObject | .lookup _ _ => answer (sampleReference "1")
  | .page number =>
    answer (.ofMembers [("references", .array (((inventoryOf count).page "1" number).map sampleReference))])
  | .object _ _ => answer sampleObject
  | .create _ _ => fun _ => ⟨.answered 201 none, .failed⟩

open cloud_servers in
theorem answersOf_answers (count : Nat) : Answers device_types.localProxy (inventoryOf count) (answersOf count) "1" where
  pages number _ := by
    refine ⟨((inventoryOf count).page "1" number).map sampleReference, rfl, ?_⟩
    rw [List.map_map]
    rfl
  objects _ _ _ := rfl

open cloud_servers in
theorem serverIds_inventoryOf (count : Nat) (ids : List String) :
    serverIds (ids.filterMap ((inventoryOf count).server .default)) = ids := by
  induction ids with
  | nil => rfl
  | cons id ids ih =>
    obtain ⟨server, hserver, hid⟩ : ∃ server, (inventoryOf count).server .default id = some server ∧ server.id = id :=
      ⟨_, rfl, rfl⟩
    rw [List.filterMap_cons_some hserver, serverIds, List.map_cons, hid]
    exact congrArg (id :: ·) ih

/-- One device type and one server more than fit on a page. -/
theorem listings_complete_sample :
    (device_types.fetch device_types.localProxy .default ((tenantOf 1001).answers device_types.localProxy)).map
        (List.map (·.id)) = .ok (serials 1001) ∧
      (cloud_servers.fetch device_types.localProxy .default (answersOf 101) "1").map serverIds = .ok (serials 101) := by
  have hcomplete := listings_complete device_types.localProxy .default
  constructor
  · have hlength : (tenantOf 1001).listed.length = 1001 := by
      rw [listed_tenantOf, tenantOf, List.length_map, length_serials]
    have hcount : (tenantOf 1001).pageCount < 2 ^ 32 := by
      rw [device_types.Tenant.pageCount, hlength]
      decide
    have hserves := device_types.answers_serves device_types.localProxy (tenantOf 1001) hcount
    have hfits : ((tenantOf 1001).listed.map Prod.snd).length ≤ device_types.MAX_PAGES * device_types.PAGE_SIZE := by
      rw [List.length_map, hlength]
      decide
    rw [(hcomplete.1 _ _ rfl hserves.servesPages hfits).1, listed_tenantOf, tenantOf, List.map_map, Except.map,
      Except.ok.injEq]
    exact map_filterMap_read _
  · have hfits : (serials 101).length ≤ cloud_servers.MAX_PAGES * cloud_servers.PAGE_SIZE := by
      rw [length_serials]
      decide
    rw [(hcomplete.2.1 _ _ _ (answersOf_answers 101) hfits).1, Except.map, Except.ok.injEq]
    exact serverIds_inventoryOf _ _

end Sample

end gateway.pagination
