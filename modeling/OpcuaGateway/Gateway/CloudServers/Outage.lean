import OpcuaGateway.Foundation.Transition
import OpcuaGateway.Gateway.CloudServers.Listing
import OpcuaGateway.Gateway.Supervisor

open json tedge.proxy gateway.config gateway.supervisor transition

namespace gateway.cloud_servers

/-- What Cumulocity holds: the children of every object and the objects. -/
structure Inventory where
  children : String → List String
  distinct : ∀ id, (children id).Nodup
  object : String → Value

namespace Inventory

variable (inventory : Inventory)

/-- The children that belong on one page of the listing. -/
def page (gateway_mo_id : String) (page : Nat) : List String :=
  ((inventory.children gateway_mo_id).drop ((page - 1) * PAGE_SIZE)).take PAGE_SIZE

/-- A server below the gateway object that can be run. -/
structure Registered (config : Config) (gateway_mo_id id : String) : Prop where
  child : id ∈ inventory.children gateway_mo_id
  type : stringMember "type" (inventory.object id) = some SERVER_MO_TYPE
  runnable : (to_server_config config id (inventory.object id)).isSome

/-- The page of the listing that shows a child, and its place on it. -/
def pageOf (gateway_mo_id id : String) : Nat :=
  (inventory.children gateway_mo_id).idxOf id / PAGE_SIZE + 1

def indexOf (gateway_mo_id id : String) : Nat :=
  (inventory.children gateway_mo_id).idxOf id % PAGE_SIZE

end Inventory

section Faults

variable (proxy : C8yProxy) (inventory : Inventory) (responses : Responses) (gateway_mo_id : String)

/-- The page is answered with its part of the listing. -/
def Listed (page : Nat) : Prop :=
  ∃ found, readPage proxy responses gateway_mo_id page = .ok found ∧
    found.map C8yProxy.managedObjectId = (inventory.page gateway_mo_id page).map some

/-- The answers of a poll are true to the inventory except for requests that fail
and page bodies without the listing. -/
structure FaultyAnswers : Prop where
  pages : ∀ page, 1 ≤ page → Listed proxy inventory responses gateway_mo_id page ∨
    readPage proxy responses gateway_mo_id page = .ok [] ∨
    ∃ error, readPage proxy responses gateway_mo_id page = .error error
  objects : ∀ page index id,
    proxy.managed_object (responses (.object page index)) id = .ok (inventory.object id) ∨
    ∃ error, proxy.managed_object (responses (.object page index)) id = .error error

/-- No fault of the poll hides this child: its page is within the page limit, the
pages up to it carry the listing and its object is read. -/
structure Spared (id : String) : Prop where
  within : inventory.pageOf gateway_mo_id id ≤ MAX_PAGES
  listed : ∀ page, 1 ≤ page → page ≤ inventory.pageOf gateway_mo_id id →
    Listed proxy inventory responses gateway_mo_id page
  read : proxy.managed_object
    (responses (.object (inventory.pageOf gateway_mo_id id) (inventory.indexOf gateway_mo_id id))) id =
      .ok (inventory.object id)

end Faults

section Place

variable {proxy : C8yProxy} {config : Config} {inventory : Inventory} {responses : Responses}
  {gateway_mo_id : String}

theorem Inventory.getElem?_page {page index : Nat} {id : String} :
    (inventory.page gateway_mo_id page)[index]? = some id ↔
      index < PAGE_SIZE ∧ (inventory.children gateway_mo_id)[(page - 1) * PAGE_SIZE + index]? = some id := by
  rw [Inventory.page, List.getElem?_take, List.getElem?_drop]
  split <;> simp_all

/-- A child is shown on one page only, at one place. -/
theorem Inventory.eq_pageOf {page index : Nat} {id : String} (hpos : 1 ≤ page)
    (hget : (inventory.page gateway_mo_id page)[index]? = some id) :
    inventory.pageOf gateway_mo_id id = page ∧ inventory.indexOf gateway_mo_id id = index := by
  obtain ⟨hindex, hget⟩ := getElem?_page.mp hget
  obtain ⟨hlt, hget⟩ := List.getElem?_eq_some_iff.mp hget
  have hplace : (inventory.children gateway_mo_id).idxOf id = (page - 1) * PAGE_SIZE + index := by
    rw [← hget]
    exact (inventory.distinct gateway_mo_id).idxOf_getElem _ hlt
  rw [pageOf, indexOf, hplace, PAGE_SIZE] at *
  omega

theorem Inventory.getElem?_pageOf {id : String} (hchild : id ∈ inventory.children gateway_mo_id) :
    (inventory.page gateway_mo_id (inventory.pageOf gateway_mo_id id))[
      inventory.indexOf gateway_mo_id id]? = some id := by
  rw [getElem?_page, pageOf, indexOf, Nat.add_sub_cancel, Nat.div_add_mod']
  refine ⟨Nat.mod_lt _ (by decide), ?_⟩
  rw [List.getElem?_eq_getElem (List.idxOf_lt_length_of_mem hchild), List.getElem_idxOf]

/-- The pages before the one that shows a child hold as many as a page can. -/
theorem Inventory.length_page {page : Nat} {id : String} (hpos : 1 ≤ page)
    (hchild : id ∈ inventory.children gateway_mo_id) (hbefore : page < inventory.pageOf gateway_mo_id id) :
    (inventory.page gateway_mo_id page).length = PAGE_SIZE := by
  have hlt := List.idxOf_lt_length_of_mem hchild
  rw [Inventory.page, List.length_take, List.length_drop]
  simp only [pageOf, PAGE_SIZE] at *
  omega

theorem Listed.getElem? {page index : Nat} {found : List Value} {reference : Value}
    (hlisted : Listed proxy inventory responses gateway_mo_id page)
    (hpage : readPage proxy responses gateway_mo_id page = .ok found)
    (hget : found[index]? = some reference) :
    C8yProxy.managedObjectId reference = (inventory.page gateway_mo_id page)[index]? := by
  obtain ⟨found', hpage', hmap⟩ := hlisted
  cases hpage.symm.trans hpage'
  have hentry := congrArg (·[index]?) hmap
  simp only [List.getElem?_map, hget, Option.map_some] at hentry
  cases hat : (inventory.page gateway_mo_id page)[index]? with
  | none => simp [hat] at hentry
  | some id => simpa [hat] using hentry

/-- A page with references carries its part of the listing. -/
theorem FaultyAnswers.listed (hfaulty : FaultyAnswers proxy inventory responses gateway_mo_id)
    {page : Nat} {found : List Value} (hpos : 1 ≤ page)
    (hpage : readPage proxy responses gateway_mo_id page = .ok found) (hne : found ≠ []) :
    Listed proxy inventory responses gateway_mo_id page := by
  rcases hfaulty.pages page hpos with hlisted | hempty | ⟨error, herror⟩
  · exact hlisted
  · cases hpage.symm.trans hempty
    exact absurd rfl hne
  · cases hpage.symm.trans herror

/-- A poll that is not given up returns a registered server exactly when none of
its faults hides it. -/
theorem mem_fetch_iff_spared {id : String} {servers : List ServerConfig}
    (hfaulty : FaultyAnswers proxy inventory responses gateway_mo_id)
    (hregistered : inventory.Registered config gateway_mo_id id)
    (hfetch : fetch proxy config responses gateway_mo_id = .ok servers) :
    id ∈ serverIds servers ↔ Spared proxy inventory responses gateway_mo_id id := by
  constructor
  · intro hmem
    obtain ⟨server, hserver, rfl⟩ := List.mem_map.mp hmem
    obtain ⟨page, index, hread⟩ := (mem_fetch hfetch server).mp hserver
    obtain ⟨found, reference, hpage, hget, hchild⟩ := hread.converted
    obtain ⟨hreference, mo, hmo, -, -⟩ := readChild_eq_some.mp hchild
    obtain ⟨hpos, hlimit, hbefore⟩ := hread.requested
    have hlisted : Listed proxy inventory responses gateway_mo_id page := by
      refine hfaulty.listed hpos hpage ?_
      rintro rfl
      cases hget
    obtain ⟨rfl, rfl⟩ := inventory.eq_pageOf hpos
      ((hlisted.getElem? hpage hget).symm.trans hreference)
    refine ⟨hlimit, fun earlier hearlier hle => ?_, ?_⟩
    · rcases Nat.eq_or_lt_of_le hle with rfl | hlt
      · exact hlisted
      · obtain ⟨full, hfull, hsize⟩ := hbefore earlier hearlier hlt
        refine hfaulty.listed hearlier hfull ?_
        rintro rfl
        exact absurd hsize (by decide)
    · rcases hfaulty.objects _ _ server.id with hobject | ⟨error, herror⟩
      · exact hobject
      · cases hmo.symm.trans herror
  · intro hspared
    have hrequested : Requested proxy responses gateway_mo_id (inventory.pageOf gateway_mo_id id) := by
      refine ⟨Nat.succ_pos _, hspared.within, fun earlier hearlier hlt => ?_⟩
      obtain ⟨found, hfound, hmap⟩ := hspared.listed earlier hearlier hlt.le
      have hlength := congrArg List.length hmap
      rw [List.length_map, List.length_map, inventory.length_page hearlier hregistered.child hlt] at hlength
      exact ⟨found, hfound, hlength.ge⟩
    have hlisted := hspared.listed _ hrequested.1 le_rfl
    obtain ⟨found, hfound, hmap⟩ := hlisted
    have hentry := congrArg (·[inventory.indexOf gateway_mo_id id]?) hmap
    simp only [List.getElem?_map, inventory.getElem?_pageOf hregistered.child, Option.map_some,
      Option.map_eq_some_iff] at hentry
    obtain ⟨reference, hget, hreference⟩ := hentry
    obtain ⟨server, hserver⟩ := Option.isSome_iff_exists.mp hregistered.runnable
    obtain rfl := (to_server_config_id hserver).1
    have hchild := readChild_eq_some.mpr
      ⟨hreference, _, hspared.read, hregistered.type, hserver⟩
    exact List.mem_map.mpr ⟨server, (mem_fetch hfetch server).mpr
      ⟨_, _, hrequested, found, reference, hfound, hget, hchild⟩, rfl⟩

end Place

end gateway.cloud_servers
