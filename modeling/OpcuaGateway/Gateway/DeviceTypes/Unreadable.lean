import OpcuaGateway.Gateway.DeviceTypes.Fetch

open json ordered_map mapping.model mapping.source gateway.config tedge.proxy

namespace gateway.device_types

/-- The query of the listing: managed objects of the type with the fragment. -/
def isListed (value : Value) : Bool :=
  value.get "type" == some (.string DEVICE_TYPE_MO_TYPE) && (value.get DEVICE_TYPE_FRAGMENT).isSome

/-- The managed objects of a tenant by id, in the order in which they are listed. What
is read as a device type carries the id of its object. -/
structure Tenant where
  objects : List (String × Value)
  distinct : (objects.map Prod.fst).Nodup
  named : ∀ object ∈ objects, ∀ loaded, read_managed_object object.2 = some loaded → loaded.id = object.1

def Tenant.listed (self : Tenant) : List (String × Value) := self.objects.filter fun object => isListed object.2

/-- The objects of one page of the listing. -/
def Tenant.page (self : Tenant) (page : Nat) : List Value :=
  ((self.listed.map Prod.snd).drop ((page - 1) * PAGE_SIZE)).take PAGE_SIZE

def Tenant.pageCount (self : Tenant) : Nat := (self.listed.length + PAGE_SIZE - 1) / PAGE_SIZE

/-- The proxy answers for the tenant: an object by its id, and the listing page by page,
with statistics that are right if they are there. -/
structure Serves (proxy : C8yProxy) (tenant : Tenant) (responses : FetchResponses) : Prop where
  object : ∀ index id, proxy.managed_object (responses (.object index)) id =
    match lookup id tenant.objects with
    | some value => .ok value
    | none => .error (.Status (proxy.base_url ++ "/inventory/managedObjects/" ++ id) 404)
  page : ∀ page, 1 ≤ page → ∃ statistics,
    readPage proxy responses page = .ok (some ⟨tenant.page page, statistics⟩) ∧
      ∀ total, statistics.bind (·.total_pages) = some total → total = tenant.pageCount

/-- What becomes of a device type: its object does not exist any more, or is one that
cannot be read as a device type. -/
inductive Loss where
  | missing
  | undecodable (value : Value) (unread : read_managed_object value = none)

/-- What is left of the object with this id. -/
def Loss.apply (self : Loss) (id : String) (object : String × Value) : Option (String × Value) :=
  if object.1 = id then
    match self with
    | .missing => none
    | .undecodable value _ => some (id, value)
  else some object

/-- A device type is lost to the change, and nothing else. -/
def CostsOnlyItself (proxy : C8yProxy) (config : Config) (before after : FetchResponses) (id : String) : Prop :=
  (fetch proxy config after).toOption = ((fetch proxy config before).toOption).map (·.filter (·.id ≠ id))

section Tenant

variable {tenant : Tenant} {id : String} {loss : Loss}

theorem fst_of_apply {object left : String × Value} (h : loss.apply id object = some left) : left.1 = object.1 := by
  unfold Loss.apply at h
  split at h
  · rename_i hid
    split at h
    · cases h
    · cases h
      exact hid.symm
  · cases h
    rfl

theorem keys_apply_sublist (objects : List (String × Value)) :
    ((objects.filterMap (loss.apply id)).map Prod.fst).Sublist (objects.map Prod.fst) :=
  result.map_filterMap_sublist fun _ _ => fst_of_apply

/-- The tenant after the change. -/
def Tenant.lose (self : Tenant) (id : String) (loss : Loss) : Tenant where
  objects := self.objects.filterMap (loss.apply id)
  distinct := self.distinct.sublist (keys_apply_sublist self.objects)
  named := by
    intro left hleft loaded hread
    obtain ⟨object, hmem, hobject⟩ := List.mem_filterMap.mp hleft
    unfold Loss.apply at hobject
    split at hobject
    · split at hobject
      · cases hobject
      · rename_i value unread
        cases hobject
        rw [unread] at hread
        cases hread
    · cases hobject
      exact self.named left hmem loaded hread

end Tenant

/-- What a fetch reads of a tenant: the configured objects if all of them exist, or the
listing up to the page limit. -/
def Tenant.fetched (self : Tenant) (config : Config) : Option (List LoadedDeviceType) :=
  if config.proxy.device_type_ids ≠ [] then
    (config.proxy.device_type_ids.mapM fun id => lookup id self.objects).map (·.filterMap read_managed_object)
  else some (((self.listed.take (MAX_PAGES * PAGE_SIZE)).map Prod.snd).filterMap read_managed_object)

section Fetch

variable {proxy : C8yProxy} {config : Config} {tenant : Tenant} {responses : FetchResponses}

theorem Serves.allObjects (h : Serves proxy tenant responses) (index : Nat) (ids : List String) :
    allObjects proxy responses index ids = ids.mapM fun id => lookup id tenant.objects := by
  induction ids generalizing index with
  | nil => rfl
  | cons id ids ih =>
    rw [gateway.device_types.allObjects, h.object, List.mapM_cons]
    cases lookup id tenant.objects with
    | none => rfl
    | some value =>
      dsimp only
      rw [ih]
      cases ids.mapM fun id => lookup id tenant.objects <;> rfl

theorem Serves.servesPages (h : Serves proxy tenant responses) :
    ServesPages proxy responses (tenant.listed.map Prod.snd) where
  page := by
    intro page hpos
    obtain ⟨statistics, hpage, htotal⟩ := h.page page hpos
    refine ⟨statistics, hpage, fun total hsome => ?_⟩
    rw [htotal total hsome, Tenant.pageCount, List.length_map]
    unfold PAGE_SIZE
    omega

/-- The pages from one on hold the rest of the listing, as far as they go. -/
theorem Serves.fetchPages (h : Serves proxy tenant responses) {A : Type} (read : Value → Option A)
    (remaining page : Nat) (hpos : 1 ≤ page) (out : List A) :
    fetchPages proxy responses read remaining page out = .ok (out ++
      (((tenant.listed.map Prod.snd).drop ((page - 1) * PAGE_SIZE)).take (remaining * PAGE_SIZE)).filterMap read) := by
  rw [fetchPages_eq_pollPages]
  exact pages.result_poll (h.servesPages.serves read) remaining hpos out

/-- A fetch reads the tenant that the proxy answers for. -/
theorem Serves.fetch (h : Serves proxy tenant responses) :
    (fetch proxy config responses).toOption = tenant.fetched config := by
  rw [gateway.device_types.fetch, collect, Tenant.fetched]
  split
  · have hreports : Reports read_managed_object []
        (fetchObjects proxy responses read_managed_object 0 config.proxy.device_type_ids [])
        (gateway.device_types.allObjects proxy responses 0 config.proxy.device_type_ids) :=
      fetchObjects_reports 0 _ []
    rw [hreports.toOption_eq, h.allObjects]
    simp only [List.nil_append]
  · rw [h.fetchPages read_managed_object MAX_PAGES 1 le_rfl []]
    rw [List.nil_append, List.map_take]
    rfl

end Fetch

section List

variable {A K : Type} [DecidableEq K] {key : A → K} {items : List A}

/-- Without one item a prefix is the prefix that is shorter by one, if it holds the item. -/
theorem filter_ne_take (hdistinct : (items.map key).Nodup) (n : Nat) (k : K) :
    (items.take n).filter (key · ≠ k) =
      (items.filter (key · ≠ k)).take (if k ∈ (items.take n).map key then n - 1 else n) := by
  induction items generalizing n with
  | nil => simp
  | cons first rest ih =>
    obtain ⟨hfresh, hrest⟩ := List.nodup_cons.mp hdistinct
    cases n with
    | zero => simp
    | succ n =>
      rw [List.take_succ_cons, List.map_cons]
      by_cases hfirst : key first = k
      · subst hfirst
        have hnot : key first ∉ (rest.take n).map key := by
          intro hmem
          obtain ⟨other, hother, hsame⟩ := List.mem_map.mp hmem
          exact hfresh (List.mem_map.mpr ⟨other, List.mem_of_mem_take hother, hsame⟩)
        rw [if_pos List.mem_cons_self, List.filter_cons_of_neg (by simp), List.filter_cons_of_neg (by simp),
          ih hrest, if_neg hnot]
        rfl
      · rw [List.filter_cons_of_pos (by simpa using hfirst), List.filter_cons_of_pos (by simpa using hfirst), ih hrest]
        by_cases hmem : k ∈ (rest.take n).map key
        · have hpos : n ≠ 0 := by
            rintro rfl
            cases hmem
          obtain ⟨m, rfl⟩ := Nat.exists_eq_succ_of_ne_zero hpos
          rw [if_pos hmem, if_pos (List.mem_cons_of_mem _ hmem)]
          rfl
        · have hnot : k ∉ key first :: (rest.take n).map key := by
            rw [List.mem_cons]
            exact fun h => h.elim (fun hsame => hfirst hsame.symm) hmem
          rw [if_neg hmem, if_neg hnot]
          rfl

/-- One item more makes no difference exactly when nothing is read of it. -/
theorem filterMap_take_succ_eq_iff {B : Type} {read : A → Option B} (n : Nat) :
    (items.take (n + 1)).filterMap read = (items.take n).filterMap read ↔
      ∀ item, items[n]? = some item → read item = none := by
  rw [List.take_add_one, List.filterMap_append]
  cases hitem : items[n]? with
  | none => simp
  | some item =>
    cases hread : read item with
    | none => simp [hread]
    | some b => simp [hread]

end List

/-- The listed objects beside one. -/
def Tenant.others (self : Tenant) (id : String) : List (String × Value) := self.listed.filter (·.1 ≠ id)

def Tenant.reachedIds (self : Tenant) : List String := (self.listed.take (MAX_PAGES * PAGE_SIZE)).map Prod.fst

/-- The change stays without consequence for other device types: a missing object is not
asked for by its id, unless the fetch fails anyway, and no other object moves across
the page limit of the listing, unless it is no device type. -/
structure Spared (tenant : Tenant) (config : Config) (id : String) (loss : Loss) : Prop where
  configured : config.proxy.device_type_ids ≠ [] → loss = .missing → id ∈ config.proxy.device_type_ids →
    ∃ other ∈ config.proxy.device_type_ids, lookup other tenant.objects = none
  listed : config.proxy.device_type_ids = [] →
    (id ∈ (tenant.lose id loss).reachedIds ↔ id ∈ tenant.reachedIds) ∨
      ∀ other, (tenant.others id)[MAX_PAGES * PAGE_SIZE - 1]? = some other → read_managed_object other.2 = none

section Spared

variable {tenant : Tenant} {config : Config} {id : String} {loss : Loss}

theorem mem_of_lookup {k : String} {objects : List (String × Value)} {value : Value}
    (h : lookup k objects = some value) : (k, value) ∈ objects := by
  induction objects with
  | nil => cases h
  | cons object rest ih =>
    rw [lookup] at h
    split at h
    · rename_i hk
      cases h
      subst hk
      exact List.mem_cons_self
    · exact List.mem_cons_of_mem _ (ih h)

theorem lookup_lose (k : String) :
    lookup k (tenant.lose id loss).objects = (lookup k tenant.objects).bind fun value =>
      (loss.apply id (k, value)).map Prod.snd := by
  change lookup k (tenant.objects.filterMap (loss.apply id)) = _
  have hdistinct := tenant.distinct
  generalize tenant.objects = objects at hdistinct ⊢
  induction objects with
  | nil => rfl
  | cons object rest ih =>
    obtain ⟨hfresh, hrest⟩ := List.nodup_cons.mp hdistinct
    have hothers := ih hrest
    rw [List.filterMap_cons, lookup]
    by_cases hk : k = object.1
    · subst hk
      rw [if_pos rfl, Option.bind_some]
      cases hleft : loss.apply id object with
      | none =>
        have hnone : lookup object.1 rest = none := by
          cases hlookup : lookup object.1 rest with
          | none => rfl
          | some value => exact absurd (List.mem_map_of_mem (mem_of_lookup hlookup)) hfresh
        rw [hnone] at hothers
        exact hothers
      | some left =>
        have hkey := fst_of_apply hleft
        dsimp only
        rw [lookup, if_pos hkey.symm]
        rfl
    · rw [if_neg hk]
      cases hleft : loss.apply id object with
      | none => exact hothers
      | some left =>
        have hkey := fst_of_apply hleft
        dsimp only
        rw [lookup, if_neg (by rwa [hkey])]
        exact hothers

/-- What is read of an object with another id is kept, what is read of this one is not. -/
theorem filter_read {object : String × Value} (hmem : object ∈ tenant.objects) :
    (read_managed_object object.2).filter (·.id ≠ id) = if object.1 = id then none else read_managed_object object.2 := by
  cases hread : read_managed_object object.2 with
  | none => simp
  | some loaded =>
    have hid := tenant.named object hmem loaded hread
    rw [Option.filter_some, hid]
    by_cases hsame : object.1 = id <;> simp [hsame]

/-- Nothing is read of the object that was changed. -/
theorem read_lose {object : String × Value} (hmem : object ∈ (tenant.lose id loss).objects) (hid : object.1 = id) :
    read_managed_object object.2 = none := by
  obtain ⟨before, -, hleft⟩ := List.mem_filterMap.mp hmem
  have hkey := fst_of_apply hleft
  unfold Loss.apply at hleft
  rw [if_pos (hkey.symm.trans hid)] at hleft
  split at hleft
  · cases hleft
  · rename_i value unread
    cases hleft
    exact unread

/-- Fetching by id: the change costs the device type only, unless its object is missing
and everything else that is asked for is there. -/
theorem configured_iff (ids : List String) :
    (ids.mapM fun k => lookup k (tenant.lose id loss).objects).map (·.filterMap read_managed_object) =
        ((ids.mapM fun k => lookup k tenant.objects).map (·.filterMap read_managed_object)).map
          (·.filter (·.id ≠ id)) ↔
      (loss = .missing → id ∈ ids → ∃ other ∈ ids, lookup other tenant.objects = none) := by
  constructor
  · rintro heq rfl hmem
    have hmissing : lookup id (tenant.lose id .missing).objects = none := by
      rw [lookup_lose]
      cases lookup id tenant.objects <;> simp [Loss.apply]
    have hnone : (ids.mapM fun k => lookup k (tenant.lose id .missing).objects) = none :=
      result.mapM_eq_none_iff.mpr ⟨id, hmem, hmissing⟩
    rw [hnone, Option.map_none, eq_comm, Option.map_eq_none_iff, Option.map_eq_none_iff] at heq
    exact result.mapM_eq_none_iff.mp heq
  · intro hspared
    by_cases hnone : ∃ other ∈ ids, lookup other tenant.objects = none
    · obtain ⟨other, hmem, hother⟩ := hnone
      have hbefore : (ids.mapM fun k => lookup k tenant.objects) = none :=
        result.mapM_eq_none_iff.mpr ⟨other, hmem, hother⟩
      have hafter : (ids.mapM fun k => lookup k (tenant.lose id loss).objects) = none :=
        result.mapM_eq_none_iff.mpr ⟨other, hmem, by rw [lookup_lose, hother, Option.bind_none]⟩
      rw [hbefore, hafter]
      rfl
    · refine result.filterMap_mapM_filter fun k hk => ?_
      rw [lookup_lose]
      cases hlookup : lookup k tenant.objects with
      | none => rfl
      | some value =>
        have hread : (read_managed_object value).filter (·.id ≠ id) = if k = id then none else read_managed_object value :=
          filter_read (mem_of_lookup hlookup)
        rw [Option.bind_some, Option.map_some, hread]
        by_cases hid : k = id
        · subst hid
          cases loss with
          | missing => exact absurd (hspared rfl hk) hnone
          | undecodable value unread => simp [Loss.apply, unread]
        · simp [Loss.apply, hid]

/-- The change touches no other object. -/
theorem filter_lose : (tenant.lose id loss).objects.filter (·.1 ≠ id) = tenant.objects.filter (·.1 ≠ id) := by
  change (tenant.objects.filterMap (loss.apply id)).filter _ = _
  induction tenant.objects with
  | nil => rfl
  | cons object rest ih =>
    rw [List.filterMap_cons]
    by_cases hid : object.1 = id
    · rw [List.filter_cons_of_neg (by simpa using hid), ← ih]
      cases hleft : loss.apply id object with
      | none => rfl
      | some left =>
        have hkey := fst_of_apply hleft
        exact List.filter_cons_of_neg (by simp [hkey, hid])
    · have hleft : loss.apply id object = some object := if_neg hid
      rw [hleft]
      dsimp only
      rw [List.filter_cons_of_pos (by simpa using hid), List.filter_cons_of_pos (by simpa using hid), ih]

theorem others_lose : (tenant.lose id loss).others id = tenant.others id := by
  rw [Tenant.others, Tenant.listed, List.filter_comm, filter_lose, List.filter_comm]
  rfl

/-- What a listing up to the limit yields beside one object is a prefix of the others. -/
theorem take_listed (tenant : Tenant) (id : String) :
    (tenant.listed.take (MAX_PAGES * PAGE_SIZE)).filter (·.1 ≠ id) =
      (tenant.others id).take (if id ∈ tenant.reachedIds then MAX_PAGES * PAGE_SIZE - 1 else MAX_PAGES * PAGE_SIZE) :=
  filter_ne_take (tenant.distinct.sublist (List.filter_sublist.map _)) _ id

/-- Fetching the listing: the change costs the device type only, unless another one
moves across the page limit. -/
theorem listed_iff :
    (((tenant.lose id loss).listed.take (MAX_PAGES * PAGE_SIZE)).map Prod.snd).filterMap read_managed_object =
        (((tenant.listed.take (MAX_PAGES * PAGE_SIZE)).map Prod.snd).filterMap read_managed_object).filter
          (·.id ≠ id) ↔
      (id ∈ (tenant.lose id loss).reachedIds ↔ id ∈ tenant.reachedIds) ∨
        ∀ other, (tenant.others id)[MAX_PAGES * PAGE_SIZE - 1]? = some other → read_managed_object other.2 = none := by
  have hafter : (((tenant.lose id loss).listed.take (MAX_PAGES * PAGE_SIZE)).map Prod.snd).filterMap
      read_managed_object = (((tenant.lose id loss).listed.take (MAX_PAGES * PAGE_SIZE)).filter (·.1 ≠ id)).filterMap
        fun object => read_managed_object object.2 := by
    rw [List.filterMap_map, List.filterMap_filter]
    refine List.filterMap_congr fun object hmem => ?_
    by_cases hid : object.1 = id
    · have hobject := (List.mem_filter.mp (List.mem_of_mem_take hmem)).1
      simp [hid, read_lose hobject hid]
    · simp [hid]
  have hbefore : (((tenant.listed.take (MAX_PAGES * PAGE_SIZE)).map Prod.snd).filterMap read_managed_object).filter
      (·.id ≠ id) = ((tenant.listed.take (MAX_PAGES * PAGE_SIZE)).filter (·.1 ≠ id)).filterMap
        fun object => read_managed_object object.2 := by
    rw [List.filterMap_map, List.filterMap_filter, List.filter_filterMap]
    refine List.filterMap_congr fun object hmem => ?_
    have hobject := (List.mem_filter.mp (List.mem_of_mem_take hmem)).1
    rw [Function.comp_apply, filter_read hobject]
    by_cases hid : object.1 = id <;> simp [hid]
  rw [hafter, hbefore, take_listed, take_listed, others_lose]
  obtain ⟨limit, hlimit⟩ : ∃ limit, MAX_PAGES * PAGE_SIZE = limit + 1 := ⟨_, rfl⟩
  rw [hlimit, Nat.add_sub_cancel]
  have hone : ((tenant.others id).take (limit + 1)).filterMap (fun object => read_managed_object object.2) =
      ((tenant.others id).take limit).filterMap (fun object => read_managed_object object.2) ↔
        ∀ other, (tenant.others id)[limit]? = some other → read_managed_object other.2 = none :=
    filterMap_take_succ_eq_iff limit
  by_cases hleft : id ∈ (tenant.lose id loss).reachedIds <;> by_cases hright : id ∈ tenant.reachedIds
  · simp [hleft, hright]
  · simp only [hleft, hright, if_true, if_false]
    simpa [eq_comm] using hone
  · simp only [hleft, hright, if_true, if_false]
    simpa using hone
  · simp [hleft, hright]

end Spared

/-- Whatever the tenant holds, an object that is missing or cannot be read costs only its
own device type exactly when it is spared. -/
theorem costs_only_itself_iff {proxy : C8yProxy} {tenant : Tenant} {before after : FetchResponses} (config : Config)
    (id : String) (loss : Loss) (hbefore : Serves proxy tenant before)
    (hafter : Serves proxy (tenant.lose id loss) after) :
    CostsOnlyItself proxy config before after id ↔ Spared tenant config id loss := by
  rw [CostsOnlyItself, hbefore.fetch, hafter.fetch, Tenant.fetched, Tenant.fetched]
  by_cases hids : config.proxy.device_type_ids = []
  · rw [if_neg (not_not.mpr hids), if_neg (not_not.mpr hids), Option.map_some, Option.some.injEq, listed_iff]
    exact ⟨fun h => ⟨fun hsome => absurd hids hsome, fun _ => h⟩, fun h => h.listed hids⟩
  · rw [if_pos hids, if_pos hids, configured_iff]
    exact ⟨fun h => ⟨fun _ => h, fun hnone => absurd hnone hids⟩, fun h => h.configured hids⟩

section Sample

variable (proxy : C8yProxy)

/-- The body of one page of the listing. -/
def Tenant.pageBody (self : Tenant) (page : Nat) : Value :=
  .object [
    ("managedObjects", .array (self.page page)),
    ("statistics", .object [("totalPages", .number (.PosInt self.pageCount))])]

/-- A proxy that answers for the tenant. -/
def Tenant.answers (self : Tenant) : FetchResponses
  | .object _ => fun request =>
    match self.objects.find? fun object =>
        request = .get (proxy.base_url ++ "/inventory/managedObjects/" ++ object.1) with
    | some object => ⟨.answered 200 (some object.2), .failed⟩
    | none => ⟨.answered 404 none, .failed⟩
  | .page page => fun _ => ⟨.answered 200 (some (self.pageBody page)), .failed⟩

theorem find?_eq_lookup (objects : List (String × Value)) (base id : String) :
    objects.find? (fun object => HttpRequest.get (base ++ id) = .get (base ++ object.1)) =
      (lookup id objects).map fun value => (id, value) := by
  induction objects with
  | nil => rfl
  | cons object rest ih =>
    rw [lookup]
    by_cases hid : id = object.1
    · subst hid
      rw [List.find?_cons_of_pos (by simp), if_pos rfl]
      rfl
    · have hurl : HttpRequest.get (base ++ id) ≠ .get (base ++ object.1) := by
        intro h
        rw [HttpRequest.get.injEq, String.append_right_inj] at h
        exact hid h
      rw [List.find?_cons_of_neg (by simpa using hurl), if_neg hid]
      exact ih

theorem deserialize_pageBody (tenant : Tenant) (hcount : tenant.pageCount < 2 ^ 32) (page : Nat) :
    ManagedObjectPage.deserialize (tenant.pageBody page) =
      some ⟨tenant.page page, some ⟨some tenant.pageCount, none, none⟩⟩ := by
  have hobjects : serde.nullAs [] (serde.vec serde.raw) (.array (tenant.page page)) = some (tenant.page page) := by
    have hitems : serde.vec serde.raw (.array (tenant.page page)) = some (tenant.page page) := by
      change (tenant.page page).mapM (fun value => pure (id value)) = some (tenant.page page)
      rw [List.mapM_pure, List.map_id]
      rfl
    change ((serde.vec serde.raw (.array (tenant.page page))).map some).map (·.getD []) = some (tenant.page page)
    rw [hitems]
    rfl
  have htotal : serde.option (serde.unsigned (2 ^ 32)) (.number (.PosInt tenant.pageCount)) =
      some (some tenant.pageCount) := congrArg (Option.map some) (if_pos hcount)
  have hstatistics : serde.option Statistics.deserialize (.object [("totalPages", .number (.PosInt tenant.pageCount))]) =
      some (some ⟨some tenant.pageCount, none, none⟩) := by
    change ((serde.option (serde.unsigned (2 ^ 32)) (.number (.PosInt tenant.pageCount))).bind fun total_pages =>
      some (Statistics.mk total_pages none none)).map some = _
    rw [htotal]
    rfl
  change ((serde.nullAs [] (serde.vec serde.raw) (.array (tenant.page page))).bind fun managed_objects =>
    (serde.option Statistics.deserialize (.object [("totalPages", .number (.PosInt tenant.pageCount))])).bind
      fun statistics => some (ManagedObjectPage.mk managed_objects statistics)) = _
  rw [hobjects, hstatistics]
  rfl

theorem answers_serves (tenant : Tenant) (hcount : tenant.pageCount < 2 ^ 32) :
    Serves proxy tenant (tenant.answers proxy) where
  object := by
    intro index id
    rw [C8yProxy.managed_object, C8yProxy.get_json, Tenant.answers]
    dsimp only
    rw [find?_eq_lookup]
    cases lookup id tenant.objects <;> rfl
  page := by
    intro page _
    refine ⟨some ⟨some tenant.pageCount, none, none⟩, ?_, fun total htotal => (Option.some.inj htotal).symm⟩
    rw [readPage, ← deserialize_pageBody tenant hcount page]
    rfl

/-- A device type without any settings. -/
def deviceTypeObject (id : String) : Value :=
  .object [("id", .string id), ("type", .string DEVICE_TYPE_MO_TYPE), (DEVICE_TYPE_FRAGMENT, .object [])]

/-- A tenant with two device types. -/
def pair : Tenant where
  objects := [("pump", deviceTypeObject "pump"), ("valve", deviceTypeObject "valve")]
  distinct := by decide
  named := by
    intro object hmem loaded hread
    have hids : (read_managed_object object.2).map (·.id) = some object.1 := by
      rcases List.mem_pair.mp hmem with rfl | rfl <;> decide
    rw [hread] at hids
    exact Option.some.inj hids

def localProxy : C8yProxy := ⟨"http://127.0.0.1:8001/c8y"⟩

/-- The law for a listing from which an object has disappeared. -/
theorem costs_only_itself_iff_pair :
    CostsOnlyItself localProxy .default (pair.answers localProxy) ((pair.lose "pump" .missing).answers localProxy)
        "pump" ↔ Spared pair .default "pump" .missing :=
  costs_only_itself_iff .default "pump" .missing (answers_serves localProxy pair (by decide))
    (answers_serves localProxy (pair.lose "pump" .missing) (by decide))

/-- The default configuration with both device types to fetch by their ids. -/
def configuredPair : Config := { Config.default with proxy := ⟨true, 60, ["pump", "valve"]⟩ }

/-- An id that does not exist any more costs every device type. -/
theorem missing_id_costs_all :
    ¬ ∀ (proxy : C8yProxy) (config : Config) (tenant : Tenant) (before after : FetchResponses) (id : String)
        (loss : Loss), Serves proxy tenant before → Serves proxy (tenant.lose id loss) after →
        CostsOnlyItself proxy config before after id := by
  intro hall
  let proxy := localProxy
  have hcosts := hall proxy configuredPair pair (pair.answers proxy) ((pair.lose "pump" .missing).answers proxy) "pump"
    .missing (answers_serves proxy pair (by decide)) (answers_serves proxy (pair.lose "pump" .missing) (by decide))
  have hbefore : ((fetch proxy configuredPair (pair.answers proxy)).toOption).isSome = true := by decide
  have hafter : ((fetch proxy configuredPair ((pair.lose "pump" .missing).answers proxy)).toOption).isSome = false := by
    decide
  rw [hcosts, Option.isSome_map, hbefore] at hafter
  cases hafter

end Sample

end gateway.device_types
