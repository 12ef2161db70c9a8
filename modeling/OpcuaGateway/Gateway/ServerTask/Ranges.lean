import OpcuaGateway.Gateway.ServerTask.Resolution
import OpcuaGateway.Gateway.ServerTask.Run
import OpcuaGateway.Mapping.Resolve.Nodes
import OpcuaGateway.OpcuaConn.Ranges

open text mapping.model mapping.namespace_table mapping.resolve mapping.source gateway.config opcua_conn result

namespace gateway.server_task

/-- The subscription parameters of every entry have been checked. -/
def ValidPlan (p : Plan) : Prop :=
  ∀ entry ∈ p.entries, ∀ parameters, entry.delivery = .Subscription parameters → parameters.is_valid = true

section Valid

variable {codec : TextCodec} {session : Session} {table : NamespaceTable} {p : Plan}

theorem is_valid_of_delivery_of {subscription_type : Option SubscriptionType} {parameters : SubscriptionParameters}
    (h : delivery_of subscription_type = some (.Subscription parameters)) : parameters.is_valid = true := by
  unfold delivery_of at h
  obtain ⟨subscription_type, -, h⟩ := Option.bind_eq_some_iff.mp h
  split at h
  · dsimp only at h
    split at h
    · rename_i hvalid
      cases h
      exact hvalid
    · cases h
  · cases h
  · cases h

theorem validPlan_plan {id : String} {device_type : DeviceType}
    (h : plan codec id device_type table = .ok p) : ValidPlan p := by
  obtain ⟨root, -, rfl⟩ := map_eq_ok_iff.mp h
  intro entry hentry parameters hdelivery
  obtain ⟨authored, -, hplanned⟩ := List.mem_filterMap.mp hentry
  unfold planEntry at hplanned
  dsimp only at hplanned
  split at hplanned
  · cases hplanned
  · split at hplanned
    · cases hplanned
    · obtain ⟨node_ref, -, hplanned⟩ := Option.bind_eq_some_iff.mp hplanned
      obtain ⟨delivery, hchosen, hplanned⟩ := Option.bind_eq_some_iff.mp hplanned
      cases hplanned
      have hsubscription : delivery = .Subscription parameters := hdelivery
      rw [hsubscription] at hchosen
      cases hfound : (overrides_of device_type table).find?
          (fun o => o.1 == to_qualified_names table authored.browse_path) with
      | none =>
        rw [hfound] at hchosen
        exact is_valid_of_delivery_of hchosen
      | some found =>
        rw [hfound] at hchosen
        obtain ⟨authored_override, -, hoverride⟩ := List.mem_map.mp (List.mem_of_find?_eq_some hfound)
        apply is_valid_of_delivery_of
        rw [← hoverride] at hchosen
        exact hchosen

theorem ValidPlan.set_resolved (h : ValidPlan p) (index : Nat) (node_id : NodeId) :
    ValidPlan (p.set_resolved index node_id) := by
  intro entry hentry parameters hdelivery
  obtain ⟨i, hi⟩ := List.mem_iff_getElem?.mp hentry
  rw [Plan.set_resolved, List.getElem?_modify, Option.map_eq_map, Option.map_eq_some_iff] at hi
  obtain ⟨before, hbefore, rfl⟩ := hi
  apply h before (List.mem_of_getElem? hbefore) parameters
  by_cases hsame : index = i
  · simpa [hsame] using hdelivery
  · simpa [hsame] using hdelivery

theorem ValidPlan.setAllResolved (h : ValidPlan p) (found : List ((Nat × List QualifiedName) × Option NodeId)) :
    ValidPlan (setAllResolved p found) := by
  induction found generalizing p with
  | nil => exact h
  | cons head rest ih =>
    obtain ⟨entry, resolved⟩ := head
    cases resolved with
    | none => exact ih h
    | some node_id => exact ih (h.set_resolved entry.1 node_id)

/-- The parameters of every subscribed node have been checked. -/
theorem is_valid_of_resolveDeviceType {loaded : LoadedDeviceType} {mapping : ResolvedMapping}
    (h : resolveDeviceType codec session table loaded = .ok (some mapping)) {node : ResolvedNode}
    (hnode : node ∈ mapping.nodes) {parameters : SubscriptionParameters}
    (hparameters : node.subscription_parameters = some parameters) : parameters.is_valid = true := by
  unfold resolveDeviceType at h
  split at h
  · cases h
  · rename_i planned hplan
    obtain ⟨translated, htranslated, hfinish⟩ := map_eq_ok_iff.mp h
    have hvalid : ValidPlan translated := by
      unfold translatePending at htranslated
      dsimp only at htranslated
      split at htranslated
      · cases htranslated
        exact validPlan_plan hplan
      · obtain ⟨resolved, -, rfl⟩ := map_eq_ok_iff.mp htranslated
        exact (validPlan_plan hplan).setAllResolved _
    dsimp only at hfinish
    split at hfinish
    · cases hfinish
    · cases hfinish
      obtain ⟨first, -, hdelivery, hfind⟩ := of_mem_nodes hnode
      have hfirst := List.mem_of_find?_eq_some hfind
      obtain ⟨entry, hentry, hresolved⟩ := List.mem_filterMap.mp hfirst
      have hsame : first.2 = entry := by
        split at hresolved
        · cases hresolved
          rfl
        · cases hresolved
      apply hvalid entry hentry
      rw [← hsame, ← hdelivery]
      unfold ResolvedNode.subscription_parameters at hparameters
      split at hparameters
      · rename_i heq
        cases hparameters
        exact heq
      · cases hparameters

/-- Whatever is applied comes from a device type of the set. -/
theorem of_mem_resolveEach {server : ServerConfig} {known : List String} {device_types : List LoadedDeviceType}
    {mappings : List ResolvedMapping}
    (h : resolveEach codec session server known table device_types = .ok mappings) {mapping : ResolvedMapping}
    (hmem : mapping ∈ mappings) :
    ∃ loaded ∈ device_types, resolveDeviceType codec session table loaded = .ok (some mapping) := by
  induction device_types generalizing mappings with
  | nil =>
    cases h
    cases hmem
  | cons loaded rest ih =>
    have hskip : ∀ {mappings}, resolveEach codec session server known table rest = .ok mappings →
        mapping ∈ mappings → ∃ other ∈ loaded :: rest,
          resolveDeviceType codec session table other = .ok (some mapping) := by
      intro mappings hrest hmem
      obtain ⟨other, hother, hfound⟩ := ih hrest hmem
      exact ⟨other, List.mem_cons_of_mem _ hother, hfound⟩
    rw [resolveEach] at h
    split at h
    · exact hskip h hmem
    · split at h
      · cases h
      · exact hskip h hmem
      · rename_i found hfound
        obtain ⟨others, hothers, rfl⟩ := map_eq_ok_iff.mp h
        rcases List.mem_cons.mp hmem with rfl | hmem
        · exact ⟨loaded, List.mem_cons_self, hfound⟩
        · exact hskip hothers hmem

end Valid

section Specs

variable {codec : TextCodec} {config : Config} {server : ServerConfig} {known_server_ids : List String}
  {connection : Connection} {device_types : List LoadedDeviceType}

/-- The items of a generation carry ranges the model accepts. -/
theorem is_numeric_range_of_mem_specs {spec : MonitoredItemSpec} {range : String}
    (hmem : spec ∈ specsOf config.subscription
      (newGeneration codec config server known_server_ids connection device_types).applied)
    (hrange : spec.index_range = some range) : is_numeric_range range = true := by
  obtain ⟨target, htarget, rfl⟩ := List.mem_map.mp hmem
  obtain ⟨device, hdevice, hsubscribed⟩ := List.mem_flatMap.mp htarget
  obtain ⟨node, hnode, rfl⟩ := List.mem_map.mp hsubscribed
  obtain ⟨parameters, hparameters, hindex⟩ := Option.bind_eq_some_iff.mp hrange
  refine is_numeric_range_of_is_valid ?_ hindex
  simp only [newGeneration] at hdevice
  split at hdevice
  · rename_i mappings hresolved
    obtain ⟨mapping, hmapping, rfl⟩ := List.mem_map.mp hdevice
    unfold resolve_all at hresolved
    split at hresolved
    · cases hresolved
    · obtain ⟨loaded, -, hfound⟩ := of_mem_resolveEach hresolved hmapping
      exact is_valid_of_resolveDeviceType hfound (List.mem_of_mem_filter hnode) hparameters
  · cases hdevice

end Specs

/-- The client library reads the ranges that the model accepts exactly when they fit.
So the items of a generation are all requested, without a range error, exactly when
each of their ranges fits. -/
theorem ranges_agree_iff (codec : TextCodec) (config : Config) :
    (∀ (parameters : SubscriptionParameters) (range : String), parameters.is_valid = true →
      parameters.ranges = some range → isBlank range = false →
      (parsesAsRange (trim range) = true ↔ RangeFits (trim range))) ∧
    ∀ (server : ServerConfig) (known_server_ids : List String) (connection : Connection)
      (device_types : List LoadedDeviceType),
      (∀ subscription_id requests range,
        connection.createItems subscription_id requests ≠ .error (.InvalidRange range)) →
      let specs := specsOf config.subscription
        (newGeneration codec config server known_server_ids connection device_types).applied
      ((∀ subscription_id range,
          create_monitored_items connection subscription_id specs ≠ .error (.InvalidRange range)) ↔
        ∀ spec ∈ specs, ∀ range, spec.index_range = some range → RangeFits range) ∧
      ((∃ requests, List.Forall₂ (fun spec request => requestOf spec = .ok request) specs requests) ↔
        ∀ spec ∈ specs, ∀ range, spec.index_range = some range → RangeFits range) := by
  constructor
  · intro parameters range hvalid hranges hblank
    have hindex : parameters.index_range = some (trim range) := by
      rw [SubscriptionParameters.index_range, hranges]
      simpa [isBlank] using hblank
    exact parsesAsRange_iff (is_numeric_range_of_is_valid hvalid hindex)
  · intro server known_server_ids connection device_types hservice specs
    have hfits : (∃ requests, List.Forall₂ (fun spec request => requestOf spec = .ok request) specs requests) ↔
        ∀ spec ∈ specs, ∀ range, spec.index_range = some range → RangeFits range := by
      rw [exists_requests_iff]
      constructor
      · intro hall spec hmem range hrange
        exact (parsesAsRange_iff (is_numeric_range_of_mem_specs hmem hrange)).mp (hall spec hmem range hrange)
      · intro hall spec hmem range hrange
        exact (parsesAsRange_iff (is_numeric_range_of_mem_specs hmem hrange)).mpr (hall spec hmem range hrange)
    refine ⟨?_, hfits⟩
    rw [← hfits]
    constructor
    · intro hnone
      exact (create_monitored_items_invalid_iff hservice 0 specs).mp (hnone 0)
    · intro hrequests subscription_id
      exact (create_monitored_items_invalid_iff hservice subscription_id specs).mpr hrequests

/-- A server that creates no items. -/
def idleConnection : Connection where
  toSession := resolvingSession []
  create_subscription _ := .ok 1
  createItems _ _ := .ok []
  distinct_handles := by
    intro subscription_id requests created hcreated
    cases hcreated
    exact List.nodup_nil

/-- The sample device type with a numeric range. -/
def rangedDeviceType (range : String) : LoadedDeviceType :=
  { sampleDeviceType with
    device_type :=
      { sampleDeviceType.device_type with
        subscription_type := some ⟨some "Subscription", none,
          some { SubscriptionParameters.default with ranges := some range }⟩ } }

theorem idleConnection_service : ∀ subscription_id requests range,
    idleConnection.createItems subscription_id requests ≠ .error (.InvalidRange range) := by
  intro subscription_id requests range herror
  cases herror

theorem ordered_range_requested :
    ∃ requests, List.Forall₂ (fun spec request => requestOf spec = .ok request)
      (specsOf Config.default.subscription (newGeneration plainCodec .default (sampleServer "b") [] idleConnection
        [rangedDeviceType "1:5"]).applied) requests := by
  have hagree := (ranges_agree_iff plainCodec .default).2 (sampleServer "b") [] idleConnection
    [rangedDeviceType "1:5"] idleConnection_service
  refine hagree.2.mpr fun spec hmem range hrange => ?_
  have hparses : ∀ spec ∈ specsOf Config.default.subscription (newGeneration plainCodec .default (sampleServer "b") []
      idleConnection [rangedDeviceType "1:5"]).applied, spec.index_range = some "1:5" := by decide
  cases hrange.symm.trans (hparses spec hmem)
  exact (parsesAsRange_iff (by decide)).mp (by decide)

/-- One range with reversed bounds costs every item its request. -/
theorem reversed_range_aborts_request :
    ¬ ∀ (codec : TextCodec) (config : Config) server known_server_ids (connection : Connection) device_types,
      (∀ subscription_id requests range,
        connection.createItems subscription_id requests ≠ .error (.InvalidRange range)) →
      ∀ subscription_id range, create_monitored_items connection subscription_id (specsOf config.subscription
        (newGeneration codec config server known_server_ids connection device_types).applied) ≠
          .error (.InvalidRange range) := by
  intro hall
  exact hall plainCodec .default (sampleServer "b") [] idleConnection [rangedDeviceType "5:3"]
    idleConnection_service 1 "5:3" rfl

end gateway.server_task
