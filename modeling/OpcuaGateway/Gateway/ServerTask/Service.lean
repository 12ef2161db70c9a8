import OpcuaGateway.Gateway.ServerTask
import OpcuaGateway.OpcuaConn.Subscription

open ordered_map tedge.topic mapping.model mapping.value mapping.resolve gateway.config opcua_conn

namespace gateway.server_task

/-- Where one monitored item's notifications are published. -/
structure SubscribedTarget where
  entity : EntityTopicId
  device_type_id : String
  node : ResolvedNode
  deriving DecidableEq

/-- One target per device type and subscribed node. -/
def targetsOf (applied : List AppliedDeviceType) : List SubscribedTarget :=
  applied.flatMap fun device => device.mapping.subscribed_nodes.map fun node =>
    ⟨device.entity, device.mapping.device_type_id, node⟩

/-- Translate a resolved node's device type parameters into a monitored item request. -/
def item_spec (config : SubscriptionConfig) (node : ResolvedNode) : MonitoredItemSpec :=
  let params := node.subscription_parameters
  { node_id := node.node_id
    sampling_interval_ms := params.bind (·.sampling_rate)
    queue_size := (params.bind (·.queue_size)).getD config.default_queue_size
    discard_oldest := params.all (·.discardOldest)
    data_change_trigger := params.elim .StatusValue (·.dataChangeTrigger)
    deadband := params.bind (·.deadband)
    index_range := params.bind (·.index_range) }

def specsOf (config : SubscriptionConfig) (applied : List AppliedDeviceType) : List MonitoredItemSpec :=
  (targetsOf applied).map fun target => item_spec config target.node

def subscriptionParams (config : SubscriptionConfig) : SubscriptionParams where
  publishing_interval_ms := config.publishing_interval_ms
  lifetime_count := config.lifetime_count
  max_keep_alive_count := config.max_keep_alive_count
  max_notifications_per_publish := config.max_notifications_per_publish
  priority := config.priority

/-- Targets by the client handle of their monitored item. -/
abbrev Routes := OrderedMap Nat SubscribedTarget

/-- An item the server refused has no route. -/
def addRoute (routes : Routes) : SubscribedTarget × Except StatusCode Nat → Routes
  | (target, .ok handle) => routes.insert handle target
  | (_, .error _) => routes

def routesOf (results : List (SubscribedTarget × Except StatusCode Nat)) : Routes :=
  results.foldl addRoute .empty

/-- The two requests that a subscription takes, and the results for its items. -/
def requestItems (config : SubscriptionConfig) (connection : Connection) (applied : List AppliedDeviceType) :
    Except ConnError (List (Except StatusCode Nat)) := do
  let subscription_id ← connection.create_subscription (subscriptionParams config)
  create_monitored_items connection subscription_id (specsOf config applied)

/-- Create the server's single subscription and its monitored items. The routes are
those of the loop that is spawned; there is none when either request fails or no
item is left. -/
def start_subscription (config : SubscriptionConfig) (connection : Connection)
    (applied : List AppliedDeviceType) : Option Routes :=
  if (specsOf config applied).isEmpty then none
  else
    match requestItems config connection applied with
    | .error _ => none
    | .ok results =>
      let routes := routesOf ((targetsOf applied).zip results)
      if routes.entries.isEmpty then none else some routes

/-- What a reader task serves: the routes of the subscription, or the nodes that are
read on one schedule for one device. -/
inductive ReaderTask where
  | subscription_loop (routes : Routes)
  | read_loop (entity : EntityTopicId) (schedule : ReadSchedule) (nodes : List ResolvedNode)

/-- One cyclic read loop per device and distinct read schedule. -/
def start_read_loops (applied : List AppliedDeviceType) : List ReaderTask :=
  applied.flatMap fun device => device.mapping.read_groups.map fun (schedule, nodes) =>
    .read_loop device.entity schedule nodes

/-- The reader tasks of a session generation, as they are spawned. -/
def startReaders (config : SubscriptionConfig) (connection : Connection) (applied : List AppliedDeviceType) :
    List ReaderTask :=
  ((start_subscription config connection applied).map ReaderTask.subscription_loop).toList ++
    start_read_loops applied

section Routes

variable {config : SubscriptionConfig} {connection : Connection} {applied : List AppliedDeviceType}

theorem get_foldl_addRoute {results : List (SubscribedTarget × Except StatusCode Nat)} {routes : Routes}
    {target : SubscribedTarget} {handle : Nat}
    (hunique : ∀ other, (other, .ok handle) ∈ results → other = target)
    (hexists : routes.get handle = some target ∨ (target, .ok handle) ∈ results) :
    (results.foldl addRoute routes).get handle = some target := by
  induction results generalizing routes with
  | nil => exact hexists.resolve_right List.not_mem_nil
  | cons head rest ih =>
    refine ih (fun other hmem => hunique other (List.mem_cons_of_mem _ hmem)) ?_
    obtain ⟨other, result⟩ := head
    cases result with
    | error status =>
      refine hexists.imp_right fun hmem => ?_
      rcases List.mem_cons.mp hmem with heq | hmem
      · cases heq
      · exact hmem
    | ok other_handle =>
      by_cases hhandle : other_handle = handle
      · subst hhandle
        obtain rfl := hunique other List.mem_cons_self
        exact Or.inl (OrderedMap.get_insert_self ..)
      · rcases hexists with hget | hmem
        · exact Or.inl ((OrderedMap.get_insert_of_ne _ (Ne.symm hhandle) _).trans hget)
        · rcases List.mem_cons.mp hmem with heq | hmem
          · cases heq
            exact absurd rfl hhandle
          · exact Or.inr hmem

theorem requestItems_spec {results : List (Except StatusCode Nat)}
    (h : requestItems config connection applied = .ok results) :
    results.length = (targetsOf applied).length ∧
      ∀ (i j handle : Nat), results[i]? = some (.ok handle) → results[j]? = some (.ok handle) → i = j := by
  obtain ⟨subscription_id, -, hitems⟩ := result.bind_eq_ok_iff.mp h
  obtain ⟨hlength, hhandles⟩ := create_monitored_items_spec hitems
  exact ⟨hlength.trans (List.length_map _), hhandles⟩

/-- Every item the server created routes to its target. -/
theorem get_routesOf {results : List (Except StatusCode Nat)}
    (h : requestItems config connection applied = .ok results) {i handle : Nat} {target : SubscribedTarget}
    (htarget : (targetsOf applied)[i]? = some target) (hresult : results[i]? = some (.ok handle)) :
    (routesOf ((targetsOf applied).zip results)).get handle = some target := by
  have hhandles := (requestItems_spec h).2
  refine get_foldl_addRoute (fun other hmem => ?_) (Or.inr ?_)
  · obtain ⟨j, hj⟩ := List.mem_iff_getElem?.mp hmem
    obtain ⟨hother, hother_result⟩ := List.getElem?_zip_eq_some.mp hj
    obtain rfl := hhandles i j handle hresult hother_result
    exact Option.some.inj (hother.symm.trans htarget)
  · exact List.mem_of_getElem? (List.getElem?_zip_eq_some.mpr ⟨htarget, hresult⟩)

theorem start_subscription_eq_some {routes : Routes}
    (h : start_subscription config connection applied = some routes) :
    ∃ results, requestItems config connection applied = .ok results ∧
      routes = routesOf ((targetsOf applied).zip results) := by
  unfold start_subscription at h
  split at h
  · cases h
  · split at h
    · cases h
    · rename_i results hresults
      dsimp only at h
      split at h
      · cases h
      · cases h
        exact ⟨results, hresults, rfl⟩

/-- Every route is that of a result. -/
theorem of_get_foldl_addRoute {results : List (SubscribedTarget × Except StatusCode Nat)} {routes : Routes}
    {target : SubscribedTarget} {handle : Nat} (h : (results.foldl addRoute routes).get handle = some target) :
    routes.get handle = some target ∨ (target, .ok handle) ∈ results := by
  induction results generalizing routes with
  | nil => exact Or.inl h
  | cons head rest ih =>
    rcases ih h with hget | hmem
    · obtain ⟨other, result⟩ := head
      cases result with
      | error status => exact Or.inl hget
      | ok other_handle =>
        rw [addRoute, OrderedMap.get_insert] at hget
        split at hget
        · rename_i hhandle
          cases hget
          rw [hhandle]
          exact Or.inr List.mem_cons_self
        · exact Or.inl hget
    · exact Or.inr (List.mem_cons_of_mem _ hmem)

/-- Every route leads to the device of an applied device type. -/
theorem device_of_route {routes : Routes} (h : start_subscription config connection applied = some routes)
    {target : SubscribedTarget} (hmem : target ∈ routes.values) :
    ∃ device ∈ applied, device.entity = target.entity := by
  obtain ⟨results, -, rfl⟩ := start_subscription_eq_some h
  obtain ⟨handle, hget⟩ := (OrderedMap.mem_values_iff _).mp hmem
  have hrouted := (of_get_foldl_addRoute hget).resolve_left (by simp)
  obtain ⟨device, hdevice, htarget⟩ := List.mem_flatMap.mp (List.of_mem_zip hrouted).1
  obtain ⟨node, -, rfl⟩ := List.mem_map.mp htarget
  exact ⟨device, hdevice, rfl⟩

/-- When both requests go through, the loop serves every item that was created. -/
theorem start_subscription_of_created {results : List (Except StatusCode Nat)}
    (h : requestItems config connection applied = .ok results) {i handle : Nat} {target : SubscribedTarget}
    (htarget : (targetsOf applied)[i]? = some target) (hresult : results[i]? = some (.ok handle)) :
    ∃ routes, start_subscription config connection applied = some routes ∧
      routes.get handle = some target := by
  have hget := get_routesOf h htarget hresult
  have hspecs : (specsOf config applied).isEmpty = false := by
    rw [specsOf, List.isEmpty_map, List.isEmpty_eq_false_iff]
    rintro hnil
    rw [hnil] at htarget
    cases htarget
  have hroutes : (routesOf ((targetsOf applied).zip results)).entries.isEmpty = false := by
    rw [List.isEmpty_eq_false_iff]
    intro hnil
    rw [OrderedMap.get, hnil] at hget
    cases hget
  refine ⟨_, ?_, hget⟩
  rw [start_subscription, hspecs, h]
  simp [hroutes]

end Routes

section Groups

/-- A node is in the group of a schedule. -/
def Grouped (groups : List (ReadSchedule × List ResolvedNode)) (schedule : ReadSchedule) (node : ResolvedNode) :
    Prop := ∃ nodes, (schedule, nodes) ∈ groups ∧ node ∈ nodes

theorem grouped_addToGroup_self (schedule : ReadSchedule) (node : ResolvedNode)
    (groups : List (ReadSchedule × List ResolvedNode)) :
    Grouped (addToGroup schedule node groups) schedule node := by
  induction groups with
  | nil => exact ⟨[node], List.mem_singleton_self _, List.mem_singleton_self _⟩
  | cons head rest ih =>
    obtain ⟨other, nodes⟩ := head
    rw [addToGroup]
    split
    · rename_i heq
      subst heq
      exact ⟨nodes ++ [node], List.mem_cons_self, by simp⟩
    · split
      · exact ⟨[node], List.mem_cons_self, List.mem_singleton_self _⟩
      · obtain ⟨nodes', hmem, hnode⟩ := ih
        exact ⟨nodes', List.mem_cons_of_mem _ hmem, hnode⟩

/-- Adding a node takes no other node out of its group. -/
theorem Grouped.addToGroup {groups : List (ReadSchedule × List ResolvedNode)} {schedule : ReadSchedule}
    {node : ResolvedNode} (h : Grouped groups schedule node) (schedule' : ReadSchedule) (node' : ResolvedNode) :
    Grouped (addToGroup schedule' node' groups) schedule node := by
  induction groups with
  | nil =>
    obtain ⟨nodes, hmem, -⟩ := h
    cases hmem
  | cons head rest ih =>
    obtain ⟨other, others⟩ := head
    obtain ⟨nodes, hmem, hnode⟩ := h
    rw [mapping.resolve.addToGroup]
    split
    · rcases List.mem_cons.mp hmem with heq | hmem
      · cases heq
        exact ⟨others ++ [node'], List.mem_cons_self, List.mem_append_left _ hnode⟩
      · exact ⟨nodes, List.mem_cons_of_mem _ hmem, hnode⟩
    · split
      · exact ⟨nodes, List.mem_cons_of_mem _ hmem, hnode⟩
      · rcases List.mem_cons.mp hmem with heq | hmem
        · cases heq
          exact ⟨others, List.mem_cons_self, hnode⟩
        · obtain ⟨nodes', hmem', hnode'⟩ := ih ⟨nodes, hmem, hnode⟩
          exact ⟨nodes', List.mem_cons_of_mem _ hmem', hnode'⟩

theorem Grouped.foldl {nodes : List ResolvedNode} {groups : List (ReadSchedule × List ResolvedNode)}
    {schedule : ReadSchedule} {node : ResolvedNode} (hschedule : node.read_schedule = some schedule)
    (h : Grouped groups schedule node ∨ node ∈ nodes) :
    Grouped (nodes.foldl groupNode groups) schedule node := by
  induction nodes generalizing groups with
  | nil => exact h.resolve_right List.not_mem_nil
  | cons head rest ih =>
    rw [List.foldl_cons]
    refine ih ?_
    rcases h with h | h
    · refine Or.inl ?_
      rw [groupNode]
      split
      · exact h.addToGroup _ _
      · exact h
    · rcases List.mem_cons.mp h with rfl | h
      · rw [groupNode, hschedule]
        exact Or.inl (grouped_addToGroup_self _ _ _)
      · exact Or.inr h

/-- Every node with a read schedule is in the group of that schedule. -/
theorem grouped_read_groups {mapping : ResolvedMapping} {node : ResolvedNode} (hmem : node ∈ mapping.nodes)
    {schedule : ReadSchedule} (hschedule : node.read_schedule = some schedule) :
    Grouped mapping.read_groups schedule node :=
  Grouped.foldl hschedule (Or.inr hmem)

end Groups

end gateway.server_task
