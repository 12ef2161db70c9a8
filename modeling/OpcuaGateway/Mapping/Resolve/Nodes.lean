import OpcuaGateway.Foundation.Grouping
import OpcuaGateway.Mapping.Resolve

open grouping binary64 mapping.model mapping.namespace_table

namespace mapping.resolve

/-- The entries with a NodeId, in order. -/
def Plan.resolved (self : Plan) : List (NodeId × Entry) :=
  self.entries.filterMap fun entry =>
    match entry.node_ref with
    | .Known node_id => some (node_id, entry)
    | .Path _ => none

/-- What entries that share a node have in common. -/
def nodeKey (resolved : NodeId × Entry) : NodeId × Bool × Option ReadSchedule :=
  (resolved.1, resolved.2.delivery.isSubscription, read_schedule_of resolved.2.delivery)

/-- The node of a group of entries. It is delivered as the first of them asks. -/
def nodeOf (codec : TextCodec) (group : Bundle (NodeId × Entry)) : ResolvedNode where
  node_id := group.first.1
  node_id_str := group.first.1.to_string codec
  actions := group.items.flatMap (·.2.actions)
  delivery := group.first.2.delivery

section Finish

variable {codec : TextCodec} {p : Plan}

theorem sameNode_nodeOf {node_id : NodeId} {entry : Entry} {group : Bundle (NodeId × Entry)} :
    sameNode node_id entry.delivery (nodeOf codec group) = true ↔ nodeKey group.first = nodeKey (node_id, entry) := by
  simp only [sameNode, nodeOf, nodeKey, ResolvedNode.read_schedule, Bool.and_eq_true, beq_iff_eq, Prod.mk.injEq,
    and_assoc]

theorem addToNode_map_nodeOf (node_id : NodeId) (entry : Entry) (found : List (Bundle (NodeId × Entry))) :
    addToNode codec node_id entry (found.map (nodeOf codec)) =
      (grouping.add nodeKey (node_id, entry) found).map (nodeOf codec) := by
  induction found with
  | nil => simp [addToNode, grouping.add, nodeOf, Bundle.items]
  | cons group rest ih =>
    rw [List.map_cons, addToNode, grouping.add]
    by_cases hsame : nodeKey group.first = nodeKey (node_id, entry)
    · rw [if_pos (sameNode_nodeOf.mpr hsame), if_pos hsame, List.map_cons]
      simp [nodeOf, Bundle.items]
    · have hother : ¬ sameNode node_id entry.delivery (nodeOf codec group) = true :=
        fun h => hsame (sameNode_nodeOf.mp h)
      rw [if_neg hother, if_neg hsame, List.map_cons, ih]

/-- `finish` has one node for each key of the resolved entries. -/
theorem finish_nodes : (p.finish codec).nodes = (groups nodeKey p.resolved).map (nodeOf codec) := by
  have hfold : ∀ entries found, entries.foldl (addEntry codec) (found.map (nodeOf codec)) =
      ((Plan.resolved { p with entries }).foldl (fun found item => grouping.add nodeKey item found) found).map
        (nodeOf codec) := by
    intro entries
    induction entries with
    | nil =>
      intro found
      rfl
    | cons entry rest ih =>
      intro found
      rw [List.foldl_cons]
      cases href : entry.node_ref with
      | Known node_id =>
        have hadd : addEntry codec (found.map (nodeOf codec)) entry =
            (grouping.add nodeKey (node_id, entry) found).map (nodeOf codec) := by
          rw [addEntry, href]
          exact addToNode_map_nodeOf node_id entry found
        have hresolved : Plan.resolved { p with entries := entry :: rest } =
            (node_id, entry) :: Plan.resolved { p with entries := rest } := by
          simp [Plan.resolved, href]
        rw [hadd, ih, hresolved, List.foldl_cons]
      | Path path =>
        have hadd : addEntry codec (found.map (nodeOf codec)) entry = found.map (nodeOf codec) := by
          rw [addEntry, href]
        have hresolved : Plan.resolved { p with entries := entry :: rest } =
            Plan.resolved { p with entries := rest } := by
          simp [Plan.resolved, href]
        rw [hadd, ih, hresolved]
  exact hfold p.entries []

/-- The node that an entry's actions go to, with the first entry of its key. -/
theorem exists_node (codec : TextCodec) {node_id : NodeId} {entry : Entry} (hmem : (node_id, entry) ∈ p.resolved) :
    ∃ node ∈ (p.finish codec).nodes, ∃ first, node.node_id = node_id ∧ node.delivery = first.2.delivery ∧
      (∀ action ∈ entry.actions, action ∈ node.actions) ∧ nodeKey first = nodeKey (node_id, entry) ∧
      p.resolved.find? (fun other => nodeKey other = nodeKey (node_id, entry)) = some first := by
  have hgrouped := grouped_groups nodeKey p.resolved
  obtain ⟨group, hgroup, hkey⟩ := hgrouped.complete _ hmem
  have hitem := hgrouped.mem_items hgroup hmem hkey
  have hfirst := hgrouped.first_eq hgroup
  rw [hkey] at hfirst
  refine ⟨nodeOf codec group, ?_, group.first, (Prod.mk.inj hkey).1, rfl, ?_, hkey, hfirst⟩
  · rw [finish_nodes]
    exact List.mem_map_of_mem hgroup
  · intro action haction
    exact List.mem_flatMap.mpr ⟨_, hitem, haction⟩

/-- A node comes from the first of the entries with its key. -/
theorem of_mem_nodes {node : ResolvedNode} (hmem : node ∈ (p.finish codec).nodes) :
    ∃ first, node.node_id = first.1 ∧ node.delivery = first.2.delivery ∧
      p.resolved.find? (fun other => nodeKey other = nodeKey first) = some first := by
  rw [finish_nodes] at hmem
  obtain ⟨group, hgroup, rfl⟩ := List.mem_map.mp hmem
  exact ⟨group.first, rfl, rfl, (grouped_groups nodeKey p.resolved).first_eq hgroup⟩

end Finish

/-- Delivered alike: in the same mode, on the same schedule for a cyclic read and
with the same parameters for a subscription. -/
def Delivery.Alike : Delivery → Delivery → Prop
  | .Subscription parameters, .Subscription parameters' => parameters = parameters'
  | .CyclicRead rate_ms max_age, .CyclicRead rate_ms' max_age' =>
    read_schedule_of (.CyclicRead rate_ms max_age) = read_schedule_of (.CyclicRead rate_ms' max_age')
  | _, _ => False

/-- Every action of a resolved entry is on a node delivered as that entry asks. -/
def Plan.Honoured (codec : TextCodec) (self : Plan) : Prop :=
  ∀ node_id entry, (node_id, entry) ∈ self.resolved → ∀ action ∈ entry.actions,
    ∃ node ∈ (self.finish codec).nodes,
      node.node_id = node_id ∧ action ∈ node.actions ∧ node.delivery.Alike entry.delivery

/-- The first entry that subscribes a NodeId. -/
def Plan.firstSubscribed (self : Plan) (node_id : NodeId) : Option (NodeId × Entry) :=
  self.resolved.find? fun other => other.1 = node_id && other.2.delivery.isSubscription

theorem nodeKey_eq_iff_of_subscription {resolved other : NodeId × Entry} {parameters : SubscriptionParameters}
    (hdelivery : resolved.2.delivery = .Subscription parameters) :
    nodeKey other = nodeKey resolved ↔ other.1 = resolved.1 ∧ other.2.delivery.isSubscription = true := by
  simp only [nodeKey, hdelivery, Prod.mk.injEq, Delivery.isSubscription, read_schedule_of]
  constructor
  · rintro ⟨hnode, hmode, -⟩
    exact ⟨hnode, hmode⟩
  · rintro ⟨hnode, hmode⟩
    refine ⟨hnode, hmode, ?_⟩
    cases hother : other.2.delivery with
    | Subscription _ => rfl
    | CyclicRead _ _ =>
      rw [hother] at hmode
      cases hmode

theorem firstSubscribed_eq {p : Plan} (resolved : NodeId × Entry) {parameters : SubscriptionParameters}
    (hdelivery : resolved.2.delivery = .Subscription parameters) :
    p.firstSubscribed resolved.1 = p.resolved.find? fun other => nodeKey other = nodeKey resolved := by
  unfold Plan.firstSubscribed
  congr 1
  funext other
  simp [nodeKey_eq_iff_of_subscription hdelivery]

theorem alike_of_same_schedule {delivery : Delivery} {rate_ms : Nat} {max_age : Binary64}
    (hmode : delivery.isSubscription = false)
    (hschedule : read_schedule_of delivery = read_schedule_of (.CyclicRead rate_ms max_age)) :
    delivery.Alike (.CyclicRead rate_ms max_age) := by
  cases delivery with
  | Subscription _ => cases hmode
  | CyclicRead _ _ => exact hschedule

/-- Cyclic reads are always honoured. A subscription is exactly when the entry asks for
the parameters of the first entry that subscribes the same NodeId: that entry alone
decides about the node. -/
theorem honoured_iff (codec : TextCodec) (p : Plan) :
    p.Honoured codec ↔
      ∀ node_id entry parameters, (node_id, entry) ∈ p.resolved → entry.actions ≠ [] →
        entry.delivery = .Subscription parameters →
        ∀ first, p.firstSubscribed node_id = some first → first.2.delivery = .Subscription parameters := by
  constructor
  · intro hhonoured node_id entry parameters hmem hactions hdelivery first hfirst
    obtain ⟨action, haction⟩ := List.exists_mem_of_ne_nil _ hactions
    obtain ⟨node, hnode, hid, -, halike⟩ := hhonoured node_id entry hmem action haction
    obtain ⟨other, hother, hsame, hfind⟩ := of_mem_nodes hnode
    have hsubscribed : other.2.delivery = .Subscription parameters := by
      rw [hdelivery, hsame] at halike
      cases hcase : other.2.delivery with
      | Subscription _ =>
        rw [hcase] at halike
        rw [show _ = parameters from halike]
      | CyclicRead _ _ =>
        rw [hcase] at halike
        exact halike.elim
    have hfound : p.firstSubscribed node_id = some other := by
      rw [← hid, hother, firstSubscribed_eq other hsubscribed]
      exact hfind
    cases hfirst.symm.trans hfound
    exact hsubscribed
  · intro hagree node_id entry hmem action haction
    obtain ⟨node, hnode, first, hid, hdelivery, hactions, hkey, hfind⟩ := exists_node codec hmem
    refine ⟨node, hnode, hid, hactions action haction, ?_⟩
    rw [hdelivery]
    cases hentry : entry.delivery with
    | Subscription parameters =>
      have hfirst : p.firstSubscribed node_id = some first :=
        (firstSubscribed_eq (node_id, entry) hentry).trans hfind
      rw [hagree node_id entry parameters hmem (List.ne_nil_of_mem haction) hentry first hfirst]
      rfl
    | CyclicRead rate_ms max_age =>
      simp only [nodeKey, hentry, Prod.mk.injEq] at hkey
      exact alike_of_same_schedule hkey.2.1 hkey.2.2

/-- A mapping entry for the Server object that measures it under this series. -/
def serverEntry (browse_name series : String) : MappingEntry where
  name := none
  browse_path := [browse_name]
  referenced_node_id := some "i=2253"
  measurement_creation := some ⟨some "server", some series, none, none, none⟩
  event_creation := none
  alarm_creation := none

/-- One node subscribed twice, the second time with a queue of its own. -/
def overriddenDeviceType : DeviceType where
  name := "Server"
  enabled := true
  mappings := [serverEntry "A" "a", serverEntry "B" "b"]
  apply_constraints := none
  subscription_type := some ⟨some "Subscription", none, none⟩
  overridden_subscriptions := [⟨["B"],
    some ⟨some "Subscription", none, some { SubscriptionParameters.default with queue_size := some 50 }⟩⟩]
  referenced_root_node_id := none

/-- The override of the second entry is lost. -/
theorem overridden_parameters_dropped :
    ¬ ∀ codec device_type p, plan codec "server" device_type ⟨[]⟩ = .ok p → p.Honoured codec := by
  intro hall
  let codec : TextCodec := ⟨fun _ => none, fun _ => "", fun _ => none, fun _ => ""⟩
  obtain ⟨p, hplan, entry, parameters, action, hmem, haction, hdelivery, hnodes⟩ :
      ∃ p, plan codec "server" overriddenDeviceType ⟨[]⟩ = .ok p ∧ ∃ entry parameters action,
        (⟨0, .Numeric 2253⟩, entry) ∈ p.resolved ∧ action ∈ entry.actions ∧
          entry.delivery = .Subscription parameters ∧
          ∀ node ∈ (p.finish codec).nodes, node.delivery ≠ .Subscription parameters := by
    refine ⟨_, rfl, _, _, _, List.mem_cons_of_mem _ List.mem_cons_self, List.mem_cons_self, rfl, ?_⟩
    decide
  obtain ⟨node, hnode, -, -, halike⟩ := hall codec overriddenDeviceType p hplan _ entry hmem action haction
  rw [hdelivery] at halike
  cases hcase : node.delivery with
  | Subscription parameters' =>
    rw [hcase] at halike
    have hsame : parameters' = parameters := halike
    exact hnodes node hnode (by rw [hcase, hsame])
  | CyclicRead _ _ =>
    rw [hcase] at halike
    exact halike

end mapping.resolve
