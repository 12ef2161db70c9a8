import OpcuaGateway.Foundation.Nulls
import OpcuaGateway.Mapping.Decode

open json serde ordered_map

namespace mapping.model

theorem CyclicReadParameters.respects : Respects id CyclicReadParameters.deserialize := by
  refine Respects.struct fun fields pruned h => ?_
  rw [h.optional_eq "rate" (respects_unsigned _), h.optional_eq "maxAge" respects_float]

theorem SubscriptionParameters.respects : Respects id SubscriptionParameters.deserialize := by
  refine Respects.struct fun fields pruned h => ?_
  rw [h.optional_eq "samplingRate" respects_float, h.optional_eq "queueSize" (respects_unsigned _),
    h.optional_eq "deadbandType" respects_string, h.optional_eq "deadbandValue" respects_float,
    h.optional_eq "ranges" respects_string, h.optional_eq "dataChangeTrigger" respects_string,
    h.optional_eq "discardOldest" respects_bool]

theorem SubscriptionType.respects : Respects id SubscriptionType.deserialize := by
  refine Respects.struct fun fields pruned h => ?_
  rw [h.optional_eq "type" respects_string, h.optional_eq "cyclicReadParameters" CyclicReadParameters.respects,
    h.optional_eq "subscriptionParameters" SubscriptionParameters.respects]

theorem OverriddenSubscription.respects : Respects id OverriddenSubscription.deserialize := by
  refine Respects.struct fun fields pruned h => ?_
  rw [h.nullAs_eq "browsePath" respects_string.vec_id [],
    h.optional_eq "subscriptionType" SubscriptionType.respects]

theorem MeasurementCreation.respects : Respects id MeasurementCreation.deserialize := by
  refine Respects.struct fun fields pruned h => ?_
  rw [h.optional_eq "type" respects_string, h.optional_eq "series" respects_string,
    h.optional_eq "fragmentName" respects_string, h.optional_eq "unit" respects_string,
    h.optional_eq "staticFragments" respects_string.vec_id]

theorem EventCreation.respects : Respects id EventCreation.deserialize := by
  refine Respects.struct fun fields pruned h => ?_
  rw [h.optional_eq "type" respects_string, h.optional_eq "text" respects_string,
    h.optional_eq "staticFragments" respects_string.vec_id]

theorem AlarmCreation.respects : Respects id AlarmCreation.deserialize := by
  refine Respects.struct fun fields pruned h => ?_
  rw [h.optional_eq "type" respects_string, h.optional_eq "text" respects_string,
    h.optional_eq "severity" respects_string, h.optional_eq "staticFragments" respects_string.vec_id]

theorem Statistics.respects : Respects id Statistics.deserialize := by
  refine Respects.struct fun fields pruned h => ?_
  rw [h.optional_eq "totalPages" (respects_unsigned _), h.optional_eq "currentPage" (respects_unsigned _),
    h.optional_eq "pageSize" (respects_unsigned _)]

/-- The page with its items as mere positions. -/
def ManagedObjectPage.withoutRaw (self : ManagedObjectPage) : ManagedObjectPage :=
  { self with managed_objects := self.managed_objects.map fun _ => .null }

theorem ManagedObjectPage.respects : Respects withoutRaw ManagedObjectPage.deserialize := by
  refine Respects.struct fun fields pruned h => ?_
  refine map_bind_congr (h.nullAs "managedObjects" (respects_raw Value.null).vec [])
    fun items items' hitems => ?_
  refine map_bind_congr_eq (h.optional_eq "statistics" Statistics.respects) fun statistics => ?_
  exact congrArg (fun items => some (ManagedObjectPage.mk items statistics)) hitems

end mapping.model

namespace mapping.document

open model (SubscriptionType OverriddenSubscription MeasurementCreation EventCreation AlarmCreation)

/-- A mapping entry with the action that the gateway reads and makes no use of. -/
structure MappingEntry extends model.MappingEntry where
  custom_action : Option Value

structure ApplyConstraints extends model.ApplyConstraints where
  server_object_has_fragment : Option String
  browse_path_matches_regex : Option String
  server_has_node_with_values : Option Value

/-- A device type with every field that the source declares. -/
structure DeviceType where
  name : String
  description : Option String
  enabled : Bool
  mappings : List MappingEntry
  apply_constraints : Option ApplyConstraints
  subscription_type : Option SubscriptionType
  overridden_subscriptions : List OverriddenSubscription
  referenced_root_node_id : Option String
  referenced_namespace_table : List String
  referenced_server_id : Option String
  referenced_server_name : Option String
  ua_event_mappings : Option Value

/-- The members that are no field of a managed object are its fragments. -/
structure ManagedObject where
  id : String
  name : Option String
  last_updated : Option String
  device_type : Option DeviceType
  fragments : OrderedMap String Value

def MappingEntry.deserialize : Deserialize MappingEntry := fun value => do
  let fields ← structFields ["name", "browsePath", "referencedNodeId", "measurementCreation", "eventCreation",
    "alarmCreation", "customAction"] value
  let name ← optional fields "name" string
  let browse_path ← field fields "browsePath" [] (nullAs [] (vec string))
  let referenced_node_id ← optional fields "referencedNodeId" string
  let measurement_creation ← optional fields "measurementCreation" MeasurementCreation.deserialize
  let event_creation ← optional fields "eventCreation" EventCreation.deserialize
  let alarm_creation ← optional fields "alarmCreation" AlarmCreation.deserialize
  let custom_action ← optional fields "customAction" raw
  return { name, browse_path, referenced_node_id, measurement_creation, event_creation, alarm_creation, custom_action }

def ApplyConstraints.deserialize : Deserialize ApplyConstraints := fun value => do
  let fields ← structFields ["matchesServerIds", "matchesNodeIds", "serverObjectHasFragment",
    "browsePathMatchesRegex", "serverHasNodeWithValues"] value
  let matches_server_ids ← field fields "matchesServerIds" [] (nullAs [] (vec string))
  let matches_node_ids ← field fields "matchesNodeIds" [] (nullAs [] (vec string))
  let server_object_has_fragment ← optional fields "serverObjectHasFragment" string
  let browse_path_matches_regex ← optional fields "browsePathMatchesRegex" string
  let server_has_node_with_values ← optional fields "serverHasNodeWithValues" raw
  return { matches_server_ids, matches_node_ids, server_object_has_fragment, browse_path_matches_regex,
           server_has_node_with_values }

def DeviceType.deserialize : Deserialize DeviceType := fun value => do
  let fields ← structFields model.DeviceType.fieldNames value
  let name ← field fields "name" "" (nullAs "" string)
  let description ← optional fields "description" string
  let enabled ← field fields "enabled" true (nullAs true bool)
  let mappings ← field fields "mappings" [] (nullAs [] (vec MappingEntry.deserialize))
  let apply_constraints ← optional fields "applyConstraints" ApplyConstraints.deserialize
  let subscription_type ← optional fields "subscriptionType" SubscriptionType.deserialize
  let overridden_subscriptions ←
    field fields "overriddenSubscriptions" [] (nullAs [] (vec OverriddenSubscription.deserialize))
  let referenced_root_node_id ← optional fields "referencedRootNodeId" string
  let referenced_namespace_table ← field fields "referencedNamespaceTable" [] (nullAs [] (vec string))
  let referenced_server_id ← optional fields "referencedServerId" string
  let referenced_server_name ← optional fields "referencedServerName" string
  let ua_event_mappings ← optional fields "uaEventMappings" raw
  return { name, description, enabled, mappings, apply_constraints, subscription_type, overridden_subscriptions,
           referenced_root_node_id, referenced_namespace_table, referenced_server_id, referenced_server_name,
           ua_event_mappings }

def ManagedObject.deserialize : Deserialize ManagedObject
  | .object members => do
    let fields ← structFields source.ManagedObject.fieldNames (.object members)
    let id ← field fields "id" "" (nullAs "" string)
    let name ← optional fields "name" string
    let last_updated ← optional fields "lastUpdated" string
    let device_type ← optional fields model.DEVICE_TYPE_FRAGMENT DeviceType.deserialize
    let fragments := OrderedMap.ofList (members.filter fun member => member.1 ∉ source.ManagedObject.fieldNames)
    return { id, name, last_updated, device_type, fragments }
  | _ => none

/-- Of the raw JSON of an entry only whether there is any. -/
def MappingEntry.withoutRaw (self : MappingEntry) : MappingEntry :=
  { self with custom_action := self.custom_action.map fun _ => .null }

def ApplyConstraints.withoutRaw (self : ApplyConstraints) : ApplyConstraints :=
  { self with server_has_node_with_values := self.server_has_node_with_values.map fun _ => .null }

def DeviceType.withoutRaw (self : DeviceType) : DeviceType :=
  { self with
    mappings := self.mappings.map (·.withoutRaw)
    apply_constraints := self.apply_constraints.map (·.withoutRaw)
    ua_event_mappings := self.ua_event_mappings.map fun _ => .null }

def ManagedObject.withoutRaw (self : ManagedObject) : ManagedObject :=
  { self with device_type := self.device_type.map (·.withoutRaw), fragments := .empty }

theorem MappingEntry.respects : Respects withoutRaw MappingEntry.deserialize := by
  refine Respects.struct fun fields pruned h => ?_
  refine map_bind_congr_eq (h.optional_eq "name" respects_string) fun name => ?_
  refine map_bind_congr_eq (h.nullAs_eq "browsePath" respects_string.vec_id []) fun browse_path => ?_
  refine map_bind_congr_eq (h.optional_eq "referencedNodeId" respects_string) fun referenced_node_id => ?_
  refine map_bind_congr_eq (h.optional_eq "measurementCreation" MeasurementCreation.respects) fun measurement => ?_
  refine map_bind_congr_eq (h.optional_eq "eventCreation" EventCreation.respects) fun event => ?_
  refine map_bind_congr_eq (h.optional_eq "alarmCreation" AlarmCreation.respects) fun alarm => ?_
  refine map_bind_congr (h.optional "customAction" (respects_raw Value.null)) fun action action' haction => ?_
  exact congrArg (fun action => some (MappingEntry.mk ⟨name, browse_path, referenced_node_id, measurement, event,
    alarm⟩ action)) haction

theorem ApplyConstraints.respects : Respects withoutRaw ApplyConstraints.deserialize := by
  refine Respects.struct fun fields pruned h => ?_
  refine map_bind_congr_eq (h.nullAs_eq "matchesServerIds" respects_string.vec_id []) fun servers => ?_
  refine map_bind_congr_eq (h.nullAs_eq "matchesNodeIds" respects_string.vec_id []) fun nodes => ?_
  refine map_bind_congr_eq (h.optional_eq "serverObjectHasFragment" respects_string) fun fragment => ?_
  refine map_bind_congr_eq (h.optional_eq "browsePathMatchesRegex" respects_string) fun regex => ?_
  refine map_bind_congr (h.optional "serverHasNodeWithValues" (respects_raw Value.null)) fun node node' hnode => ?_
  exact congrArg (fun node => some (ApplyConstraints.mk ⟨servers, nodes⟩ fragment regex node)) hnode

theorem DeviceType.respects : Respects withoutRaw DeviceType.deserialize := by
  refine Respects.struct fun fields pruned h => ?_
  refine map_bind_congr_eq (h.nullAs_eq "name" respects_string "") fun name => ?_
  refine map_bind_congr_eq (h.optional_eq "description" respects_string) fun description => ?_
  refine map_bind_congr_eq (h.nullAs_eq "enabled" respects_bool true) fun enabled => ?_
  refine map_bind_congr (h.nullAs "mappings" MappingEntry.respects.vec [])
    fun mappings mappings' hmappings => ?_
  refine map_bind_congr (h.optional "applyConstraints" ApplyConstraints.respects)
    fun constraints constraints' hconstraints => ?_
  refine map_bind_congr_eq (h.optional_eq "subscriptionType" SubscriptionType.respects) fun subscription => ?_
  refine map_bind_congr_eq
    (h.nullAs_eq "overriddenSubscriptions" OverriddenSubscription.respects.vec_id []) fun overridden => ?_
  refine map_bind_congr_eq (h.optional_eq "referencedRootNodeId" respects_string) fun root => ?_
  refine map_bind_congr_eq
    (h.nullAs_eq "referencedNamespaceTable" respects_string.vec_id []) fun table => ?_
  refine map_bind_congr_eq (h.optional_eq "referencedServerId" respects_string) fun server_id => ?_
  refine map_bind_congr_eq (h.optional_eq "referencedServerName" respects_string) fun server_name => ?_
  refine map_bind_congr (h.optional "uaEventMappings" (respects_raw Value.null)) fun events events' hevents => ?_
  have hrecord := congrArg₂ (fun mappings constraints => DeviceType.mk name description enabled mappings constraints
    subscription overridden root table server_id server_name (events.map fun _ => .null)) hmappings hconstraints
  refine congrArg some (hrecord.trans ?_)
  exact congrArg (DeviceType.mk name description enabled (mappings'.map (·.withoutRaw))
    (constraints'.map (·.withoutRaw)) subscription overridden root table server_id server_name) hevents

theorem ManagedObject.respects : Respects withoutRaw ManagedObject.deserialize := by
  intro value pruned hdistinct hprunes
  cases hprunes with
  | @object members prunedMembers hmembers =>
    obtain ⟨hvalue, hpruned⟩ | ⟨fields, prunedFields, hvalue, hpruned, h⟩ :=
      structFields_pruned source.ManagedObject.fieldNames hdistinct (.object hmembers)
    · simp only [deserialize, hvalue, hpruned, Option.bind_eq_bind, Option.bind_none, Option.map_none]
    · simp only [deserialize, hvalue, hpruned, Option.bind_eq_bind, Option.bind_some]
      refine map_bind_congr_eq (h.nullAs_eq "id" respects_string "") fun id => ?_
      refine map_bind_congr_eq (h.optional_eq "name" respects_string) fun name => ?_
      refine map_bind_congr_eq (h.optional_eq "lastUpdated" respects_string) fun last_updated => ?_
      refine map_bind_congr (h.optional model.DEVICE_TYPE_FRAGMENT DeviceType.respects) fun dt dt' hdt => ?_
      exact congrArg (fun dt => some (ManagedObject.mk id name last_updated dt .empty)) hdt
  | _ => rfl

/-- The part of a device type that the gateway makes use of. -/
def DeviceType.toModel (self : DeviceType) : model.DeviceType where
  name := self.name
  enabled := self.enabled
  mappings := self.mappings.map (·.toMappingEntry)
  apply_constraints := self.apply_constraints.map (·.toApplyConstraints)
  subscription_type := self.subscription_type
  overridden_subscriptions := self.overridden_subscriptions
  referenced_root_node_id := self.referenced_root_node_id

def ManagedObject.toModel (self : ManagedObject) : source.ManagedObject where
  id := self.id
  last_updated := self.last_updated
  device_type := self.device_type.map (·.toModel)

theorem MappingEntry.narrows :
    Narrows MappingEntry.toMappingEntry MappingEntry.deserialize model.MappingEntry.deserialize := by
  intro value
  simp [model.MappingEntry.deserialize, deserialize, Option.map_bind]

theorem ApplyConstraints.narrows :
    Narrows ApplyConstraints.toApplyConstraints ApplyConstraints.deserialize model.ApplyConstraints.deserialize := by
  intro value
  simp [model.ApplyConstraints.deserialize, deserialize, Option.map_bind]

/-- The decoder of device types is the one of the whole document, less what the
gateway makes no use of. -/
theorem DeviceType.narrows : Narrows toModel deserialize model.DeviceType.deserialize := by
  intro value
  refine bind_eq_map_same fun fields => ?_
  refine bind_eq_map_same fun name => bind_eq_map_same fun description => bind_eq_map_same fun enabled => ?_
  refine bind_eq_map ((MappingEntry.narrows.vec.nullAs []).field fields "mappings" []) fun mappings => ?_
  refine bind_eq_map (ApplyConstraints.narrows.optional fields "applyConstraints") fun constraints => ?_
  refine bind_eq_map_same fun subscription => bind_eq_map_same fun overridden => bind_eq_map_same fun root => ?_
  refine bind_eq_map_same fun table => bind_eq_map_same fun server_id => bind_eq_map_same fun server_name => ?_
  exact bind_eq_map_same fun events => rfl

theorem ManagedObject.narrows : Narrows toModel deserialize source.ManagedObject.deserialize := by
  intro value
  cases value with
  | object members =>
    refine bind_eq_map_same fun fields => bind_eq_map_same fun id => bind_eq_map_same fun name => ?_
    refine bind_eq_map_same fun last_updated => ?_
    exact bind_eq_map (DeviceType.narrows.optional fields model.DEVICE_TYPE_FRAGMENT) fun device_type => rfl
  | _ => rfl

/-- A member that is `null` is as good as none, wherever it stands: the documents that
are decoded are the same, but for the JSON that is passed through. -/
theorem nulls_are_absent (tree : Tree) {pruned : Value} (hprunes : Prunes tree.value pruned) :
    (DeviceType.deserialize tree.value).map (·.withoutRaw) = (DeviceType.deserialize pruned).map (·.withoutRaw) ∧
    (ManagedObject.deserialize tree.value).map (·.withoutRaw) =
      (ManagedObject.deserialize pruned).map (·.withoutRaw) ∧
    (model.ManagedObjectPage.deserialize tree.value).map (·.withoutRaw) =
      (model.ManagedObjectPage.deserialize pruned).map (·.withoutRaw) :=
  ⟨DeviceType.respects tree.distinct hprunes, ManagedObject.respects tree.distinct hprunes,
    model.ManagedObjectPage.respects tree.distinct hprunes⟩

/-- The export of a device type, with a `null` beside the fragment, one in it and one
in the entry of its mapping. -/
def exportWithNulls : Tree where
  value := .object [("id", .string "7"), ("lastUpdated", .null), (model.DEVICE_TYPE_FRAGMENT, .object [
    ("enabled", .null), ("mappings", .array [.object [("browsePath", .null), ("name", .string "speed")]])])]
  distinct := by simp [Distinct, DistinctItems, DistinctMembers, model.DEVICE_TYPE_FRAGMENT]

theorem nulls_are_absent_export :
    (ManagedObject.deserialize exportWithNulls.value).map (·.withoutRaw) =
      (ManagedObject.deserialize (.object [("id", .string "7"), (model.DEVICE_TYPE_FRAGMENT, .object [
        ("mappings", .array [.object [("name", .string "speed")]])])])).map (·.withoutRaw) := by
  have hentry : Prunes (.object [("browsePath", .null), ("name", .string "speed")])
      (.object [("name", .string "speed")]) := .object (.drop _ (.keep _ (.string _) .nil))
  have hfragment : Prunes (.object [("enabled", .null), ("mappings", .array [
      .object [("browsePath", .null), ("name", .string "speed")]])])
      (.object [("mappings", .array [.object [("name", .string "speed")]])]) :=
    .object (.drop _ (.keep _ (.array (.cons hentry .nil)) .nil))
  have hexport := PrunesMembers.keep "id" (.string "7") (.drop "lastUpdated" (.keep model.DEVICE_TYPE_FRAGMENT
    hfragment .nil))
  exact (nulls_are_absent exportWithNulls (.object hexport)).2.1

end mapping.document
