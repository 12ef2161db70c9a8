import OpcuaGateway.Foundation.Serde
import OpcuaGateway.Mapping.Source

open json serde ordered_map mapping.model

namespace mapping.model

/-- Managed object `type` of a device type. -/
def DEVICE_TYPE_MO_TYPE : String := "c8y_OpcuaDeviceType"

/-- Fragment inside the managed object that carries the device type itself. -/
def DEVICE_TYPE_FRAGMENT : String := "com_cumulocity_opcua_common_model_mapping_DeviceType"

def CyclicReadParameters.deserialize : Deserialize CyclicReadParameters := fun value => do
  let fields ← structFields ["rate", "maxAge"] value
  let rate ← optional fields "rate" (unsigned (2 ^ 64))
  let max_age ← optional fields "maxAge" float
  return { rate, max_age }

def SubscriptionParameters.deserialize : Deserialize SubscriptionParameters := fun value => do
  let fields ← structFields ["samplingRate", "queueSize", "deadbandType", "deadbandValue", "ranges",
    "dataChangeTrigger", "discardOldest"] value
  let sampling_rate ← optional fields "samplingRate" float
  let queue_size ← optional fields "queueSize" (unsigned (2 ^ 32))
  let deadband_type ← optional fields "deadbandType" string
  let deadband_value ← optional fields "deadbandValue" float
  let ranges ← optional fields "ranges" string
  let data_change_trigger ← optional fields "dataChangeTrigger" string
  let discard_oldest ← optional fields "discardOldest" bool
  return { sampling_rate, queue_size, deadband_type, deadband_value, ranges, data_change_trigger, discard_oldest }

def SubscriptionType.deserialize : Deserialize SubscriptionType := fun value => do
  let fields ← structFields ["type", "cyclicReadParameters", "subscriptionParameters"] value
  let type ← optional fields "type" string
  let cyclic_read_parameters ← optional fields "cyclicReadParameters" CyclicReadParameters.deserialize
  let subscription_parameters ← optional fields "subscriptionParameters" SubscriptionParameters.deserialize
  return { type, cyclic_read_parameters, subscription_parameters }

def OverriddenSubscription.deserialize : Deserialize OverriddenSubscription := fun value => do
  let fields ← structFields ["browsePath", "subscriptionType"] value
  let browse_path ← field fields "browsePath" [] (nullAs [] (vec string))
  let subscription_type ← optional fields "subscriptionType" SubscriptionType.deserialize
  return { browse_path, subscription_type }

def MeasurementCreation.deserialize : Deserialize MeasurementCreation := fun value => do
  let fields ← structFields ["type", "series", "fragmentName", "unit", "staticFragments"] value
  let type ← optional fields "type" string
  let series ← optional fields "series" string
  let fragment_name ← optional fields "fragmentName" string
  let unit ← optional fields "unit" string
  let static_fragments ← optional fields "staticFragments" (vec string)
  return { type, series, fragment_name, unit, static_fragments }

def EventCreation.deserialize : Deserialize EventCreation := fun value => do
  let fields ← structFields ["type", "text", "staticFragments"] value
  let type ← optional fields "type" string
  let text ← optional fields "text" string
  let static_fragments ← optional fields "staticFragments" (vec string)
  return { type, text, static_fragments }

def AlarmCreation.deserialize : Deserialize AlarmCreation := fun value => do
  let fields ← structFields ["type", "text", "severity", "staticFragments"] value
  let type ← optional fields "type" string
  let text ← optional fields "text" string
  let severity ← optional fields "severity" string
  let static_fragments ← optional fields "staticFragments" (vec string)
  return { type, text, severity, static_fragments }

def MappingEntry.deserialize : Deserialize MappingEntry := fun value => do
  let fields ← structFields ["name", "browsePath", "referencedNodeId", "measurementCreation", "eventCreation",
    "alarmCreation", "customAction"] value
  let name ← optional fields "name" string
  let browse_path ← field fields "browsePath" [] (nullAs [] (vec string))
  let referenced_node_id ← optional fields "referencedNodeId" string
  let measurement_creation ← optional fields "measurementCreation" MeasurementCreation.deserialize
  let event_creation ← optional fields "eventCreation" EventCreation.deserialize
  let alarm_creation ← optional fields "alarmCreation" AlarmCreation.deserialize
  let _custom_action ← optional fields "customAction" raw
  return { name, browse_path, referenced_node_id, measurement_creation, event_creation, alarm_creation }

def ApplyConstraints.deserialize : Deserialize ApplyConstraints := fun value => do
  let fields ← structFields ["matchesServerIds", "matchesNodeIds", "serverObjectHasFragment",
    "browsePathMatchesRegex", "serverHasNodeWithValues"] value
  let matches_server_ids ← field fields "matchesServerIds" [] (nullAs [] (vec string))
  let matches_node_ids ← field fields "matchesNodeIds" [] (nullAs [] (vec string))
  let _server_object_has_fragment ← optional fields "serverObjectHasFragment" string
  let _browse_path_matches_regex ← optional fields "browsePathMatchesRegex" string
  let _server_has_node_with_values ← optional fields "serverHasNodeWithValues" raw
  return { matches_server_ids, matches_node_ids }

namespace DeviceType

def fieldNames : List String :=
  ["name", "description", "enabled", "mappings", "applyConstraints", "subscriptionType",
    "overriddenSubscriptions", "referencedRootNodeId", "referencedNamespaceTable", "referencedServerId",
    "referencedServerName", "uaEventMappings"]

/-- Every field may be absent; one that is there has to be readable. -/
def ofFields (fields : Fields) : Option DeviceType := do
  let name ← field fields "name" "" (nullAs "" string)
  let _description ← optional fields "description" string
  let enabled ← field fields "enabled" true (nullAs true bool)
  let mappings ← field fields "mappings" [] (nullAs [] (vec MappingEntry.deserialize))
  let apply_constraints ← optional fields "applyConstraints" ApplyConstraints.deserialize
  let subscription_type ← optional fields "subscriptionType" SubscriptionType.deserialize
  let overridden_subscriptions ←
    field fields "overriddenSubscriptions" [] (nullAs [] (vec OverriddenSubscription.deserialize))
  let referenced_root_node_id ← optional fields "referencedRootNodeId" string
  let _referenced_namespace_table ← field fields "referencedNamespaceTable" [] (nullAs [] (vec string))
  let _referenced_server_id ← optional fields "referencedServerId" string
  let _referenced_server_name ← optional fields "referencedServerName" string
  let _ua_event_mappings ← optional fields "uaEventMappings" raw
  return { name, enabled, mappings, apply_constraints, subscription_type, overridden_subscriptions,
           referenced_root_node_id }

def deserialize : Deserialize DeviceType := fun value => (structFields fieldNames value).bind ofFields

/-- What the fields ask of their values. -/
def checks : List Check :=
  [⟨"name", fun value => (nullAs "" string value).isSome⟩,
    ⟨"description", fun value => (option string value).isSome⟩,
    ⟨"enabled", fun value => (nullAs true bool value).isSome⟩,
    ⟨"mappings", fun value => (nullAs [] (vec MappingEntry.deserialize) value).isSome⟩,
    ⟨"applyConstraints", fun value => (option ApplyConstraints.deserialize value).isSome⟩,
    ⟨"subscriptionType", fun value => (option SubscriptionType.deserialize value).isSome⟩,
    ⟨"overriddenSubscriptions", fun value => (nullAs [] (vec OverriddenSubscription.deserialize) value).isSome⟩,
    ⟨"referencedRootNodeId", fun value => (option string value).isSome⟩,
    ⟨"referencedNamespaceTable", fun value => (nullAs [] (vec string) value).isSome⟩,
    ⟨"referencedServerId", fun value => (option string value).isSome⟩,
    ⟨"referencedServerName", fun value => (option string value).isSome⟩,
    ⟨"uaEventMappings", fun value => (option raw value).isSome⟩]

theorem accepts_ofFields : Accepts checks ofFields := by
  unfold ofFields checks
  apply Accepts.bind_field
  intro name
  apply Accepts.bind_optional
  intro description
  apply Accepts.bind_field
  intro enabled
  apply Accepts.bind_field
  intro mappings
  apply Accepts.bind_optional
  intro apply_constraints
  apply Accepts.bind_optional
  intro subscription_type
  apply Accepts.bind_field
  intro overridden_subscriptions
  apply Accepts.bind_optional
  intro referenced_root_node_id
  apply Accepts.bind_field
  intro referenced_namespace_table
  apply Accepts.bind_optional
  intro referenced_server_id
  apply Accepts.bind_optional
  intro referenced_server_name
  apply Accepts.bind_optional
  intro ua_event_mappings
  apply Accepts.some

/-- A device type is read from an object exactly when none of its fields is repeated
and each is readable alone. -/
theorem isSome_deserialize_iff {members : List (String × Value)} :
    (deserialize (.object members)).isSome = true ↔
      ∀ member ∈ members, member.1 ∈ fieldNames →
        (members.filter (·.1 == member.1)).length ≤ 1 ∧ (deserialize (.object [member])).isSome = true :=
  accepts_ofFields.isSome_struct_iff

theorem deserialize_eq_none_iff {members : List (String × Value)} :
    deserialize (.object members) = none ↔
      ∃ member ∈ members, member.1 ∈ fieldNames ∧
        (1 < (members.filter (·.1 == member.1)).length ∨ deserialize (.object [member]) = none) := by
  rw [← Option.not_isSome_iff_eq_none, isSome_deserialize_iff]
  push Not
  refine exists_congr fun member => and_congr_right fun hmem => and_congr_right fun hname => ?_
  rw [imp_iff_not_or, not_le, ← Option.not_isSome_iff_eq_none]

end DeviceType

structure Statistics where
  total_pages : Option Nat
  current_page : Option Nat
  page_size : Option Nat
  deriving DecidableEq

def Statistics.deserialize : Deserialize Statistics := fun value => do
  let fields ← structFields ["totalPages", "currentPage", "pageSize"] value
  let total_pages ← optional fields "totalPages" (unsigned (2 ^ 32))
  let current_page ← optional fields "currentPage" (unsigned (2 ^ 32))
  let page_size ← optional fields "pageSize" (unsigned (2 ^ 32))
  return { total_pages, current_page, page_size }

/-- A page of managed objects as returned by the inventory API, still unparsed. -/
structure ManagedObjectPage where
  managed_objects : List Value
  statistics : Option Statistics
  deriving DecidableEq

def ManagedObjectPage.deserialize : Deserialize ManagedObjectPage := fun value => do
  let fields ← structFields ["managedObjects", "statistics"] value
  let managed_objects ← field fields "managedObjects" [] (nullAs [] (vec raw))
  let statistics ← optional fields "statistics" Statistics.deserialize
  return { managed_objects, statistics }

end mapping.model

namespace mapping.source

namespace ManagedObject

def fieldNames : List String := ["id", "name", "lastUpdated", DEVICE_TYPE_FRAGMENT]

/-- A managed object keeps its other fragments, so it is read from an object only. -/
def deserialize : Deserialize ManagedObject
  | .object members => do
    let fields ← structFields fieldNames (.object members)
    let id ← field fields "id" "" (nullAs "" string)
    let _name ← optional fields "name" string
    let last_updated ← optional fields "lastUpdated" string
    let device_type ← optional fields DEVICE_TYPE_FRAGMENT DeviceType.deserialize
    return { id, last_updated, device_type }
  | _ => none

end ManagedObject

/-- Reads both documents from the tree that the JSON library parses a text to. -/
def Decoder.ofParse (parse : String → Option Value) : Decoder where
  managed_object text := (parse text).bind ManagedObject.deserialize
  device_type text := (parse text).bind DeviceType.deserialize

/-- A tree that carries a fragment which is no device type is not read as a managed
object with a device type. -/
theorem device_type_of_malformed {members : List (String × Value)} {fragment : Value}
    (hfragment : (DEVICE_TYPE_FRAGMENT, fragment) ∈ members) (hmalformed : DeviceType.deserialize fragment = none)
    {mo : ManagedObject} (hread : ManagedObject.deserialize (.object members) = some mo) : mo.device_type = none := by
  simp only [ManagedObject.deserialize, Option.bind_eq_bind, Option.bind_eq_some_iff] at hread
  obtain ⟨fields, hfields, id, -, name, -, last_updated, -, device_type, hdevice, hmo⟩ := hread
  cases hmo
  simp only [structFields, Option.ite_none_right_eq_some] at hfields
  obtain ⟨hsingle, hfields⟩ := hfields
  cases hfields
  have hlookup : lookup DEVICE_TYPE_FRAGMENT members = some fragment := by
    rw [lookup_eq_some_iff_mem]
    · exact hfragment
    · simpa using List.all_eq_true.mp hsingle DEVICE_TYPE_FRAGMENT (by simp [ManagedObject.fieldNames])
  simp only [serde.optional, field, hlookup] at hdevice
  cases fragment with
  | null => exact (Option.some.inj hdevice).symm
  | _ => simp [option, hmalformed] at hdevice

/-- Pulled device types alone shadow nothing. -/
theorem shadowed_merge_nil {pulled : List LoadedDeviceType} (hpulled : ∀ l ∈ pulled, l.origin = .Pull) :
    shadowed pulled (merge pulled []) = [] := by
  have hmerged : ∀ m ∈ merge pulled [], m.origin = .Pull := by
    intro m hmem
    rw [mem_merge_iff] at hmem
    obtain ⟨-, hsource⟩ := of_get_merged hmem
    exact hpulled m (by simpa using hsource)
  have hnone : ∀ p ∈ pulled, ¬ ((merge pulled []).any fun m => m.id == p.id && m.origin == .Push) = true := by
    intro p _ hany
    obtain ⟨m, hmem, hpush⟩ := List.any_eq_true.mp hany
    simp [hmerged m hmem] at hpush
  rw [shadowed, List.filter_eq_nil_iff.mpr hnone, List.map_nil]

section Malformed

variable (parse : String → Option Value) (name text fingerprint : String)

/-- A file with a malformed fragment is read as a bare device type fragment. -/
theorem load_file_of_malformed {members : List (String × Value)} (hparse : parse text = some (.object members))
    {fragment : Value} (hfragment : (DEVICE_TYPE_FRAGMENT, fragment) ∈ members)
    (hmalformed : DeviceType.deserialize fragment = none) :
    load_file (.ofParse parse) name text fingerprint =
      match DeviceType.deserialize (.object members) with
      | some device_type => .ok { id := (splitExtension name).1, origin := .Push, fingerprint, device_type }
      | none => .error (.ParseFile name) := by
  have hmo : (((Decoder.ofParse parse).managed_object text).bind fun mo =>
      mo.device_type.map fun device_type => (mo.id, device_type)) = none := by
    rw [Option.bind_eq_none_iff]
    intro mo hread
    simp only [Decoder.ofParse, hparse, Option.bind_some] at hread
    rw [device_type_of_malformed hfragment hmalformed hread, Option.map_none]
  have hdevice : (Decoder.ofParse parse).device_type text = DeviceType.deserialize (.object members) := by
    simp only [Decoder.ofParse, hparse, Option.bind_some]
  rw [← hdevice]
  cases hfound : (Decoder.ofParse parse).device_type text with
  | none => simp only [load_file, hmo, hfound]
  | some device_type => simp only [load_file, hmo, hfound]

/-- A mapping file with a malformed fragment is an error and shadows nothing, exactly
when the enclosing object does not pass for a device type: one of its members has the
name of a field of a device type and is repeated or cannot be read. -/
theorem malformed_file_refused_iff {members : List (String × Value)} (hparse : parse text = some (.object members))
    {fragment : Value} (hfragment : (DEVICE_TYPE_FRAGMENT, fragment) ∈ members)
    (hmalformed : DeviceType.deserialize fragment = none) :
    ((∃ error, load_file (.ofParse parse) name text fingerprint = .error error) ∧
        ∀ pulled : List LoadedDeviceType, (∀ l ∈ pulled, l.origin = .Pull) →
          shadowed pulled (merge pulled (load_file (.ofParse parse) name text fingerprint).toOption.toList) = []) ↔
      ∃ member ∈ members, member.1 ∈ DeviceType.fieldNames ∧
        (1 < (members.filter (·.1 == member.1)).length ∨ DeviceType.deserialize (.object [member]) = none) := by
  rw [load_file_of_malformed parse name text fingerprint hparse hfragment hmalformed]
  rw [← DeviceType.deserialize_eq_none_iff]
  cases DeviceType.deserialize (.object members) with
  | some device_type => simp
  | none =>
    have hshadowed : ∀ pulled : List LoadedDeviceType, (∀ l ∈ pulled, l.origin = .Pull) →
        shadowed pulled (merge pulled []) = [] := fun pulled hpulled => shadowed_merge_nil hpulled
    exact iff_of_true ⟨⟨_, rfl⟩, hshadowed⟩ rfl

/-- The name of the export is a number, so it does not pass for a device type. -/
theorem malformed_file_refused_with_bad_name :
    ∃ (parse : String → Option Value) (text : String),
      parse text = some (.object [("name", .number (.PosInt 5)), (DEVICE_TYPE_FRAGMENT, .number (.PosInt 5))]) ∧
        (∃ error, load_file (.ofParse parse) "pump.json" text "67:0" = .error error) ∧
        ∀ pulled : List LoadedDeviceType, (∀ l ∈ pulled, l.origin = .Pull) →
          shadowed pulled (merge pulled (load_file (.ofParse parse) "pump.json" text "67:0").toOption.toList) = [] := by
  let document := "\x7b\"name\":5,\"" ++ DEVICE_TYPE_FRAGMENT ++ "\":5\x7d"
  let tree : Value := .object [("name", .number (.PosInt 5)), (DEVICE_TYPE_FRAGMENT, .number (.PosInt 5))]
  refine ⟨fun text => if text = document then some tree else none, document, if_pos rfl, ?_⟩
  exact (malformed_file_refused_iff _ _ _ _ (if_pos rfl) (.tail _ (.head _)) rfl).mpr
    ⟨_, .head _, by decide, .inr rfl⟩

/-- An export whose device type has an unreadable flag loads as an empty device type,
and replaces the device type of that id fetched from inventory. -/
theorem malformed_file_shadows :
    ∃ (parse : String → Option Value) (text : String) (pump : DeviceType),
      parse text = some (.object [("id", .string "7"), (DEVICE_TYPE_FRAGMENT, .object [("enabled", .string "yes")])]) ∧
        DeviceType.deserialize (.object [("enabled", .string "yes")]) = none ∧
        load_file (.ofParse parse) "pump.json" text "83:0" =
          .ok ⟨"pump", .Push, "83:0", ⟨"", true, [], none, none, [], none⟩⟩ ∧
        shadowed [⟨"pump", .Pull, "", pump⟩]
          (merge [⟨"pump", .Pull, "", pump⟩] (load_file (.ofParse parse) "pump.json" text "83:0").toOption.toList) =
            ["pump"] := by
  let document := "\x7b\"id\":\"7\",\"" ++ DEVICE_TYPE_FRAGMENT ++ "\":\x7b\"enabled\":\"yes\"\x7d\x7d"
  let tree : Value := .object [("id", .string "7"), (DEVICE_TYPE_FRAGMENT, .object [("enabled", .string "yes")])]
  refine ⟨fun text => if text = document then some tree else none, document,
    ⟨"pump", true, [⟨some "speed", ["Speed"], none, none, none, none⟩], none, none, [], none⟩, ?_, ?_, ?_, ?_⟩
  · exact if_pos rfl
  · decide
  · decide
  · decide

end Malformed

end mapping.source
