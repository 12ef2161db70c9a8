import OpcuaGateway.Foundation.OrderedMap
import OpcuaGateway.Foundation.Result
import OpcuaGateway.Mapping.Model
import OpcuaGateway.Mapping.Namespace

open text binary64 ordered_map mapping.model mapping.namespace_table

namespace mapping.resolve

/-- Default cyclic read rate when a cyclic-read device type does not specify one. -/
def DEFAULT_READ_RATE_MS : Nat := 5000

/-- What to publish when a node's value arrives. -/
inductive Action where
  | Measurement (creation : MeasurementCreation)
  | Event (creation : EventCreation)
  | Alarm (creation : AlarmCreation)
  deriving DecidableEq

/-- How a node's values reach the gateway. -/
inductive Delivery where
  | Subscription (parameters : SubscriptionParameters)
  | CyclicRead (rate_ms : Nat) (max_age : Binary64)
  deriving DecidableEq

structure ReadSchedule where
  rate_ms : Nat
  max_age_ms : Nat
  deriving DecidableEq

def read_schedule_of : Delivery → Option ReadSchedule
  | .CyclicRead rate_ms max_age => some ⟨rate_ms, truncateU64 max_age⟩
  | .Subscription _ => none

def Delivery.isSubscription : Delivery → Bool
  | .Subscription _ => true
  | .CyclicRead _ _ => false

/-- A node whose NodeId is known, with everything to publish for it. -/
structure ResolvedNode where
  node_id : NodeId
  /-- String form used in payload fragments and log fields. -/
  node_id_str : String
  actions : List Action
  delivery : Delivery
  deriving DecidableEq

def ResolvedNode.read_schedule (self : ResolvedNode) : Option ReadSchedule := read_schedule_of self.delivery

def ResolvedNode.subscription_parameters (self : ResolvedNode) : Option SubscriptionParameters :=
  match self.delivery with
  | .Subscription parameters => some parameters
  | .CyclicRead _ _ => none

/-- A device type resolved against one server. -/
structure ResolvedMapping where
  device_type_id : String
  device_type_name : String
  root_node_id : String
  nodes : List ResolvedNode
  deriving DecidableEq

/-- Nodes delivered by subscription. -/
def ResolvedMapping.subscribed_nodes (self : ResolvedMapping) : List ResolvedNode :=
  self.nodes.filter (·.delivery.isSubscription)

/-- Schedules are ordered by rate, then by age. -/
def ReadSchedule.lt (a b : ReadSchedule) : Bool :=
  decide (a.rate_ms < b.rate_ms) || (a.rate_ms == b.rate_ms && decide (a.max_age_ms < b.max_age_ms))

/-- Add a node to the group of its schedule, keeping the groups in schedule order. -/
def addToGroup (schedule : ReadSchedule) (node : ResolvedNode) :
    List (ReadSchedule × List ResolvedNode) → List (ReadSchedule × List ResolvedNode)
  | [] => [(schedule, [node])]
  | (other, nodes) :: rest =>
    if schedule = other then (other, nodes ++ [node]) :: rest
    else if schedule.lt other then (schedule, [node]) :: (other, nodes) :: rest
    else (other, nodes) :: addToGroup schedule node rest

def groupNode (groups : List (ReadSchedule × List ResolvedNode)) (node : ResolvedNode) :
    List (ReadSchedule × List ResolvedNode) :=
  match node.read_schedule with
  | some schedule => addToGroup schedule node groups
  | none => groups

/-- Cyclic-read nodes grouped by schedule. -/
def ResolvedMapping.read_groups (self : ResolvedMapping) : List (ReadSchedule × List ResolvedNode) :=
  self.nodes.foldl groupNode []

/-- Measurement type, which becomes the `m/<type>` topic segment. -/
def measurement_type (m : MeasurementCreation) : Option String := (m.type.map trim).filter (· != "")

/-- Declare the unit of one measurement, if it has one. -/
def declareUnit (node_id : String) (out : OrderedMap String (List (String × String))) :
    Action → OrderedMap String (List (String × String))
  | .Measurement m =>
    match nonBlank m.unit, measurement_type m with
    | some unit, some type => out.insert type ((out.get type).getD [] ++ [(m.series_name node_id, unit)])
    | _, _ => out
  | _ => out

/-- Every series with its unit, per measurement type. -/
def ResolvedMapping.measurement_units (self : ResolvedMapping) : OrderedMap String (List (String × String)) :=
  self.nodes.foldl (fun out node => node.actions.foldl (declareUnit node.node_id_str) out) .empty

/-- How an entry's NodeId is obtained. -/
inductive NodeRef where
  | Known (node_id : NodeId)
  | Path (path : List QualifiedName)
  deriving DecidableEq

structure Entry where
  name : String
  actions : List Action
  node_ref : NodeRef
  delivery : Delivery
  deriving DecidableEq

/-- A device type prepared for resolution against a live session. -/
structure Plan where
  device_type_id : String
  device_type_name : String
  root_node_id : NodeId
  entries : List Entry
  deriving DecidableEq

/-- Turn a `subscriptionType` into a delivery mode; nothing for an unusable one. -/
def delivery_of (subscription_type : Option SubscriptionType) : Option Delivery := do
  let subscription_type ← subscription_type
  match subscription_type.kind with
  | .Subscription =>
    let params := subscription_type.subscription_parameters.getD .default
    if params.is_valid then some (.Subscription params) else none
  | .CyclicRead =>
    let params := subscription_type.cyclic_read_parameters
    some (.CyclicRead ((params.bind CyclicReadParameters.rate_ms).getD DEFAULT_READ_RATE_MS)
      ((params.map CyclicReadParameters.maxAge).getD (.finite (zero false))))
  | .None => none

/-- `overriddenSubscriptions` as browse-path-keyed delivery modes. -/
def overrides_of (device_type : DeviceType) (table : NamespaceTable) :
    List (List QualifiedName × Option Delivery) :=
  (device_type.overridden_subscriptions.filter (!·.browse_path.isEmpty)).map fun o =>
    (to_qualified_names table o.browse_path, delivery_of o.subscription_type)

def hasType (type : Option String) : Bool := type.any fun t => !isBlank t

def actions_of (entry : MappingEntry) : List Action :=
  ((entry.measurement_creation.filter fun m => (measurement_type m).isSome).map Action.Measurement).toList ++
    ((entry.event_creation.filter fun e => hasType e.type).map Action.Event).toList ++
    ((entry.alarm_creation.filter fun a => hasType a.type).map Action.Alarm).toList

/-- Where the NodeId of a mapping entry comes from, unless the entry is unusable. -/
def nodeRefOf (codec : TextCodec) (table : NamespaceTable) (entry : MappingEntry) : Option NodeRef :=
  match entry.referenced_node_id.filter (· != "") with
  | some node_id =>
    match parse_node_id codec table node_id with
    | .ok id => some (.Known id)
    | .error _ => none
  | none =>
    if entry.browse_path.isEmpty then none
    else some (.Path (to_qualified_names table entry.browse_path))

/-- One mapping entry of a plan; nothing if this gateway cannot support it. -/
def planEntry (codec : TextCodec) (table : NamespaceTable) (default_delivery : Option Delivery)
    (overrides : List (List QualifiedName × Option Delivery)) (entry : MappingEntry) : Option Entry := do
  let actions := actions_of entry
  if actions.isEmpty then none
  else if entry.browse_path.any is_regex then none
  else
    let path := to_qualified_names table entry.browse_path
    let node_ref ← nodeRefOf codec table entry
    let delivery ←
      ((overrides.find? fun o => o.1 == path).map Prod.snd).getD default_delivery
    some { name := entry.name.getD "<unnamed>", actions, node_ref, delivery }

/-- The root a device type was authored against. -/
def rootOf (codec : TextCodec) (table : NamespaceTable) (device_type : DeviceType) :
    Except MappingError NodeId :=
  match device_type.referenced_root_node_id with
  | some root => parse_node_id codec table root
  | none => .ok ⟨0, .Numeric 84⟩

/-- Prepare a device type for resolution against a server's namespace table.
Entries this gateway cannot support are dropped. -/
def plan (codec : TextCodec) (device_type_id : String) (device_type : DeviceType)
    (table : NamespaceTable) : Except MappingError Plan :=
  (rootOf codec table device_type).map fun root =>
    { device_type_id
      device_type_name := device_type.name
      root_node_id := root
      entries := device_type.mappings.filterMap
        (planEntry codec table (delivery_of device_type.subscription_type)
          (overrides_of device_type table)) }

namespace Plan

/-- Entries still needing a browse path translation, by entry index. -/
def pending_paths (self : Plan) : List (Nat × List QualifiedName) :=
  self.entries.zipIdx.filterMap fun (entry, i) =>
    match entry.node_ref with
    | .Path path => some (i, path)
    | .Known _ => none

/-- Record the NodeId a translation produced for one entry. -/
def set_resolved (self : Plan) (index : Nat) (node_id : NodeId) : Plan :=
  { self with entries := self.entries.modify index fun entry => { entry with node_ref := .Known node_id } }

end Plan

/-- Two entries share a node only when they also share a delivery mode. -/
def sameNode (node_id : NodeId) (delivery : Delivery) (node : ResolvedNode) : Bool :=
  node.node_id == node_id && node.delivery.isSubscription == delivery.isSubscription &&
    node.read_schedule == read_schedule_of delivery

/-- Add the actions of an entry to its node, or a new node behind all others. -/
def addToNode (codec : TextCodec) (node_id : NodeId) (entry : Entry) :
    List ResolvedNode → List ResolvedNode
  | [] => [⟨node_id, node_id.to_string codec, entry.actions, entry.delivery⟩]
  | node :: rest =>
    if sameNode node_id entry.delivery node then
      { node with actions := node.actions ++ entry.actions } :: rest
    else node :: addToNode codec node_id entry rest

/-- Group one entry with the nodes of the entries before it, or drop it if it is
still unresolved. -/
def addEntry (codec : TextCodec) (nodes : List ResolvedNode) (entry : Entry) : List ResolvedNode :=
  match entry.node_ref with
  | .Known node_id => addToNode codec node_id entry nodes
  | .Path _ => nodes

/-- Drop still-unresolved entries and group the rest by NodeId and delivery mode. -/
def Plan.finish (codec : TextCodec) (self : Plan) : ResolvedMapping where
  device_type_id := self.device_type_id
  device_type_name := self.device_type_name
  root_node_id := self.root_node_id.to_string codec
  nodes := self.entries.foldl (addEntry codec) []

theorem addToNode_ne_nil (codec : TextCodec) (node_id : NodeId) (entry : Entry)
    (nodes : List ResolvedNode) : addToNode codec node_id entry nodes ≠ [] := by
  cases nodes with
  | nil => simp [addToNode]
  | cons node rest =>
    rw [addToNode]
    split <;> simp

/-- One entry with a NodeId is enough for a node. -/
theorem foldl_addEntry_ne_nil {codec : TextCodec} {entries : List Entry} {nodes : List ResolvedNode}
    (h : nodes ≠ [] ∨ ∃ entry ∈ entries, ∃ node_id, entry.node_ref = .Known node_id) :
    entries.foldl (addEntry codec) nodes ≠ [] := by
  induction entries generalizing nodes with
  | nil => exact h.resolve_right (by simp)
  | cons head rest ih =>
    rw [List.foldl_cons]
    refine ih ?_
    rcases h with h | ⟨entry, hmem, node_id, href⟩
    · refine Or.inl ?_
      unfold addEntry
      split
      · exact addToNode_ne_nil _ _ _ _
      · exact h
    · rcases List.mem_cons.mp hmem with rfl | hmem
      · refine Or.inl ?_
        rw [addEntry, href]
        exact addToNode_ne_nil _ _ _ _
      · exact Or.inr ⟨entry, hmem, node_id, href⟩

theorem plan_eq_ok {codec : TextCodec} {device_type_id : String} {device_type : DeviceType}
    {table : NamespaceTable} {p : Plan} (h : plan codec device_type_id device_type table = .ok p) :
    p.device_type_id = device_type_id := by
  obtain ⟨root, -, rfl⟩ := result.map_eq_ok_iff.mp h
  rfl

end mapping.resolve
