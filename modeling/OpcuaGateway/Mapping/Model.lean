import OpcuaGateway.Foundation.Binary64

open text binary64

namespace mapping.model

/-- How a device type or a single mapping entry wants its values delivered. -/
inductive SubscriptionKind where
  | Subscription
  | CyclicRead
  | None
  deriving DecidableEq

inductive Deadband where
  | Absolute
  | Percent
  deriving DecidableEq

inductive DataChangeTrigger where
  | Status
  | StatusValue
  | StatusValueTimestamp
  deriving DecidableEq

/-- Per-monitored-item parameters, as authored. -/
structure SubscriptionParameters where
  /-- Requested sampling interval in milliseconds. -/
  sampling_rate : Option Binary64
  queue_size : Option Nat
  deadband_type : Option String
  deadband_value : Option Binary64
  /-- OPC UA numeric range, for subscribing to a slice of an array node. -/
  ranges : Option String
  data_change_trigger : Option String
  discard_oldest : Option Bool
  deriving DecidableEq

/-- Unsigned 32-bit bounds of a numeric range. -/
def isIndex (cs : List Char) : Bool := !cs.isEmpty && (parse_unsigned (2 ^ 32) (String.ofList cs)).isSome

/-- One dimension of a numeric range: `n` or `n:m`. -/
def isDimension (dim : List Char) : Bool :=
  match splitAll ':' dim with
  | [first] => isIndex first
  | [first, second] => isIndex first && isIndex second
  | _ => false

def is_numeric_range (s : String) : Bool :=
  s != "" && (splitAll ',' s.toList).all isDimension

namespace SubscriptionParameters

def default : SubscriptionParameters := ⟨none, none, none, none, none, none, none⟩

/-- The deadband filter, or `none` when no usable one is configured. -/
def deadband (self : SubscriptionParameters) : Option (Deadband × Binary64) := do
  let value ← self.deadband_value
  let type ← self.deadband_type
  if type = "Absolute" then some (.Absolute, value)
  else if type = "Percent" then some (.Percent, value)
  else none

/-- Whether every parameter is one the OPC UA services accept. -/
def is_valid (self : SubscriptionParameters) : Bool :=
  if self.deadband_type.isSome && self.deadband_value.isSome && self.deadband.isNone then false
  else if self.data_change_trigger.any fun trigger =>
      trigger != "Status" && trigger != "StatusValue" && trigger != "StatusValueTimestamp" then false
  else if (self.ranges.map trim).any fun ranges => ranges != "" && !is_numeric_range ranges then false
  else true

def dataChangeTrigger (self : SubscriptionParameters) : DataChangeTrigger :=
  if self.data_change_trigger = some "Status" then .Status
  else if self.data_change_trigger = some "StatusValueTimestamp" then .StatusValueTimestamp
  else .StatusValue

def discardOldest (self : SubscriptionParameters) : Bool := self.discard_oldest.getD true

def index_range (self : SubscriptionParameters) : Option String :=
  (self.ranges.map trim).filter (· != "")

end SubscriptionParameters

structure CyclicReadParameters where
  rate : Option Nat
  max_age : Option Binary64
  deriving DecidableEq

def CyclicReadParameters.rate_ms (self : CyclicReadParameters) : Option Nat := self.rate.filter (0 < ·)

def CyclicReadParameters.maxAge (self : CyclicReadParameters) : Binary64 :=
  self.max_age.getD (.finite (zero false))

structure SubscriptionType where
  type : Option String
  cyclic_read_parameters : Option CyclicReadParameters
  subscription_parameters : Option SubscriptionParameters
  deriving DecidableEq

def SubscriptionType.kind (self : SubscriptionType) : SubscriptionKind :=
  match self.type.map trim with
  | some t =>
    if eq_ignore_ascii_case t "Subscription" then .Subscription
    else if eq_ignore_ascii_case t "CyclicRead" then .CyclicRead
    else .None
  | none => .None

structure OverriddenSubscription where
  browse_path : List String
  subscription_type : Option SubscriptionType
  deriving DecidableEq

structure MeasurementCreation where
  type : Option String
  series : Option String
  fragment_name : Option String
  unit : Option String
  static_fragments : Option (List String)
  deriving DecidableEq

structure EventCreation where
  type : Option String
  text : Option String
  static_fragments : Option (List String)
  deriving DecidableEq

structure AlarmCreation where
  type : Option String
  text : Option String
  severity : Option String
  static_fragments : Option (List String)
  deriving DecidableEq

def nonBlank (s : Option String) : Option String := (s.map trim).filter (· != "")

def simplify (node_id : String) : String := String.ofList (node_id.toList.filter Char.isAlphanum)

/-- Series name, falling back to a node-derived name. -/
def MeasurementCreation.series_name (self : MeasurementCreation) (node_id : String) : String :=
  (nonBlank self.series).getD ("series_" ++ simplify node_id)

/-- Fragment name, falling back to a node-derived name. -/
def MeasurementCreation.fragmentName (self : MeasurementCreation) (node_id : String) : String :=
  (nonBlank self.fragment_name).getD ("measurement_" ++ simplify node_id)

structure MappingEntry where
  name : Option String
  browse_path : List String
  referenced_node_id : Option String
  measurement_creation : Option MeasurementCreation
  event_creation : Option EventCreation
  alarm_creation : Option AlarmCreation
  deriving DecidableEq

/-- The constraints that scope a device type to servers and roots. Those that need
an address space are reported and ignored. -/
structure ApplyConstraints where
  matches_server_ids : List String
  matches_node_ids : List String
  deriving DecidableEq

structure DeviceType where
  name : String
  enabled : Bool
  mappings : List MappingEntry
  apply_constraints : Option ApplyConstraints
  subscription_type : Option SubscriptionType
  overridden_subscriptions : List OverriddenSubscription
  referenced_root_node_id : Option String
  deriving DecidableEq

example : is_numeric_range "0:3,2:4" = true ∧ is_numeric_range "not-a-range" = false := by decide

end mapping.model
