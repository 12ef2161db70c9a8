import OpcuaGateway.Foundation.Result
import OpcuaGateway.Mapping.Model
import OpcuaGateway.Mapping.Value
import OpcuaGateway.OpcuaConn.Connection

open text binary64 mapping.model mapping.value mapping.namespace_table

namespace opcua_conn

/-- Subscription-level parameters, shared by every monitored item on a server. -/
structure SubscriptionParams where
  publishing_interval_ms : Nat
  lifetime_count : Nat
  max_keep_alive_count : Nat
  max_notifications_per_publish : Nat
  priority : Nat
  deriving DecidableEq

/-- One monitored item to create. -/
structure MonitoredItemSpec where
  node_id : NodeId
  /-- Requested sampling interval in milliseconds; the server picks if there is none. -/
  sampling_interval_ms : Option Binary64
  queue_size : Nat
  discard_oldest : Bool
  data_change_trigger : DataChangeTrigger
  deadband : Option (Deadband × Binary64)
  /-- OPC UA numeric range, for monitoring a slice of an array node. -/
  index_range : Option String
  deriving DecidableEq

structure DataChangeFilter where
  trigger : DataChangeTrigger
  deadband_type : Nat
  deadband_value : Binary64
  deriving DecidableEq

structure MonitoredItemCreateRequest where
  node_id : NodeId
  index_range : Option String
  sampling_interval : Binary64
  filter : Option DataChangeFilter
  queue_size : Nat
  discard_oldest : Bool
  deriving DecidableEq

structure CreatedItem where
  status_code : StatusCode
  client_handle : Nat
  deriving DecidableEq

/-- A live session with its subscription services. Items are requested without a
client handle, so the session assigns each of them a unique one. -/
structure Connection extends Session where
  create_subscription : SubscriptionParams → Except ConnError Nat
  createItems : Nat → List MonitoredItemCreateRequest → Except ConnError (List CreatedItem)
  distinct_handles : ∀ subscription_id requests created,
    createItems subscription_id requests = .ok created → (created.map (·.client_handle)).Nodup

/-- An index of a numeric range: one to ten digits below 2 ^ 32. -/
def rangeIndex (cs : List Char) : Option Nat :=
  if cs = [] ∨ 10 < cs.length then none else (digits cs).filter (· < 2 ^ 32)

def isRangeDimension (cs : List Char) : Bool :=
  match splitAll ':' cs with
  | [index] => (rangeIndex index).isSome
  | [low, high] =>
    match rangeIndex low, rangeIndex high with
    | some low, some high => low < high
    | _, _ => false
  | _ => false

/-- Whether the client library reads a text as a numeric range. -/
def parsesAsRange (range : String) : Bool :=
  let dims := splitAll ',' range.toList
  range == "" || (dims.length ≤ 10 && dims.all isRangeDimension)

/-- The item's filter; none for the trigger and deadband that are the default. -/
def data_change_filter (item : MonitoredItemSpec) : Option DataChangeFilter :=
  if item.data_change_trigger = .StatusValue ∧ item.deadband = none then none
  else
    let (deadband_type, deadband_value) :=
      match item.deadband with
      | some (.Absolute, value) => (1, value)
      | some (.Percent, value) => (2, value)
      | none => (0, .finite (zero false))
    some ⟨item.data_change_trigger, deadband_type, deadband_value⟩

def requestOf (item : MonitoredItemSpec) : Except ConnError MonitoredItemCreateRequest :=
  if (item.index_range.all parsesAsRange) then
    .ok {
      node_id := item.node_id
      index_range := item.index_range
      sampling_interval := item.sampling_interval_ms.getD (ofInt (-1))
      filter := data_change_filter item
      queue_size := item.queue_size
      discard_oldest := item.discard_oldest }
  else .error (.InvalidRange (item.index_range.getD ""))

def BadUnexpectedError : StatusCode := 0x80010000

/-- What the server made of the item at one position. -/
def itemResult : Option CreatedItem → Except StatusCode Nat
  | some item => if is_good item.status_code then .ok item.client_handle else .error item.status_code
  | none => .error BadUnexpectedError

/-- Add monitored items to a subscription, positionally aligned with `items`: a
created item yields its client handle, a refused one its status code. -/
def create_monitored_items (connection : Connection) (subscription_id : Nat)
    (items : List MonitoredItemSpec) : Except ConnError (List (Except StatusCode Nat)) :=
  if items.isEmpty then .ok []
  else
    match items.mapM requestOf with
    | .error error => .error error
    | .ok requests =>
      (connection.createItems subscription_id requests).map fun created =>
        items.zipIdx.map fun (_, i) => itemResult created[i]?

theorem itemResult_eq_ok {item : Option CreatedItem} {handle : Nat} (h : itemResult item = .ok handle) :
    item.map (·.client_handle) = some handle := by
  cases item with
  | none => cases h
  | some item =>
    rw [itemResult] at h
    split at h
    · cases h
      rfl
    · cases h

/-- The results of a request that went through: one for each item, and no handle
twice. -/
theorem create_monitored_items_spec {connection : Connection} {subscription_id : Nat}
    {items : List MonitoredItemSpec} {results : List (Except StatusCode Nat)}
    (h : create_monitored_items connection subscription_id items = .ok results) :
    results.length = items.length ∧
      ∀ (i j handle : Nat), results[i]? = some (.ok handle) → results[j]? = some (.ok handle) → i = j := by
  unfold create_monitored_items at h
  split at h
  · rename_i hempty
    cases h
    exact ⟨by simp_all, fun i j handle hi => by simp at hi⟩
  · split at h
    · cases h
    · obtain ⟨created, hcreated, rfl⟩ := result.map_eq_ok_iff.mp h
      have hnodup := connection.distinct_handles _ _ _ hcreated
      have hat : ∀ (i handle : Nat), (items.zipIdx.map fun (_, i) => itemResult created[i]?)[i]? = some (.ok handle) →
          (created.map (·.client_handle))[i]? = some handle := by
        intro i handle hi
        rw [List.getElem?_map, List.getElem?_zipIdx, Option.map_map, Option.map_eq_some_iff] at hi
        obtain ⟨item, -, hresult⟩ := hi
        rw [List.getElem?_map]
        exact itemResult_eq_ok (by simpa using hresult)
      refine ⟨by simp, fun i j handle hi hj => ?_⟩
      have hbound : i < (created.map (·.client_handle)).length :=
        (List.getElem?_eq_some_iff.mp (hat i handle hi)).1
      exact (List.getElem?_inj hbound hnodup).mp ((hat i handle hi).trans (hat j handle hj).symm)

end opcua_conn
