import OpcuaGateway.Mapping.Model
import OpcuaGateway.Mapping.Namespace

open text mapping.model mapping.namespace_table

namespace mapping.constraints

def non_blank (values : List String) : List String := (values.map trim).filter (· != "")

def matches_server_ids (constraint : ApplyConstraints) (server_id : String)
    (known_server_ids : List String) : Bool :=
  let wanted := non_blank constraint.matches_server_ids
  if wanted.isEmpty || wanted.contains server_id then true
  else if !wanted.any fun id => known_server_ids.contains id then true
  else false

/-- `matchesNodeIds` is compared against the root the device type was authored against. -/
def matches_node_ids (codec : TextCodec) (constraint : ApplyConstraints) (device_type : DeviceType)
    (table : NamespaceTable) : Bool :=
  let wanted := non_blank constraint.matches_node_ids
  if wanted.isEmpty then true
  else
    match device_type.referenced_root_node_id with
    | none => false
    | some root =>
      match parse_node_id codec table root with
      | .error _ => false
      | .ok root =>
        wanted.any fun candidate =>
          match parse_node_id codec table candidate with
          | .ok id => id == root
          | .error _ => false

/-- Whether a device type applies to a given server. A constraint that names no
server of `known_server_ids` is ignored. -/
def applies (codec : TextCodec) (device_type : DeviceType) (server_id : String)
    (known_server_ids : List String) (table : NamespaceTable) : Bool :=
  device_type.enabled &&
    match device_type.apply_constraints with
    | none => true
    | some constraint =>
      matches_server_ids constraint server_id known_server_ids &&
        matches_node_ids codec constraint device_type table

/-- The constraint names a server of this list. -/
def NamesAny (constraint : ApplyConstraints) (ids : List String) : Prop :=
  ∃ id ∈ non_blank constraint.matches_server_ids, id ∈ ids

instance (constraint : ApplyConstraints) (ids : List String) : Decidable (NamesAny constraint ids) :=
  inferInstanceAs (Decidable (∃ id ∈ _, id ∈ ids))

/-- The server ids a gateway knows matter in one case only: the constraint names
servers, and not the one it is checked for. -/
theorem matches_server_ids_iff {constraint : ApplyConstraints} {server_id : String}
    {known : List String} : matches_server_ids constraint server_id known = true ↔
      non_blank constraint.matches_server_ids = [] ∨
        server_id ∈ non_blank constraint.matches_server_ids ∨ ¬ NamesAny constraint known := by
  simp only [matches_server_ids, NamesAny, Bool.or_eq_true, List.isEmpty_iff, List.contains_iff_mem]
  split
  · tauto
  · split <;> simp_all

end mapping.constraints
