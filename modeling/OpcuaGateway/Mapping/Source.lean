import OpcuaGateway.Foundation.OrderedMap
import OpcuaGateway.Mapping.Model
import OpcuaGateway.Mapping.Namespace

open ordered_map text mapping.model mapping.namespace_table

namespace mapping.source

/-- Where a device type was loaded from. -/
inductive Origin where
  | Pull
  | Push
  deriving DecidableEq

structure LoadedDeviceType where
  id : String
  origin : Origin
  /-- Cheap change marker; comparing these is how a reload is detected. -/
  fingerprint : String
  device_type : DeviceType
  deriving DecidableEq

/-- The parts of a managed object that a device type is loaded from. -/
structure ManagedObject where
  id : String
  last_updated : Option String
  device_type : Option DeviceType
  deriving DecidableEq

/-- How the JSON library reads the text of a mapping file as either document. -/
structure Decoder where
  managed_object : String → Option ManagedObject
  device_type : String → Option DeviceType

/-- Keep a managed object only if it carries a device type. -/
def from_managed_object (mo : ManagedObject) : Option LoadedDeviceType :=
  mo.device_type.map fun device_type =>
    { id := mo.id, origin := .Pull, fingerprint := mo.last_updated.getD "", device_type }

/-- A file name split at its last dot, unless that is where the name starts. -/
def splitExtension (name : String) : String × Option String :=
  match splitOnce '.' name.toList.reverse with
  | some (extension, stem) =>
    if stem = [] then (name, none)
    else (String.ofList stem.reverse, some (String.ofList extension.reverse))
  | none => (name, none)

def is_mapping_file (name : String) : Bool := (splitExtension name).2 == some "json"

/-- The metadata of a file as far as it goes into its fingerprint. -/
structure Metadata where
  len : Nat
  modified : Nat
  deriving DecidableEq

def Metadata.fingerprint (self : Metadata) : String := toString self.len ++ ":" ++ toString self.modified

/-- A mapping file as its text and its fingerprint have been read: a managed object
export first, a bare device type fragment second. -/
def load_file (decoder : Decoder) (name text fingerprint : String) :
    Except MappingError LoadedDeviceType :=
  let fallback_id := (splitExtension name).1
  match (decoder.managed_object text).bind fun mo => mo.device_type.map fun dt => (mo.id, dt) with
  | some (id, device_type) =>
    .ok { id := if id = "" then fallback_id else id, origin := .Push, fingerprint, device_type }
  | none =>
    match decoder.device_type text with
    | some device_type => .ok { id := fallback_id, origin := .Push, fingerprint, device_type }
    | none => .error (.ParseFile name)

/-- The loaded files in id order; files that cannot be read are ignored. -/
def sortById (loaded : List LoadedDeviceType) : List LoadedDeviceType :=
  loaded.insertionSort fun a b => a.id ≤ b.id

/-- Every loaded device type's change marker, keyed by id. -/
abbrev Revision := OrderedMap String (Origin × String)

/-- Change marker for a whole set, used to decide whether a reload is needed. -/
def revision (loaded : List LoadedDeviceType) : Revision :=
  .ofList (loaded.map fun l => (l.id, (l.origin, l.fingerprint)))

/-- What changed between two revisions. -/
structure RevisionDiff where
  added : List String
  removed : List String
  changed : List String
  deriving DecidableEq

namespace RevisionDiff

def between (before after : Revision) : RevisionDiff where
  added := after.keys.filter fun id => (before.get id).isNone
  removed := before.keys.filter fun id => (after.get id).isNone
  changed := after.keys.filter fun id =>
    (before.get id).any fun previous => (after.get id).any fun marker => previous != marker

def is_empty (self : RevisionDiff) : Bool :=
  self.added.isEmpty && self.removed.isEmpty && self.changed.isEmpty

end RevisionDiff

/-- Ids that were fetched but discarded because a pushed file wins. -/
def shadowed (pulled merged : List LoadedDeviceType) : List String :=
  (pulled.filter fun p => merged.any fun m => m.id == p.id && m.origin == .Push).map (·.id)

/-- Both sources keyed by device type id, pushed files winning. -/
def merged (pulled pushed : List LoadedDeviceType) : OrderedMap String LoadedDeviceType :=
  .ofList ((pulled ++ pushed).map fun l => (l.id, l))

def merge (pulled pushed : List LoadedDeviceType) : List LoadedDeviceType := (merged pulled pushed).values

/-- A difference is empty exactly between equal revisions. -/
theorem is_empty_between_iff {before after : Revision} :
    (RevisionDiff.between before after).is_empty = true ↔ before = after := by
  simp only [RevisionDiff.is_empty, RevisionDiff.between, Bool.and_eq_true, List.isEmpty_iff,
    List.filter_eq_nil_iff, OrderedMap.mem_keys_iff]
  constructor
  · rintro ⟨⟨hadded, hremoved⟩, hchanged⟩
    ext id : 1
    cases hafter : after.get id with
    | none =>
      cases hbefore : before.get id with
      | none => rfl
      | some marker => simpa [hbefore, hafter] using hremoved id
    | some marker =>
      cases hbefore : before.get id with
      | none => simpa [hbefore, hafter] using hadded id
      | some previous => simpa [hbefore, hafter] using hchanged id
  · rintro rfl
    refine ⟨⟨fun id hid => ?_, fun id hid => ?_⟩, fun id hid => ?_⟩ <;>
      obtain ⟨marker, hmarker⟩ := Option.isSome_iff_exists.mp hid <;> simp [hmarker]

/-- A device type is stored under its own id, and comes from one of the sources. -/
theorem of_get_merged {pulled pushed : List LoadedDeviceType} {id : String} {l : LoadedDeviceType}
    (h : (merged pulled pushed).get id = some l) : l.id = id ∧ l ∈ pulled ++ pushed := by
  obtain ⟨other, hmem, heq⟩ := List.mem_map.mp (OrderedMap.mem_of_get_ofList h)
  cases heq
  exact ⟨rfl, hmem⟩

theorem mem_merge_iff {pulled pushed : List LoadedDeviceType} {l : LoadedDeviceType} :
    l ∈ merge pulled pushed ↔ (merged pulled pushed).get l.id = some l := by
  rw [OrderedMap.get_eq_some_iff_mem, merge, OrderedMap.values, List.mem_map]
  constructor
  · rintro ⟨⟨id, other⟩, hmem, rfl⟩
    obtain ⟨hid, -⟩ := of_get_merged ((merged pulled pushed).get_eq_some_iff_mem.mpr hmem)
    rw [hid]
    exact hmem
  · exact fun hmem => ⟨_, hmem, rfl⟩

/-- A pushed file wins over a pulled device type with its id. -/
theorem get_merged (pulled pushed : List LoadedDeviceType) (id : String) :
    (merged pulled pushed).get id = ((merged [] pushed).get id).or ((merged pulled []).get id) := by
  rw [merged, merged, merged, List.map_append, List.map_append, List.map_append, List.map_nil, List.nil_append,
    List.append_nil, OrderedMap.get_ofList_append]

/-- The revision of a merged set has the marker of every member. -/
theorem revision_merge (pulled pushed : List LoadedDeviceType) :
    revision (merge pulled pushed) = (merged pulled pushed).mapValues fun l => (l.origin, l.fingerprint) := by
  have hentries : (merge pulled pushed).map (fun l => (l.id, (l.origin, l.fingerprint))) =
      ((merged pulled pushed).mapValues fun l => (l.origin, l.fingerprint)).entries := by
    rw [merge, OrderedMap.values, List.map_map, OrderedMap.mapValues]
    refine List.map_congr_left fun e hmem => ?_
    obtain ⟨hid, -⟩ := of_get_merged ((merged pulled pushed).get_eq_some_iff_mem.mpr hmem)
    rw [Function.comp_apply, hid]
  rw [revision, hentries, OrderedMap.ofList_entries]

end mapping.source
