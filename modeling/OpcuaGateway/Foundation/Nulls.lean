import Mathlib.Data.List.Nodup
import OpcuaGateway.Foundation.Serde

open ordered_map json

namespace json

mutual

/-- The second tree is the first one without some of the object members that are
`null`, at any depth. -/
inductive Prunes : Value → Value → Prop where
  | null : Prunes .null .null
  | bool (b : Bool) : Prunes (.bool b) (.bool b)
  | number (n : Number) : Prunes (.number n) (.number n)
  | string (s : String) : Prunes (.string s) (.string s)
  | array {items pruned : List Value} (hitems : PrunesItems items pruned) : Prunes (.array items) (.array pruned)
  | object {members pruned : List (String × Value)} (hmembers : PrunesMembers members pruned) :
      Prunes (.object members) (.object pruned)

inductive PrunesItems : List Value → List Value → Prop where
  | nil : PrunesItems [] []
  | cons {item prunedItem : Value} {items pruned : List Value} (hitem : Prunes item prunedItem)
      (hitems : PrunesItems items pruned) : PrunesItems (item :: items) (prunedItem :: pruned)

inductive PrunesMembers : List (String × Value) → List (String × Value) → Prop where
  | nil : PrunesMembers [] []
  | keep (key : String) {value prunedValue : Value} {members pruned : List (String × Value)}
      (hvalue : Prunes value prunedValue) (hmembers : PrunesMembers members pruned) :
      PrunesMembers ((key, value) :: members) ((key, prunedValue) :: pruned)
  | drop (key : String) {members pruned : List (String × Value)} (hmembers : PrunesMembers members pruned) :
      PrunesMembers ((key, .null) :: members) pruned

end

mutual

/-- No object of the tree repeats a key. -/
def Distinct : Value → Prop
  | .array items => DistinctItems items
  | .object members => (members.map Prod.fst).Nodup ∧ DistinctMembers members
  | _ => True

def DistinctItems : List Value → Prop
  | [] => True
  | item :: items => Distinct item ∧ DistinctItems items

def DistinctMembers : List (String × Value) → Prop
  | [] => True
  | (_, value) :: members => Distinct value ∧ DistinctMembers members

end

/-- A JSON tree whose objects are maps. -/
structure Tree where
  value : Value
  distinct : Distinct value

/-- Only a `null` is left of a `null`. -/
theorem Prunes.eq_null_iff {value pruned : Value} (h : Prunes value pruned) : value = .null ↔ pruned = .null := by
  cases h <;> simp

theorem PrunesMembers.keys_sublist {members pruned : List (String × Value)} (h : PrunesMembers members pruned) :
    (pruned.map Prod.fst).Sublist (members.map Prod.fst) := by
  induction members generalizing pruned with
  | nil =>
    cases h
    exact List.Sublist.refl _
  | cons member members ih =>
    cases h with
    | keep key hvalue hmembers => exact (ih hmembers).cons_cons key
    | drop key hmembers => exact (ih hmembers).cons key

theorem PrunesItems.length_eq {items pruned : List Value} (h : PrunesItems items pruned) :
    items.length = pruned.length := by
  induction items generalizing pruned with
  | nil =>
    cases h
    rfl
  | cons item items ih =>
    cases h with
    | cons hitem hitems => rw [List.length_cons, List.length_cons, ih hitems]

end json

namespace serde

/-- Whatever is pruned from a tree, it is read as the same value, as far as `view`
shows it. -/
def Respects {A B : Type} (view : A → B) (read : Deserialize A) : Prop :=
  ∀ ⦃value pruned : Value⦄, Distinct value → Prunes value pruned → (read value).map view = (read pruned).map view

/-- A field of the pruned tree: still there, or one that was `null` or absent. -/
inductive PrunedField : Option Value → Option Value → Prop where
  | kept {value pruned : Value} (hdistinct : Distinct value) (hprunes : Prunes value pruned) :
      PrunedField (some value) (some pruned)
  | dropped : PrunedField (some .null) none
  | absent : PrunedField none none

def PrunedFields (fields pruned : Fields) : Prop := ∀ name, PrunedField (fields name) (pruned name)

section Fields

theorem mem_keys_of_lookup {name : String} {value : Value} {members : List (String × Value)}
    (h : ordered_map.lookup name members = some value) : name ∈ members.map Prod.fst := by
  induction members with
  | nil => cases h
  | cons member members ih =>
    obtain ⟨key, first⟩ := member
    rw [ordered_map.lookup] at h
    by_cases hname : name = key
    · exact hname ▸ List.mem_cons_self
    · rw [if_neg hname] at h
      exact List.mem_cons_of_mem _ (ih h)

theorem prunedField_lookup {name : String} {members pruned : List (String × Value)}
    (hnodup : (members.map Prod.fst).Nodup) (hdistinct : DistinctMembers members)
    (hprunes : PrunesMembers members pruned) :
    PrunedField (ordered_map.lookup name members) (ordered_map.lookup name pruned) := by
  induction members generalizing pruned with
  | nil =>
    cases hprunes
    exact .absent
  | cons member members ih =>
    obtain ⟨hkey, hrest⟩ := List.nodup_cons.mp hnodup
    cases hprunes with
    | keep key hvalue hmembers =>
      rw [ordered_map.lookup, ordered_map.lookup]
      by_cases hname : name = key
      · rw [if_pos hname, if_pos hname]
        exact .kept hdistinct.1 hvalue
      · rw [if_neg hname, if_neg hname]
        exact ih hrest hdistinct.2 hmembers
    | drop key hmembers =>
      rw [ordered_map.lookup]
      by_cases hname : name = key
      · -- The key stood there once, so it is gone from the pruned object.
        have habsent : ordered_map.lookup name pruned = none := by
          refine Option.eq_none_iff_forall_ne_some.mpr fun value hlookup => hkey ?_
          obtain hmem : name ∈ pruned.map Prod.fst := mem_keys_of_lookup hlookup
          rw [hname] at hmem
          exact hmembers.keys_sublist.subset hmem
        rw [if_pos hname, habsent]
        exact .dropped
      · rw [if_neg hname]
        exact ih hrest hdistinct.2 hmembers

/-- A list gives its fields by position, and no position is lost. -/
theorem prunedField_zip_lookup {name : String} {names : List String} {items pruned : List Value}
    (hdistinct : DistinctItems items) (hprunes : PrunesItems items pruned) :
    PrunedField ((names.zip items).lookup name) ((names.zip pruned).lookup name) := by
  induction names generalizing items pruned with
  | nil => exact .absent
  | cons first names ih =>
    cases hprunes with
    | nil => exact .absent
    | cons hitem hitems =>
      rw [List.zip_cons_cons, List.zip_cons_cons, List.lookup_cons, List.lookup_cons]
      cases name == first with
      | true => exact .kept hdistinct.1 hitem
      | false => exact ih hdistinct.2 hitems

theorem length_filter_key_le_one {members : List (String × Value)} (hnodup : (members.map Prod.fst).Nodup)
    (name : String) : (members.filter (·.1 == name)).length ≤ 1 := by
  have hcount := List.nodup_iff_count_le_one.mp hnodup name
  rw [List.count, List.countP_map, List.countP_eq_length_filter] at hcount
  exact hcount

/-- The fields of the pruned tree are found where those of the tree are. -/
theorem structFields_pruned (names : List String) {value pruned : Value} (hdistinct : Distinct value)
    (hprunes : Prunes value pruned) :
    (structFields names value = none ∧ structFields names pruned = none) ∨
      ∃ fields prunedFields, structFields names value = some fields ∧
        structFields names pruned = some prunedFields ∧ PrunedFields fields prunedFields := by
  cases hprunes with
  | null => exact .inl ⟨rfl, rfl⟩
  | bool b => exact .inl ⟨rfl, rfl⟩
  | number n => exact .inl ⟨rfl, rfl⟩
  | string s => exact .inl ⟨rfl, rfl⟩
  | @array items pruned hitems =>
    rw [structFields, structFields, ← hitems.length_eq]
    by_cases hlength : items.length ≤ names.length
    · rw [if_pos hlength, if_pos hlength]
      exact .inr ⟨_, _, rfl, rfl, fun name => prunedField_zip_lookup hdistinct hitems⟩
    · rw [if_neg hlength, if_neg hlength]
      exact .inl ⟨rfl, rfl⟩
  | @object members pruned hmembers =>
    obtain ⟨hnodup, hvalues⟩ := hdistinct
    have hsingle : ∀ kept : List (String × Value), (kept.map Prod.fst).Nodup →
        (names.all fun name => (kept.filter (·.1 == name)).length ≤ 1) = true := by
      intro kept hkept
      exact List.all_eq_true.mpr fun name _ => decide_eq_true (length_filter_key_le_one hkept name)
    rw [structFields, structFields, if_pos (hsingle members hnodup),
      if_pos (hsingle pruned (hnodup.sublist hmembers.keys_sublist))]
    exact .inr ⟨_, _, rfl, rfl, fun name => prunedField_lookup hnodup hvalues hmembers⟩

end Fields

section Readers

variable {A B C D : Type} {view : A → B} {read : Deserialize A}

/-- What reads no array and no object reads nothing that could be pruned. -/
theorem respects_of_scalar (view : A → B) (hitems : ∀ items, read (.array items) = none)
    (hmembers : ∀ members, read (.object members) = none) : Respects view read := by
  intro value pruned hdistinct hprunes
  cases hprunes with
  | null => rfl
  | bool b => rfl
  | number n => rfl
  | string s => rfl
  | array _ => rw [hitems, hitems]
  | object _ => rw [hmembers, hmembers]

theorem respects_string : Respects id string := respects_of_scalar id (fun _ => rfl) (fun _ => rfl)

theorem respects_bool : Respects id bool := respects_of_scalar id (fun _ => rfl) (fun _ => rfl)

theorem respects_unsigned (bound : Nat) : Respects id (unsigned bound) :=
  respects_of_scalar id (fun _ => rfl) (fun _ => rfl)

theorem respects_float : Respects id float := respects_of_scalar id (fun _ => rfl) (fun _ => rfl)

/-- All that is seen of a raw tree is that it is there. -/
theorem respects_raw (b : B) : Respects (fun _ => b) raw := fun _ _ _ _ => rfl

/-- Steps that agree on what they show of their results. -/
theorem map_bind_congr {F : C → D} {first other : Option A} {next nextOther : A → Option C}
    (hfirst : first.map view = other.map view)
    (hnext : ∀ a a', view a = view a' → (next a).map F = (nextOther a').map F) :
    (first >>= next).map F = (other >>= nextOther).map F := by
  cases first <;> cases other
  · rfl
  · cases hfirst
  · cases hfirst
  · exact hnext _ _ (Option.some.inj hfirst)

theorem map_bind_congr_eq {F : C → D} {first other : Option A} {next nextOther : A → Option C}
    (hfirst : first = other) (hnext : ∀ a, (next a).map F = (nextOther a).map F) :
    (first >>= next).map F = (other >>= nextOther).map F :=
  map_bind_congr (congrArg (Option.map id) hfirst) fun a a' (ha : a = a') => ha ▸ hnext a

theorem mapM_pruned (hread : Respects view read) {items pruned : List Value} (hdistinct : DistinctItems items)
    (hitems : PrunesItems items pruned) :
    (items.mapM read).map (List.map view) = (pruned.mapM read).map (List.map view) := by
  induction items generalizing pruned with
  | nil =>
    cases hitems
    rfl
  | cons item items ih =>
    cases hitems with
    | @cons _ prunedItem _ pruned hitem hitems =>
      have hfirst := hread hdistinct.1 hitem
      have hrest := ih hdistinct.2 hitems
      rw [List.mapM_cons, List.mapM_cons]
      refine map_bind_congr hfirst fun a a' hview => map_bind_congr hrest fun rest rest' hviews => ?_
      exact congrArg some (congrArg₂ List.cons hview hviews)

theorem Respects.vec (hread : Respects view read) : Respects (List.map view) (vec read) := by
  intro value pruned hdistinct hprunes
  cases hprunes with
  | array hitems => exact mapM_pruned hread hdistinct hitems
  | _ => rfl

theorem Respects.option (hread : Respects view read) : Respects (Option.map view) (option read) := by
  intro value pruned hdistinct hprunes
  by_cases hnull : value = .null
  · rw [hnull, hprunes.eq_null_iff.mp hnull]
  · have hother : ∀ {tree : Value}, tree ≠ .null → serde.option read tree = (read tree).map some := by
      intro tree htree
      cases tree with
      | null => exact absurd rfl htree
      | _ => rfl
    rw [hother hnull, hother (mt hprunes.eq_null_iff.mpr hnull), Option.map_map, Option.map_map]
    have hsome : Option.map view ∘ some = some ∘ view := rfl
    rw [hsome, ← Option.map_map, ← Option.map_map, hread hdistinct hprunes]

theorem Respects.nullAs (hread : Respects view read) (default : A) : Respects view (nullAs default read) := by
  intro value pruned hdistinct hprunes
  have hview : view ∘ (fun found : Option A => found.getD default) =
      (fun found : Option B => found.getD (view default)) ∘ Option.map view := by
    funext found
    cases found <;> rfl
  rw [serde.nullAs, serde.nullAs, Option.map_map, Option.map_map, hview, ← Option.map_map, ← Option.map_map,
    hread.option hdistinct hprunes]

/-- A struct is read from the fields alone. -/
theorem Respects.struct {names : List String} {read : Fields → Option A}
    (hread : ∀ fields pruned, PrunedFields fields pruned → (read fields).map view = (read pruned).map view) :
    Respects view fun value => (structFields names value).bind read := by
  intro value pruned hdistinct hprunes
  obtain ⟨hvalue, hpruned⟩ | ⟨fields, prunedFields, hvalue, hpruned, hfields⟩ :=
    structFields_pruned names hdistinct hprunes
  · simp only [hvalue, hpruned, Option.bind_none, Option.map_none]
  · simp only [hvalue, hpruned, Option.bind_some]
    exact hread fields prunedFields hfields

/-- A field whose `null` stands for its default. -/
theorem PrunedFields.field {fields pruned : Fields} (h : PrunedFields fields pruned) (name : String)
    (hread : Respects view read) {default : A} (hnull : read .null = some default) :
    (field fields name default read).map view = (field pruned name default read).map view := by
  have hfield := h name
  rw [serde.field, serde.field]
  generalize fields name = value at hfield
  generalize pruned name = other at hfield
  cases hfield with
  | kept hdistinct hprunes => exact hread hdistinct hprunes
  | dropped => exact congrArg (Option.map view) hnull
  | absent => rfl

theorem PrunedFields.optional {fields pruned : Fields} (h : PrunedFields fields pruned) (name : String)
    (hread : Respects view read) :
    (optional fields name read).map (Option.map view) = (optional pruned name read).map (Option.map view) :=
  h.field name hread.option rfl

theorem PrunedFields.nullAs {fields pruned : Fields} (h : PrunedFields fields pruned) (name : String)
    (hread : Respects view read) (default : A) :
    (serde.field fields name default (serde.nullAs default read)).map view =
      (serde.field pruned name default (serde.nullAs default read)).map view :=
  h.field name (hread.nullAs default) rfl

theorem PrunedFields.nullAs_eq {fields pruned : Fields} (h : PrunedFields fields pruned) (name : String)
    {read : Deserialize A} (hread : Respects id read) (default : A) :
    serde.field fields name default (serde.nullAs default read) =
      serde.field pruned name default (serde.nullAs default read) := by
  simpa using h.nullAs name hread default

theorem PrunedFields.optional_eq {fields pruned : Fields} (h : PrunedFields fields pruned) (name : String)
    {read : Deserialize A} (hread : Respects id read) :
    serde.optional fields name read = serde.optional pruned name read := by
  simpa using h.optional name hread

/-- Lists of what is read exactly are read exactly. -/
theorem Respects.vec_id {read : Deserialize A} (hread : Respects id read) : Respects id (serde.vec read) := by
  have hvec := hread.vec
  rwa [List.map_id_fun] at hvec

end Readers

end serde
