import Mathlib.Algebra.GroupWithZero.Nat
import Mathlib.Data.List.Induction
import Mathlib.Data.List.Sort
import Mathlib.Tactic.Common

namespace ordered_map

/-- Entries in strictly ascending key order. -/
abbrev Ascending {K V : Type} [LinearOrder K] (entries : List (K × V)) : Prop :=
  entries.Pairwise fun a b => a.1 < b.1

/-- A map that is always traversed in key order. The order of its entries is a
field, so two maps with the same lookups are the same value. -/
structure OrderedMap (K V : Type) [LinearOrder K] where
  entries : List (K × V)
  ascending : Ascending entries

variable {K V : Type} [LinearOrder K]

/-- The value stored under a key in a list of entries. -/
def lookup (k : K) : List (K × V) → Option V
  | [] => none
  | (k', v) :: rest => if k = k' then some v else lookup k rest

/-- Write one entry at its place, replacing the value already stored there. -/
def insertEntry (k : K) (v : V) : List (K × V) → List (K × V)
  | [] => [(k, v)]
  | (k', v') :: rest =>
    if k < k' then (k, v) :: (k', v') :: rest
    else if k = k' then (k, v) :: rest
    else (k', v') :: insertEntry k v rest

/-- Writing an entry adds nothing else. -/
theorem mem_of_mem_insertEntry {k : K} {v : V} {entries : List (K × V)} {e : K × V}
    (h : e ∈ insertEntry k v entries) : e = (k, v) ∨ e ∈ entries := by
  induction entries with
  | nil => simpa [insertEntry] using h
  | cons head rest ih =>
    by_cases hlt : k < head.1
    · simpa [insertEntry, hlt] using h
    · by_cases heq : k = head.1
      · have hmem : e = (k, v) ∨ e ∈ rest := by simpa [insertEntry, hlt, heq] using h
        exact hmem.imp_right (List.mem_cons_of_mem _)
      · have hmem : e = head ∨ e ∈ insertEntry k v rest := by
          simpa [insertEntry, hlt, heq] using h
        rcases hmem with rfl | hmem
        · exact Or.inr List.mem_cons_self
        · exact (ih hmem).imp_right (List.mem_cons_of_mem _)

theorem ascending_insertEntry {entries : List (K × V)} (h : Ascending entries) (k : K) (v : V) :
    Ascending (insertEntry k v entries) := by
  induction entries with
  | nil => simp [insertEntry]
  | cons head rest ih =>
    obtain ⟨k', v'⟩ := head
    obtain ⟨hhead, hrest⟩ := List.pairwise_cons.mp h
    simp only [insertEntry]
    split
    · rename_i hlt
      refine List.pairwise_cons.mpr ⟨?_, h⟩
      intro e he
      rcases List.mem_cons.mp he with rfl | he
      · exact hlt
      · exact hlt.trans (hhead e he)
    · split
      · rename_i heq
        subst heq
        exact List.pairwise_cons.mpr ⟨hhead, hrest⟩
      · rename_i hnlt hne
        refine List.pairwise_cons.mpr ⟨?_, ih hrest⟩
        intro e he
        rcases mem_of_mem_insertEntry he with rfl | he
        · exact lt_of_le_of_ne (not_lt.mp hnlt) (Ne.symm hne)
        · exact hhead e he

theorem lookup_insertEntry (entries : List (K × V)) (k k' : K) (v : V) :
    lookup k' (insertEntry k v entries) = if k' = k then some v else lookup k' entries := by
  induction entries with
  | nil => rfl
  | cons head rest ih =>
    obtain ⟨k₀, v₀⟩ := head
    simp only [insertEntry]
    split
    · rfl
    · split
      · rename_i heq
        subst heq
        by_cases hk : k' = k <;> simp [lookup, hk]
      · rename_i hne
        simp only [lookup, ih]
        by_cases hk : k' = k₀
        · subst hk
          simp [Ne.symm hne]
        · simp [hk]

/-- In ascending entries a key is stored at most once, so lookup and membership
say the same. -/
theorem lookup_eq_some_iff_mem {entries : List (K × V)} (h : Ascending entries) {k : K} {v : V} :
    lookup k entries = some v ↔ (k, v) ∈ entries := by
  induction entries with
  | nil => simp [lookup]
  | cons head rest ih =>
    obtain ⟨k', v'⟩ := head
    obtain ⟨hhead, hrest⟩ := List.pairwise_cons.mp h
    rw [lookup, List.mem_cons]
    by_cases hk : k = k'
    · subst hk
      have hnot : (k, v) ∉ rest := fun hmem => lt_irrefl k (hhead _ hmem)
      simp [hnot, eq_comm]
    · simp [hk, ih hrest]

/-- Writing an entry exchanges the weight of the old value for that of the new one. -/
theorem sum_insertEntry {entries : List (K × V)} (h : Ascending entries) (weight : V → Nat) (k : K) (v : V) :
    ((insertEntry k v entries).map fun e => weight e.2).sum + ((lookup k entries).map weight).getD 0 =
      (entries.map fun e => weight e.2).sum + weight v := by
  induction entries with
  | nil => simp [insertEntry, lookup]
  | cons head rest ih =>
    obtain ⟨k', v'⟩ := head
    obtain ⟨hhead, hrest⟩ := List.pairwise_cons.mp h
    simp only [insertEntry, lookup]
    by_cases hlt : k < k'
    · have hnew : lookup k rest = none := by
        refine Option.eq_none_iff_forall_ne_some.mpr fun w hold => ?_
        have hmem := (lookup_eq_some_iff_mem hrest).mp hold
        exact lt_irrefl k (hlt.trans (hhead _ hmem))
      simp only [if_pos hlt, if_neg hlt.ne, hnew, List.map_cons, List.sum_cons, Option.map_none, Option.getD_none]
      omega
    · by_cases heq : k = k'
      · simp only [if_neg hlt, if_pos heq, List.map_cons, List.sum_cons, Option.map_some, Option.getD_some]
        omega
      · have hsum := ih hrest
        simp only [if_neg hlt, if_neg heq, List.map_cons, List.sum_cons]
        omega

theorem lookup_filter_ne (entries : List (K × V)) (k k' : K) :
    lookup k' (entries.filter fun e => decide (e.1 ≠ k)) =
      if k' = k then none else lookup k' entries := by
  induction entries with
  | nil => simp [lookup]
  | cons head rest ih =>
    obtain ⟨k₀, v₀⟩ := head
    rw [List.filter_cons]
    split
    · rename_i hkept
      have hne : k₀ ≠ k := of_decide_eq_true hkept
      rw [lookup, lookup, ih]
      by_cases hk : k' = k₀
      · subst hk
        simp [hne]
      · simp [hk]
    · rename_i hdropped
      have heq : k₀ = k := by simpa using hdropped
      subst heq
      rw [ih, lookup]
      by_cases hk : k' = k₀ <;> simp [hk]

theorem eq_of_lookup_eq {first second : List (K × V)} (hfirst : Ascending first)
    (hsecond : Ascending second) (h : ∀ k, lookup k first = lookup k second) : first = second := by
  have : Std.Irrefl fun a b : K × V => a.1 < b.1 := ⟨fun a => lt_irrefl a.1⟩
  have : Std.Antisymm fun a b : K × V => a.1 < b.1 :=
    ⟨fun a b hab hba => absurd (hab.trans hba) (lt_irrefl a.1)⟩
  refine hfirst.eq_of_mem_iff hsecond ?_
  rintro ⟨k, v⟩
  rw [← lookup_eq_some_iff_mem hfirst, ← lookup_eq_some_iff_mem hsecond, h]

namespace OrderedMap

def empty : OrderedMap K V := ⟨[], List.Pairwise.nil⟩

def get (m : OrderedMap K V) (k : K) : Option V := lookup k m.entries

def insert (m : OrderedMap K V) (k : K) (v : V) : OrderedMap K V :=
  ⟨insertEntry k v m.entries, ascending_insertEntry m.ascending k v⟩

def remove (m : OrderedMap K V) (k : K) : OrderedMap K V :=
  ⟨m.entries.filter fun e => decide (e.1 ≠ k), m.ascending.filter _⟩

/-- The entry under a key, made `v` if there is none. -/
def orInsert (m : OrderedMap K V) (k : K) (v : V) : OrderedMap K V :=
  match m.get k with
  | some _ => m
  | none => m.insert k v

def mapValues {W : Type} (f : V → W) (m : OrderedMap K V) : OrderedMap K W :=
  ⟨m.entries.map fun e => (e.1, f e.2), List.pairwise_map.mpr m.ascending⟩

def keys (m : OrderedMap K V) : List K := m.entries.map Prod.fst

def values (m : OrderedMap K V) : List V := m.entries.map Prod.snd

def ofList (entries : List (K × V)) : OrderedMap K V :=
  entries.foldl (fun m e => m.insert e.1 e.2) empty

instance [DecidableEq V] : DecidableEq (OrderedMap K V) := fun a b =>
  decidable_of_iff (a.entries = b.entries) (by cases a; cases b; simp)

@[simp] theorem get_empty (k : K) : (empty : OrderedMap K V).get k = none := rfl

@[simp] theorem entries_empty : (empty : OrderedMap K V).entries = [] := rfl

theorem get_insert (m : OrderedMap K V) (k k' : K) (v : V) :
    (m.insert k v).get k' = if k' = k then some v else m.get k' :=
  lookup_insertEntry m.entries k k' v

@[simp] theorem get_insert_self (m : OrderedMap K V) (k : K) (v : V) :
    (m.insert k v).get k = some v := by
  rw [get_insert, if_pos rfl]

theorem get_insert_of_ne (m : OrderedMap K V) {k k' : K} (hne : k' ≠ k) (v : V) :
    (m.insert k v).get k' = m.get k' := by
  rw [get_insert, if_neg hne]

theorem get_orInsert (m : OrderedMap K V) (k k' : K) (v : V) :
    (m.orInsert k v).get k' = if k' = k then some ((m.get k).getD v) else m.get k' := by
  unfold orInsert
  split
  · rename_i stored hget
    by_cases hk : k' = k
    · simp [hk, hget]
    · simp [hk]
  · rename_i hget
    rw [get_insert, hget, Option.getD_none]

/-- A key that is there keeps its value. -/
theorem get_orInsert_of_some (m : OrderedMap K V) {k : K} {w : V} (hget : m.get k = some w) (k' : K) (v : V) :
    (m.orInsert k' v).get k = some w := by
  rw [get_orInsert]
  split
  · rename_i hk
    subst hk
    rw [hget, Option.getD_some]
  · exact hget

theorem get_mapValues {W : Type} (f : V → W) (m : OrderedMap K V) (k : K) :
    (m.mapValues f).get k = (m.get k).map f := by
  obtain ⟨entries, hascending⟩ := m
  simp only [get, mapValues]
  clear hascending
  induction entries with
  | nil => rfl
  | cons head rest ih =>
    rw [List.map_cons, lookup, lookup, ih]
    split <;> rfl

theorem get_remove (m : OrderedMap K V) (k k' : K) :
    (m.remove k).get k' = if k' = k then none else m.get k' :=
  lookup_filter_ne m.entries k k'

/-- Removing what is there leaves fewer entries. -/
theorem length_remove_lt {m : OrderedMap K V} {k : K} {v : V} (h : m.get k = some v) :
    (m.remove k).entries.length < m.entries.length := by
  rw [remove, List.length_filter_lt_length_iff_exists]
  exact ⟨(k, v), (lookup_eq_some_iff_mem m.ascending).mp h, by simp⟩

theorem get_foldl_remove (m : OrderedMap K V) (ks : List K) (k : K) :
    (ks.foldl remove m).get k = if k ∈ ks then none else m.get k := by
  induction ks generalizing m with
  | nil => simp
  | cons head rest ih =>
    rw [List.foldl_cons, ih, get_remove]
    by_cases hrest : k ∈ rest <;> by_cases hhead : k = head <;> simp [hrest, hhead]

theorem get_eq_some_iff_mem (m : OrderedMap K V) {k : K} {v : V} :
    m.get k = some v ↔ (k, v) ∈ m.entries :=
  lookup_eq_some_iff_mem m.ascending

/-- Two ordered maps are equal as soon as every lookup agrees. -/
@[ext] theorem ext {m m' : OrderedMap K V} (h : ∀ k, m.get k = m'.get k) : m = m' := by
  have hentries := eq_of_lookup_eq m.ascending m'.ascending h
  cases m
  cases m'
  simpa using hentries

theorem ofList_concat (entries : List (K × V)) (e : K × V) :
    ofList (entries ++ [e]) = (ofList entries).insert e.1 e.2 :=
  List.foldl_concat ..

/-- Of two lists the later one decides about a key it has. -/
theorem get_ofList_append (first second : List (K × V)) (k : K) :
    (ofList (first ++ second)).get k = ((ofList second).get k).or ((ofList first).get k) := by
  induction second using List.reverseRecOn with
  | nil => simp [ofList]
  | append_singleton rest e ih =>
    rw [← List.append_assoc, ofList_concat, ofList_concat, get_insert, get_insert, ih]
    split <;> rfl

/-- The last entry with a key decides about it. -/
theorem get_ofList (entries : List (K × V)) (k : K) :
    (ofList entries).get k = ((entries.filter (·.1 = k)).getLast?).map (·.2) := by
  induction entries using List.reverseRecOn with
  | nil => rfl
  | append_singleton rest e ih =>
    rw [ofList_concat, get_insert, ih, List.filter_append]
    by_cases hkey : e.1 = k
    · simp [hkey]
    · simp [hkey, Ne.symm hkey]

theorem mem_of_get_ofList {entries : List (K × V)} {k : K} {v : V} (h : (ofList entries).get k = some v) :
    (k, v) ∈ entries := by
  induction entries using List.reverseRecOn with
  | nil => cases h
  | append_singleton rest e ih =>
    rw [ofList_concat, get_insert] at h
    split at h
    · rename_i hk
      cases h
      subst hk
      exact List.mem_append_right _ (List.mem_singleton_self _)
    · exact List.mem_append_left _ (ih h)

theorem exists_get_ofList {entries : List (K × V)} {k : K} {v : V} (h : (k, v) ∈ entries) :
    ∃ w, (ofList entries).get k = some w := by
  induction entries using List.reverseRecOn with
  | nil => cases h
  | append_singleton rest e ih =>
    rw [ofList_concat, get_insert]
    split
    · exact ⟨_, rfl⟩
    · rename_i hk
      rcases List.mem_append.mp h with h | h
      · exact ih h
      · obtain rfl := List.mem_singleton.mp h
        exact absurd rfl hk

theorem insertEntry_of_forall_lt {k : K} {v : V} {entries : List (K × V)} (h : ∀ e ∈ entries, e.1 < k) :
    insertEntry k v entries = entries ++ [(k, v)] := by
  induction entries with
  | nil => rfl
  | cons head rest ih =>
    have hlt : head.1 < k := h head List.mem_cons_self
    rw [insertEntry, if_neg hlt.asymm, if_neg hlt.ne', ih fun e he => h e (List.mem_cons_of_mem _ he)]
    rfl

/-- Building a map from the entries of a map gives it back. -/
theorem ofList_entries (m : OrderedMap K V) : ofList m.entries = m := by
  obtain ⟨entries, hascending⟩ := m
  have hentries : (ofList entries).entries = entries := by
    induction entries using List.reverseRecOn with
    | nil => rfl
    | append_singleton rest e ih =>
      obtain ⟨hrest, -, hlast⟩ := List.pairwise_append.mp hascending
      rw [ofList_concat]
      refine (congrArg (insertEntry e.1 e.2) (ih hrest)).trans ?_
      exact insertEntry_of_forall_lt fun other hother => hlast other hother e (List.mem_singleton_self _)
  cases h : ofList entries
  rw [h] at hentries
  simpa using hentries

/-- A key has one entry at most. -/
theorem filterMap_entries_key {W : Type} (m : OrderedMap K V) (k : K) (f : V → Option W) :
    m.entries.filterMap (fun e => if e.1 = k then f e.2 else none) = ((m.get k).bind f).toList := by
  obtain ⟨entries, hascending⟩ := m
  simp only [get]
  induction entries with
  | nil => rfl
  | cons head rest ih =>
    obtain ⟨hhead, hrest⟩ := List.pairwise_cons.mp hascending
    rw [List.filterMap_cons, lookup]
    by_cases hkey : head.1 = k
    · have hnone : rest.filterMap (fun e => if e.1 = k then f e.2 else none) = [] := by
        refine List.filterMap_eq_nil_iff.mpr fun e he => if_neg ?_
        rw [← hkey]
        exact (hhead e he).ne'
      rw [if_pos hkey, if_pos hkey.symm, hnone, Option.bind_some]
      cases f head.2 <;> rfl
    · rw [if_neg hkey, if_neg (Ne.symm hkey)]
      exact ih hrest

/-- Put a value behind those of its key. -/
def push (m : OrderedMap K (List V)) (e : K × V) : OrderedMap K (List V) :=
  m.insert e.1 ((m.get e.1).getD [] ++ [e.2])

/-- Under every key stand the values pushed there, in order. -/
theorem get_foldl_push (entries : List (K × V)) (k : K) :
    (entries.foldl push empty).get k =
      if entries.filter (·.1 = k) = [] then none else some ((entries.filter (·.1 = k)).map (·.2)) := by
  induction entries using List.reverseRecOn with
  | nil => rfl
  | append_singleton rest e ih =>
    rw [List.foldl_concat, push, get_insert, List.filter_append]
    by_cases hkey : e.1 = k
    · subst hkey
      rw [if_pos rfl, ih]
      by_cases hnone : rest.filter (·.1 = e.1) = [] <;> simp [hnone]
    · have hskip : [e].filter (·.1 = k) = [] := by simp [hkey]
      rw [if_neg (Ne.symm hkey), ih, hskip, List.append_nil]

theorem mem_keys_iff (m : OrderedMap K V) {k : K} : k ∈ m.keys ↔ (m.get k).isSome := by
  rw [Option.isSome_iff_exists, keys, List.mem_map]
  constructor
  · rintro ⟨⟨k', v⟩, hmem, rfl⟩
    exact ⟨v, m.get_eq_some_iff_mem.mpr hmem⟩
  · rintro ⟨v, hget⟩
    exact ⟨(k, v), m.get_eq_some_iff_mem.mp hget, rfl⟩

theorem pairwise_keys (m : OrderedMap K V) : m.keys.Pairwise (· < ·) := List.pairwise_map.mpr m.ascending

/-- The first key in key order that passes is the least one that does. -/
theorem find?_keys_eq_some_iff (m : OrderedMap K V) (p : K → Bool) (k : K) :
    m.keys.find? p = some k ↔
      p k = true ∧ (m.get k).isSome = true ∧ ∀ other < k, (m.get other).isSome = true → p other = false := by
  have hsorted := m.pairwise_keys
  simp only [← mem_keys_iff]
  rw [List.find?_eq_some_iff_append]
  constructor
  · rintro ⟨hp, before, after, hkeys, hbefore⟩
    rw [hkeys] at hsorted
    obtain ⟨-, hafter, -⟩ := List.pairwise_append.mp hsorted
    refine ⟨hp, by simp [hkeys], fun other hlt hmem => ?_⟩
    rw [hkeys, List.mem_append, List.mem_cons] at hmem
    obtain hmem | rfl | hmem := hmem
    · simpa using hbefore other hmem
    · exact absurd hlt (lt_irrefl _)
    · exact absurd (List.rel_of_pairwise_cons hafter hmem) hlt.asymm
  · rintro ⟨hp, hmem, hleast⟩
    obtain ⟨before, after, hkeys⟩ := List.append_of_mem hmem
    refine ⟨hp, before, after, hkeys, fun other hother => ?_⟩
    rw [hkeys] at hsorted
    have hlt := (List.pairwise_append.mp hsorted).2.2 other hother k List.mem_cons_self
    have hpasses := hleast other hlt (by simp [hkeys, hother])
    simp [hpasses]

theorem mem_values_iff (m : OrderedMap K V) {v : V} : v ∈ m.values ↔ ∃ k, m.get k = some v := by
  constructor
  · intro hmem
    obtain ⟨⟨k, _⟩, hentry, rfl⟩ := List.mem_map.mp hmem
    exact ⟨k, m.get_eq_some_iff_mem.mpr hentry⟩
  · rintro ⟨k, hget⟩
    exact List.mem_map.mpr ⟨(k, v), m.get_eq_some_iff_mem.mp hget, rfl⟩

theorem sum_values_insert (m : OrderedMap K V) (weight : V → Nat) (k : K) (v : V) :
    ((m.insert k v).values.map weight).sum + ((m.get k).map weight).getD 0 = (m.values.map weight).sum + weight v := by
  rw [values, values, List.map_map, List.map_map]
  exact sum_insertEntry m.ascending weight k v

/-- Take over the entry that another map has under a key. -/
def copyFrom (source m : OrderedMap K V) (k : K) : OrderedMap K V :=
  match source.get k with
  | some v => m.insert k v
  | none => m

theorem get_copyFrom (source m : OrderedMap K V) (k k' : K) :
    (copyFrom source m k).get k' = if k' = k then (source.get k).or (m.get k) else m.get k' := by
  unfold copyFrom
  split
  · rename_i v hget
    rw [get_insert, hget, Option.some_or]
  · rename_i hget
    rw [hget, Option.none_or]
    split
    · rename_i hk
      rw [hk]
    · rfl

theorem get_foldl_copyFrom (source m : OrderedMap K V) (ks : List K) (k : K) :
    (ks.foldl (copyFrom source) m).get k = if k ∈ ks then (source.get k).or (m.get k) else m.get k := by
  induction ks generalizing m with
  | nil => simp
  | cons head rest ih =>
    rw [List.foldl_cons, ih, get_copyFrom]
    by_cases hhead : k = head
    · subst hhead
      cases source.get k <;> simp
    · simp [hhead]

/-- A map becomes another by removing the keys that the other does not have and
taking over those that it has differently. -/
theorem foldl_copyFrom_remove {before after : OrderedMap K V} {removed taken : List K}
    (hremoved : ∀ k ∈ removed, after.get k = none) (htaken : ∀ k ∈ taken, (after.get k).isSome = true)
    (hkept : ∀ k, k ∉ removed → k ∉ taken → before.get k = after.get k) :
    taken.foldl (copyFrom after) (removed.foldl remove before) = after := by
  ext k : 1
  rw [get_foldl_copyFrom, get_foldl_remove]
  by_cases hk : k ∈ taken
  · obtain ⟨v, hv⟩ := Option.isSome_iff_exists.mp (htaken k hk)
    rw [if_pos hk, hv, Option.some_or]
  · rw [if_neg hk]
    by_cases hgone : k ∈ removed
    · rw [if_pos hgone, hremoved k hgone]
    · rw [if_neg hgone]
      exact hkept k hgone hk

end OrderedMap

end ordered_map
