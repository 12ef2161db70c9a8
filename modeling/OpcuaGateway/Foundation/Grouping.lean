import Mathlib.Data.List.Induction
import Mathlib.Data.List.Nodup

namespace grouping

/-- Items that share a key, from the first one on. -/
structure Bundle (Item : Type) where
  first : Item
  others : List Item

def Bundle.items {Item : Type} (self : Bundle Item) : List Item := self.first :: self.others

section Bundle

variable {Item Key : Type} [DecidableEq Key] (key : Item → Key)

/-- Put an item behind those of its group, or into a new group behind all others. -/
def add (item : Item) : List (Bundle Item) → List (Bundle Item)
  | [] => [⟨item, []⟩]
  | group :: rest =>
    if key group.first = key item then ⟨group.first, group.others ++ [item]⟩ :: rest
    else group :: add item rest

/-- The items grouped by key, the groups in the order of their first items. -/
def groups (items : List Item) : List (Bundle Item) :=
  items.foldl (fun found item => add key item found) []

/-- The groups hold the items of each key in order, and no key has two groups. -/
structure Grouped (items : List Item) (found : List (Bundle Item)) : Prop where
  distinct : (found.map fun group => key group.first).Nodup
  items_eq : ∀ group ∈ found, group.items = items.filter fun item => key item = key group.first
  complete : ∀ item ∈ items, ∃ group ∈ found, key group.first = key item

variable {key} {items : List Item} {item : Item} {found : List (Bundle Item)} {group : Bundle Item}

theorem mem_keys_add {k : Key} : k ∈ ((add key item found).map fun group => key group.first) ↔
    k ∈ (found.map fun group => key group.first) ∨ k = key item := by
  induction found with
  | nil => simp [add]
  | cons head rest ih =>
    rw [add]
    split
    · rename_i hkey
      simp only [List.map_cons, List.mem_cons, hkey]
      tauto
    · simp only [List.map_cons, List.mem_cons, ih]
      tauto

theorem nodup_keys_add (h : (found.map fun group => key group.first).Nodup) :
    ((add key item found).map fun group => key group.first).Nodup := by
  induction found with
  | nil => simp [add]
  | cons head rest ih =>
    obtain ⟨hfresh, hrest⟩ := List.nodup_cons.mp h
    rw [add]
    split
    · exact List.nodup_cons.mpr ⟨hfresh, hrest⟩
    · rename_i hkey
      refine List.nodup_cons.mpr ⟨?_, ih hrest⟩
      rw [mem_keys_add]
      rintro (hmem | hsame)
      · exact hfresh hmem
      · exact hkey hsame

/-- Only the group of the item's key changes. -/
theorem mem_add (hdistinct : (found.map fun group => key group.first).Nodup) (h : group ∈ add key item found) :
    (group ∈ found ∧ key group.first ≠ key item) ∨
      (∃ before ∈ found, key before.first = key item ∧ group = ⟨before.first, before.others ++ [item]⟩) ∨
      (group = ⟨item, []⟩ ∧ ∀ other ∈ found, key other.first ≠ key item) := by
  induction found with
  | nil =>
    rw [add] at h
    exact Or.inr (Or.inr ⟨List.mem_singleton.mp h, by simp⟩)
  | cons head rest ih =>
    obtain ⟨hfresh, hrest⟩ := List.nodup_cons.mp hdistinct
    rw [add] at h
    split at h
    · rename_i hkey
      rcases List.mem_cons.mp h with rfl | hmem
      · exact Or.inr (Or.inl ⟨head, List.mem_cons_self, hkey, rfl⟩)
      · refine Or.inl ⟨List.mem_cons_of_mem _ hmem, fun hsame => hfresh ?_⟩
        exact List.mem_map.mpr ⟨group, hmem, hsame.trans hkey.symm⟩
    · rename_i hkey
      rcases List.mem_cons.mp h with rfl | hmem
      · exact Or.inl ⟨List.mem_cons_self, hkey⟩
      · rcases ih hrest hmem with ⟨hmem, hne⟩ | ⟨before, hbefore, hsame, rfl⟩ | ⟨rfl, hnew⟩
        · exact Or.inl ⟨List.mem_cons_of_mem _ hmem, hne⟩
        · exact Or.inr (Or.inl ⟨before, List.mem_cons_of_mem _ hbefore, hsame, rfl⟩)
        · refine Or.inr (Or.inr ⟨rfl, fun other hother => ?_⟩)
          rcases List.mem_cons.mp hother with rfl | hother
          · exact hkey
          · exact hnew other hother

theorem Grouped.add (h : Grouped key items found) : Grouped key (items ++ [item]) (add key item found) where
  distinct := nodup_keys_add h.distinct
  items_eq := by
    intro group hmem
    rw [List.filter_append]
    rcases mem_add h.distinct hmem with ⟨hmem, hne⟩ | ⟨before, hbefore, hsame, rfl⟩ | ⟨rfl, hnew⟩
    · have hskip : [item].filter (fun item => key item = key group.first) = [] := by simp [hne.symm]
      rw [hskip, List.append_nil]
      exact h.items_eq group hmem
    · have htake : [item].filter (fun item => key item = key before.first) = [item] := by simp [hsame]
      rw [htake, ← h.items_eq before hbefore]
      rfl
    · have hnone : items.filter (fun other => key other = key item) = [] := by
        rw [List.filter_eq_nil_iff]
        intro other hother hkey
        obtain ⟨group, hgroup, hfirst⟩ := h.complete other hother
        exact hnew group hgroup (hfirst.trans (by simpa using hkey))
      rw [hnone]
      simp [Bundle.items]
  complete := by
    intro other hother
    have hkey : key other ∈ (grouping.add key item found).map fun group => key group.first := by
      rw [mem_keys_add]
      rcases List.mem_append.mp hother with hother | hother
      · obtain ⟨group, hgroup, hfirst⟩ := h.complete other hother
        exact Or.inl (List.mem_map.mpr ⟨group, hgroup, hfirst⟩)
      · rw [List.mem_singleton.mp hother]
        exact Or.inr rfl
    exact List.mem_map.mp hkey

variable (key items) in
theorem grouped_groups : Grouped key items (groups key items) := by
  have hfold : ∀ rest seen found, Grouped key seen found →
      Grouped key (seen ++ rest) (rest.foldl (fun found item => add key item found) found) := by
    intro rest
    induction rest with
    | nil =>
      intro seen found h
      simpa using h
    | cons item rest ih =>
      intro seen found h
      simpa using ih (seen ++ [item]) (add key item found) h.add
  exact hfold items [] [] ⟨List.nodup_nil, by simp, by simp⟩

/-- Adding an item to its group displaces no other item. -/
theorem perm_flatMap_add :
    ((add key item found).flatMap Bundle.items).Perm (found.flatMap Bundle.items ++ [item]) := by
  induction found with
  | nil => simp [add, Bundle.items]
  | cons head rest ih =>
    rw [add]
    split
    · simp only [List.flatMap_cons, Bundle.items, List.cons_append, List.append_assoc]
      refine .cons _ (.append_left _ ?_)
      exact (List.perm_append_singleton item _).symm
    · rw [List.flatMap_cons, List.flatMap_cons, List.append_assoc]
      exact ih.append_left _

variable (key items) in
/-- The groups hold every item, as often as it occurs. -/
theorem perm_flatMap_groups : ((groups key items).flatMap Bundle.items).Perm items := by
  induction items using List.reverseRecOn with
  | nil => exact .refl _
  | append_singleton before item ih =>
    rw [groups, List.foldl_concat]
    exact perm_flatMap_add.trans (ih.append_right _)

/-- The group of an item holds it. -/
theorem Grouped.mem_items (h : Grouped key items found) (hgroup : group ∈ found)
    (hmem : item ∈ items) (hkey : key group.first = key item) : item ∈ group.items := by
  rw [h.items_eq group hgroup, List.mem_filter]
  exact ⟨hmem, by simp [hkey]⟩

/-- The first item of a group is the first of its key. -/
theorem Grouped.first_eq (h : Grouped key items found) (hgroup : group ∈ found) :
    items.find? (fun item => key item = key group.first) = some group.first := by
  rw [← List.head?_filter, ← h.items_eq group hgroup]
  rfl

end Bundle

/-- Either no item shares its key with another, or there is a first one that shares it
with one before. -/
theorem nodup_or_exists_first_repeat {Item Key : Type} (key : Item → Key) (items : List Item) :
    (items.map key).Nodup ∨ ∃ before repeated after, items = before ++ repeated :: after ∧
      (before.map key).Nodup ∧ key repeated ∈ before.map key := by
  induction items using List.reverseRecOn with
  | nil => exact Or.inl List.nodup_nil
  | append_singleton init last ih =>
    rcases ih with hdistinct | ⟨before, repeated, after, rfl, hbefore, hrepeated⟩
    · by_cases hlast : key last ∈ init.map key
      · exact Or.inr ⟨init, last, [], rfl, hdistinct, hlast⟩
      · refine Or.inl ?_
        rw [List.map_append, List.nodup_append_comm]
        exact List.nodup_cons.mpr ⟨hlast, hdistinct⟩
    · exact Or.inr ⟨before, repeated, after ++ [last], by simp, hbefore, hrepeated⟩

end grouping
