import OpcuaGateway.Mapping.Source

open ordered_map mapping.model

namespace mapping.source

def ids (loaded : List LoadedDeviceType) : List String := loaded.map (·.id)

/-- The last entry with an id. -/
def lastWith (loaded : List LoadedDeviceType) (id : String) : Option LoadedDeviceType :=
  (loaded.filter (·.id = id)).getLast?

theorem lastWith_eq_none_iff {loaded : List LoadedDeviceType} {id : String} :
    lastWith loaded id = none ↔ id ∉ ids loaded := by
  rw [lastWith, List.getLast?_eq_none_iff, List.filter_eq_nil_iff, ids, List.mem_map]
  constructor
  · rintro hnone ⟨l, hmem, hid⟩
    exact hnone l hmem (by simpa using hid)
  · intro hnot l hmem hid
    exact hnot ⟨l, hmem, by simpa using hid⟩

/-- One source keyed by id holds the last entry of every id. -/
theorem get_ofList_ids (loaded : List LoadedDeviceType) (id : String) :
    (OrderedMap.ofList (loaded.map fun l => (l.id, l))).get id = lastWith loaded id := by
  rw [OrderedMap.get_ofList, List.filter_map, List.getLast?_map, Option.map_map]
  exact Option.map_id_apply

/-- The last pushed entry decides, and the last pulled one where nothing was pushed. -/
theorem get_merged_lastWith (pulled pushed : List LoadedDeviceType) (id : String) :
    (merged pulled pushed).get id = (lastWith pushed id).or (lastWith pulled id) := by
  rw [merged, List.map_append, OrderedMap.get_ofList_append, get_ofList_ids, get_ofList_ids]

theorem ids_merge (pulled pushed : List LoadedDeviceType) :
    ids (merge pulled pushed) = (merged pulled pushed).keys := by
  rw [ids, merge, OrderedMap.values, OrderedMap.keys, List.map_map]
  refine List.map_congr_left fun e hmem => ?_
  obtain ⟨hid, -⟩ := of_get_merged ((merged pulled pushed).get_eq_some_iff_mem.mpr hmem)
  exact hid

theorem ascending_ids_merge (pulled pushed : List LoadedDeviceType) :
    (ids (merge pulled pushed)).Pairwise (· < ·) := by
  rw [ids_merge]
  exact (merged pulled pushed).pairwise_keys

theorem mem_ids_merge_iff {pulled pushed : List LoadedDeviceType} {id : String} :
    id ∈ ids (merge pulled pushed) ↔ id ∈ ids pulled ∨ id ∈ ids pushed := by
  rw [ids_merge, OrderedMap.mem_keys_iff, get_merged_lastWith, Option.isSome_or, Bool.or_eq_true, or_comm]
  have hlast : ∀ loaded : List LoadedDeviceType, (lastWith loaded id).isSome = true ↔ id ∈ ids loaded := by
    intro loaded
    rw [Option.isSome_iff_ne_none, Ne, lastWith_eq_none_iff, not_not]
  exact or_congr (hlast pulled) (hlast pushed)

theorem mem_merge_iff_lastWith {pulled pushed : List LoadedDeviceType} {l : LoadedDeviceType} :
    l ∈ merge pulled pushed ↔ (lastWith pushed l.id).or (lastWith pulled l.id) = some l := by
  rw [mem_merge_iff, get_merged_lastWith]

theorem mem_of_lastWith {loaded : List LoadedDeviceType} {id : String} {l : LoadedDeviceType}
    (h : lastWith loaded id = some l) : l ∈ loaded ∧ l.id = id := by
  have hmem := List.mem_of_getLast? h
  exact ⟨List.mem_of_mem_filter hmem, by simpa using List.of_mem_filter hmem⟩

/-- Which member of the merged set is a pushed one is decided by the pushed ids. -/
theorem any_push_iff {pulled pushed : List LoadedDeviceType} (hpulled : ∀ l ∈ pulled, l.origin = .Pull)
    (hpushed : ∀ l ∈ pushed, l.origin = .Push) (id : String) :
    ((merge pulled pushed).any fun m => m.id == id && m.origin == .Push) = decide (id ∈ ids pushed) := by
  rw [Bool.eq_iff_iff, decide_eq_true_iff, List.any_eq_true]
  constructor
  · rintro ⟨m, hmem, hm⟩
    obtain ⟨hid, horigin⟩ : m.id = id ∧ m.origin = .Push := by simpa using hm
    have hlast := mem_merge_iff_lastWith.mp hmem
    by_contra hnot
    rw [hid, lastWith_eq_none_iff.mpr hnot, Option.none_or] at hlast
    have hpull := hpulled m (mem_of_lastWith hlast).1
    rw [horigin] at hpull
    cases hpull
  · intro hid
    obtain ⟨l, hlast⟩ : ∃ l, lastWith pushed id = some l :=
      Option.ne_none_iff_exists'.mp fun hnone => lastWith_eq_none_iff.mp hnone hid
    obtain ⟨hmem, hl⟩ := mem_of_lastWith hlast
    have hmerged : l ∈ merge pulled pushed := by
      rw [mem_merge_iff_lastWith, hl, hlast, Option.some_or]
    have horigin := hpushed l hmem
    exact ⟨l, hmerged, by simp [hl, horigin]⟩

theorem shadowed_merge {pulled pushed : List LoadedDeviceType} (hpulled : ∀ l ∈ pulled, l.origin = .Pull)
    (hpushed : ∀ l ∈ pushed, l.origin = .Push) :
    shadowed pulled (merge pulled pushed) = (ids pulled).filter (· ∈ ids pushed) := by
  have hfilter : (pulled.filter fun p => (merge pulled pushed).any fun m => m.id == p.id && m.origin == .Push) =
      pulled.filter fun p => p.id ∈ ids pushed :=
    List.filter_congr fun p _ => any_push_iff hpulled hpushed p.id
  have hids : ids pulled = pulled.map (·.id) := rfl
  rw [shadowed, hfilter, hids, List.filter_map]
  rfl

theorem keys_revision_merge (pulled pushed : List LoadedDeviceType) :
    (revision (merge pulled pushed)).keys = ids (merge pulled pushed) := by
  rw [revision_merge, ids_merge, OrderedMap.keys, OrderedMap.keys, OrderedMap.mapValues, List.map_map]
  rfl

/-- A merged set is its own index. -/
theorem lastWith_merge (pulled pushed : List LoadedDeviceType) (id : String) :
    lastWith (merge pulled pushed) id = (merged pulled pushed).get id := by
  have hentries : (merge pulled pushed).map (fun l => (l.id, l)) = (merged pulled pushed).entries := by
    rw [merge, OrderedMap.values, List.map_map]
    refine (List.map_congr_left fun e hmem => ?_).trans (List.map_id _)
    obtain ⟨hid, -⟩ := of_get_merged ((merged pulled pushed).get_eq_some_iff_mem.mpr hmem)
    exact Prod.ext hid rfl
  rw [← get_ofList_ids, hentries, OrderedMap.ofList_entries]

/-- Merging the same files in once more changes nothing. -/
theorem merge_merge (pulled pushed : List LoadedDeviceType) :
    merge (merge pulled pushed) pushed = merge pulled pushed := by
  have hmerged : merged (merge pulled pushed) pushed = merged pulled pushed := by
    ext id : 1
    rw [get_merged_lastWith, lastWith_merge, get_merged_lastWith, ← Option.or_assoc, Option.or_self]
  rw [merge, hmerged, merge]

/-- Merging is a union in id order in which pushed files win, and everything that
reads the merged set sees that union. -/
theorem merge_right_biased_union {pulled pushed : List LoadedDeviceType}
    (hpulled : ∀ l ∈ pulled, l.origin = .Pull) (hpushed : ∀ l ∈ pushed, l.origin = .Push) :
    (ids (merge pulled pushed)).Pairwise (· < ·) ∧
      (∀ id, id ∈ ids (merge pulled pushed) ↔ id ∈ ids pulled ∨ id ∈ ids pushed) ∧
      (∀ l, l ∈ merge pulled pushed ↔ (lastWith pushed l.id).or (lastWith pulled l.id) = some l) ∧
      shadowed pulled (merge pulled pushed) = (ids pulled).filter (· ∈ ids pushed) ∧
      (revision (merge pulled pushed)).keys = ids (merge pulled pushed) ∧
      merge (merge pulled pushed) pushed = merge pulled pushed :=
  ⟨ascending_ids_merge pulled pushed, fun _ => mem_ids_merge_iff, fun _ => mem_merge_iff_lastWith,
    shadowed_merge hpulled hpushed, keys_revision_merge pulled pushed, merge_merge pulled pushed⟩

/-- A pump that was both fetched and pushed, next to a valve that was only fetched. -/
theorem merge_right_biased_union_pump :
    let pump : DeviceType := ⟨"Pump", true, [], none, none, [], none⟩
    let pulled : List LoadedDeviceType := [⟨"valve", .Pull, "t1", pump⟩, ⟨"pump", .Pull, "t1", pump⟩]
    let pushed : List LoadedDeviceType := [⟨"pump", .Push, "67:0", pump⟩]
    merge pulled pushed = [⟨"pump", .Push, "67:0", pump⟩, ⟨"valve", .Pull, "t1", pump⟩] ∧
      shadowed pulled (merge pulled pushed) = ["pump"] := by
  intro pump pulled pushed
  have hunion := @merge_right_biased_union pulled pushed (by decide) (by decide)
  have hshadowed := hunion.2.2.2.1
  exact ⟨by decide, hshadowed.trans (by decide)⟩

end mapping.source
