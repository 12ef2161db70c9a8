import Mathlib.Data.List.Sort
import OpcuaGateway.Mapping.Source

open ordered_map mapping.model mapping.namespace_table

namespace mapping.source

/-- An entry of the mapping directory: a file with its text, if that can be read, and
its fingerprint. -/
structure DirEntry where
  name : String
  text : Option String
  fingerprint : String
  deriving DecidableEq

section Load

variable (decoder : Decoder)

/-- What an entry is loaded as; nothing for one that is ignored. -/
def loadEntry (entry : DirEntry) : Option LoadedDeviceType :=
  if is_mapping_file entry.name then
    entry.text.bind fun text => (load_file decoder entry.name text entry.fingerprint).toOption
  else none

/-- Read every mapping file of a directory, in the order in which it is listed. -/
def load_dir (entries : List DirEntry) : List LoadedDeviceType := sortById (entries.filterMap (loadEntry decoder))

end Load

/-- Sorting by id keeps the order among the device types with one id. -/
theorem filter_sortById (loaded : List LoadedDeviceType) (id : String) :
    (sortById loaded).filter (·.id = id) = loaded.filter (·.id = id) := by
  have hpairwise : (loaded.filter (·.id = id)).Pairwise fun a b => a.id ≤ b.id := by
    refine List.pairwise_of_forall_mem_list fun a ha b hb => ?_
    have haid : a.id = id := by simpa using (List.mem_filter.mp ha).2
    have hbid : b.id = id := by simpa using (List.mem_filter.mp hb).2
    rw [haid, hbid]
  have hsub : (loaded.filter (·.id = id)).Sublist (sortById loaded) :=
    List.sublist_insertionSort hpairwise List.filter_sublist
  have hfilter := hsub.filter (·.id = id)
  rw [List.filter_filter] at hfilter
  simp only [Bool.and_self] at hfilter
  have hlength : ((sortById loaded).filter (·.id = id)).length = (loaded.filter (·.id = id)).length :=
    ((List.perm_insertionSort _ loaded).filter _).length_eq
  exact (hfilter.eq_of_length hlength.symm).symm

/-- Of several files with one id the last that is listed wins, over whatever was
fetched. -/
theorem get_merged_load_dir (decoder : Decoder) (pulled : List LoadedDeviceType) (entries : List DirEntry)
    (id : String) :
    (merged pulled (load_dir decoder entries)).get id =
      (((entries.filterMap (loadEntry decoder)).filter (·.id = id)).getLast?).or ((merged pulled []).get id) := by
  have hpushed : (merged [] (load_dir decoder entries)).get id =
      ((entries.filterMap (loadEntry decoder)).filter (·.id = id)).getLast? := by
    rw [merged, List.nil_append, OrderedMap.get_ofList, List.filter_map, List.getLast?_map, Option.map_map]
    have hfilter : (load_dir decoder entries).filter ((fun e : String × LoadedDeviceType => decide (e.1 = id)) ∘
        fun l => (l.id, l)) = (entries.filterMap (loadEntry decoder)).filter (·.id = id) :=
      filter_sortById _ id
    rw [hfilter]
    exact Option.map_id'
  rw [get_merged, hpushed]

/-- Two files that load under one id load as the same. -/
def Unambiguous (decoder : Decoder) (entries : List DirEntry) : Prop :=
  ∀ entry ∈ entries, ∀ other ∈ entries, ∀ l l', loadEntry decoder entry = some l →
    loadEntry decoder other = some l' → l.id = l'.id → l = l'

theorem getLast?_of_forall_eq {A : Type} {xs ys : List A} (hperm : xs.Perm ys)
    (h : ∀ x ∈ xs, ∀ y ∈ xs, x = y) : xs.getLast? = ys.getLast? := by
  cases hxs : xs.getLast? with
  | none =>
    rw [List.getLast?_eq_none_iff] at hxs
    rw [hxs, List.nil_perm] at hperm
    rw [hperm]
    rfl
  | some x =>
    have hmem := List.mem_of_getLast? hxs
    cases hys : ys.getLast? with
    | none =>
      rw [List.getLast?_eq_none_iff] at hys
      rw [hys, List.perm_nil] at hperm
      rw [hperm] at hmem
      cases hmem
    | some y =>
      have hother := hperm.mem_iff.mpr (List.mem_of_getLast? hys)
      rw [h x hmem y hother]

/-- The merged set and its revision are the same in whatever order the directory is
listed, exactly when no two files load under one id as different device types. -/
theorem merge_listing_order_iff (decoder : Decoder) (pulled : List LoadedDeviceType) (entries : List DirEntry) :
    (∀ listed, listed.Perm entries →
      merge pulled (load_dir decoder listed) = merge pulled (load_dir decoder entries) ∧
        revision (merge pulled (load_dir decoder listed)) = revision (merge pulled (load_dir decoder entries))) ↔
      Unambiguous decoder entries := by
  constructor
  · intro hsame entry hentry other hother l l' hl hl' hid
    -- an order in which the entry is listed last, and one in which the other is
    have hlast : ∀ entry ∈ entries, ∀ l, loadEntry decoder entry = some l →
        ∃ listed, listed.Perm entries ∧ (merged pulled (load_dir decoder listed)).get l.id = some l := by
      intro entry hentry l hl
      refine ⟨entries.erase entry ++ [entry], ?_, ?_⟩
      · exact (List.perm_append_singleton entry _).trans (List.perm_cons_erase hentry).symm
      · rw [get_merged_load_dir, List.filterMap_append, List.filter_append]
        simp [hl]
    obtain ⟨listed, hlisted, hget⟩ := hlast entry hentry l hl
    obtain ⟨listed', hlisted', hget'⟩ := hlast other hother l' hl'
    have hmerge := (hsame listed hlisted).1.trans (hsame listed' hlisted').1.symm
    have hmem : l ∈ merge pulled (load_dir decoder listed') := by
      rw [← hmerge]
      exact mem_merge_iff.mpr hget
    have hwinner := mem_merge_iff.mp hmem
    rw [hid, hget'] at hwinner
    exact (Option.some.inj hwinner).symm
  · intro hunambiguous listed hperm
    have hmerged : merged pulled (load_dir decoder listed) = merged pulled (load_dir decoder entries) := by
      ext id : 1
      rw [get_merged_load_dir, get_merged_load_dir]
      congr 1
      refine getLast?_of_forall_eq ((hperm.filterMap _).filter _) ?_
      intro l hl l' hl'
      obtain ⟨hl, hid⟩ := List.mem_filter.mp hl
      obtain ⟨hl', hid'⟩ := List.mem_filter.mp hl'
      obtain ⟨entry, hentry, hload⟩ := List.mem_filterMap.mp hl
      obtain ⟨other, hother, hload'⟩ := List.mem_filterMap.mp hl'
      have hsame : l.id = l'.id := by
        rw [of_decide_eq_true hid, of_decide_eq_true hid']
      exact hunambiguous entry (hperm.mem_iff.mp hentry) other (hperm.mem_iff.mp hother) l l' hload hload' hsame
    rw [merge, merge, hmerged]
    exact ⟨rfl, rfl⟩

/-- A decoder for exports of the managed object `pump` that keeps the text of a file
as the device type's name. -/
def exportDecoder : Decoder where
  managed_object text :=
    some {
      id := "pump"
      last_updated := none
      device_type := some {
        name := text
        enabled := true
        mappings := []
        apply_constraints := none
        subscription_type := none
        overridden_subscriptions := []
        referenced_root_node_id := none } }
  device_type _ := none

/-- Two exports of one managed object: the one that is listed last wins. -/
theorem listing_order_decides :
    ¬ ∀ decoder pulled entries listed, List.Perm listed entries →
      merge pulled (load_dir decoder listed) = merge pulled (load_dir decoder entries) ∧
        revision (merge pulled (load_dir decoder listed)) = revision (merge pulled (load_dir decoder entries)) := by
  intro hall
  have hsame := hall exportDecoder [] [⟨"new.json", some "new", "3:2"⟩, ⟨"old.json", some "old", "3:1"⟩]
    [⟨"old.json", some "old", "3:1"⟩, ⟨"new.json", some "new", "3:2"⟩] (List.Perm.swap ..)
  revert hsame
  decide

end mapping.source
