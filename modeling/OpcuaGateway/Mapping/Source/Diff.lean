import OpcuaGateway.Mapping.Source

open ordered_map

namespace mapping.source

namespace RevisionDiff

/-- What the loop over the later revision does with one of its entries. -/
def visitAfter (before : Revision) (diff : RevisionDiff) (entry : String × (Origin × String)) : RevisionDiff :=
  match before.get entry.1 with
  | none => { diff with added := diff.added ++ [entry.1] }
  | some previous => if previous != entry.2 then { diff with changed := diff.changed ++ [entry.1] } else diff

/-- What the loop over the earlier revision does with one of its keys. -/
def visitBefore (after : Revision) (diff : RevisionDiff) (id : String) : RevisionDiff :=
  if (after.get id).isNone then { diff with removed := diff.removed ++ [id] } else diff

/-- Both loops, one after the other. -/
def traverse (before after : Revision) : RevisionDiff :=
  before.keys.foldl (visitBefore after) (after.entries.foldl (visitAfter before) ⟨[], [], []⟩)

/-- Bring a revision up to the later one: what the difference says is gone is
removed, what it says is new or different is taken over. -/
def update (self : RevisionDiff) (before after : Revision) : Revision :=
  (self.added ++ self.changed).foldl (OrderedMap.copyFrom after) (self.removed.foldl OrderedMap.remove before)

/-- A difference says what separates two revisions, and nothing else. -/
structure Exact (before after : Revision) (self : RevisionDiff) : Prop where
  added_ascending : self.added.Pairwise (· < ·)
  removed_ascending : self.removed.Pairwise (· < ·)
  changed_ascending : self.changed.Pairwise (· < ·)
  added_removed : self.added.Disjoint self.removed
  added_changed : self.added.Disjoint self.changed
  removed_changed : self.removed.Disjoint self.changed
  mem_added_iff : ∀ id, id ∈ self.added ↔ id ∈ after.keys ∧ id ∉ before.keys
  mem_removed_iff : ∀ id, id ∈ self.removed ↔ id ∈ before.keys ∧ id ∉ after.keys
  mem_changed_iff : ∀ id, id ∈ self.changed ↔
    ∃ previous marker, before.get id = some previous ∧ after.get id = some marker ∧ previous ≠ marker
  is_empty_iff : self.is_empty = true ↔ before = after
  update_eq : self.update before after = after

theorem foldl_visitBefore (after : Revision) (ids : List String) (diff : RevisionDiff) :
    ids.foldl (visitBefore after) diff =
      { diff with removed := diff.removed ++ ids.filter fun id => (after.get id).isNone } := by
  induction ids generalizing diff with
  | nil => simp
  | cons id rest ih =>
    rw [List.foldl_cons, ih, visitBefore, List.filter_cons]
    split <;> simp

theorem foldl_visitAfter (before : Revision) (entries : List (String × (Origin × String))) (diff : RevisionDiff) :
    entries.foldl (visitAfter before) diff =
      { diff with
        added := diff.added ++ (entries.filter fun e => (before.get e.1).isNone).map (·.1)
        changed := diff.changed ++ (entries.filter fun e => (before.get e.1).any (· != e.2)).map (·.1) } := by
  induction entries generalizing diff with
  | nil => simp
  | cons entry rest ih =>
    rw [List.foldl_cons, ih, visitAfter, List.filter_cons, List.filter_cons]
    cases hbefore : before.get entry.1 with
    | none => simp
    | some previous => by_cases hsame : previous = entry.2 <;> simp [hsame]

/-- The two loops collect what the filters say. -/
theorem traverse_eq_between (before after : Revision) : traverse before after = between before after := by
  have hget : ∀ e ∈ after.entries, after.get e.1 = some e.2 :=
    fun e hmem => after.get_eq_some_iff_mem.mpr hmem
  have hadded : (after.entries.filter fun e => (before.get e.1).isNone).map (·.1) =
      after.keys.filter fun id => (before.get id).isNone := by
    rw [OrderedMap.keys, List.filter_map]
    rfl
  have hchanged : (after.entries.filter fun e => (before.get e.1).any (· != e.2)).map (·.1) =
      after.keys.filter fun id =>
        (before.get id).any fun previous => (after.get id).any fun marker => previous != marker := by
    rw [OrderedMap.keys, List.filter_map]
    congr 1
    refine List.filter_congr fun e hmem => ?_
    rw [Function.comp_apply, hget e hmem]
    rfl
  rw [traverse, foldl_visitAfter, foldl_visitBefore, hadded, hchanged]
  rfl

variable {before after : Revision} {id : String}

theorem mem_added_between : id ∈ (between before after).added ↔ id ∈ after.keys ∧ id ∉ before.keys := by
  rw [between, List.mem_filter, before.mem_keys_iff, Option.isNone_iff_eq_none, ← Option.not_isSome_iff_eq_none]

theorem mem_removed_between : id ∈ (between before after).removed ↔ id ∈ before.keys ∧ id ∉ after.keys := by
  rw [between, List.mem_filter, after.mem_keys_iff, Option.isNone_iff_eq_none, ← Option.not_isSome_iff_eq_none]

theorem mem_changed_between : id ∈ (between before after).changed ↔
    ∃ previous marker, before.get id = some previous ∧ after.get id = some marker ∧ previous ≠ marker := by
  rw [between, List.mem_filter, after.mem_keys_iff]
  constructor
  · rintro ⟨-, hany⟩
    obtain ⟨previous, hbefore, hany⟩ := (Option.any_eq_true _ _).mp hany
    obtain ⟨marker, hafter, hne⟩ := (Option.any_eq_true _ _).mp hany
    exact ⟨previous, marker, hbefore, hafter, by simpa using hne⟩
  · rintro ⟨previous, marker, hbefore, hafter, hne⟩
    simp [hbefore, hafter, hne]

theorem mem_keys_of_mem_changed (h : id ∈ (between before after).changed) :
    id ∈ before.keys ∧ id ∈ after.keys := by
  obtain ⟨previous, marker, hbefore, hafter, -⟩ := mem_changed_between.mp h
  exact ⟨before.mem_keys_iff.mpr (hbefore ▸ rfl), after.mem_keys_iff.mpr (hafter ▸ rfl)⟩

/-- The difference of two revisions turns the earlier one into the later one. -/
theorem update_between (before after : Revision) : (between before after).update before after = after := by
  apply OrderedMap.foldl_copyFrom_remove
  · intro id hid
    have hgone := (mem_removed_between.mp hid).2
    rwa [after.mem_keys_iff, Option.not_isSome_iff_eq_none] at hgone
  · intro id hid
    rw [← after.mem_keys_iff]
    obtain hadded | hchanged := List.mem_append.mp hid
    · exact (mem_added_between.mp hadded).1
    · exact (mem_keys_of_mem_changed hchanged).2
  · intro id hremoved htaken
    rw [List.mem_append, not_or, mem_added_between, mem_changed_between] at htaken
    rw [mem_removed_between] at hremoved
    simp only [OrderedMap.mem_keys_iff] at htaken hremoved
    cases hbefore : before.get id with
    | none =>
      cases hafter : after.get id with
      | none => rfl
      | some marker => exact absurd ⟨by rw [hafter]; rfl, by rw [hbefore]; simp⟩ htaken.1
    | some previous =>
      cases hafter : after.get id with
      | none => exact absurd ⟨by rw [hbefore]; rfl, by rw [hafter]; simp⟩ hremoved
      | some marker =>
        by_contra hne
        exact htaken.2 ⟨previous, marker, hbefore, hafter, fun heq => hne (congrArg some heq)⟩

/-- The loops name exactly what separates the two revisions. -/
theorem traverse_exact (before after : Revision) :
    traverse before after = between before after ∧ Exact before after (between before after) where
  left := traverse_eq_between before after
  right := {
    added_ascending := after.pairwise_keys.filter _
    removed_ascending := before.pairwise_keys.filter _
    changed_ascending := after.pairwise_keys.filter _
    added_removed := fun _ hadded hremoved =>
      (mem_added_between.mp hadded).2 (mem_removed_between.mp hremoved).1
    added_changed := fun _ hadded hchanged =>
      (mem_added_between.mp hadded).2 (mem_keys_of_mem_changed hchanged).1
    removed_changed := fun _ hremoved hchanged =>
      (mem_removed_between.mp hremoved).2 (mem_keys_of_mem_changed hchanged).2
    mem_added_iff := fun _ => mem_added_between
    mem_removed_iff := fun _ => mem_removed_between
    mem_changed_iff := fun _ => mem_changed_between
    is_empty_iff := is_empty_between_iff
    update_eq := update_between before after }

end RevisionDiff

end mapping.source
