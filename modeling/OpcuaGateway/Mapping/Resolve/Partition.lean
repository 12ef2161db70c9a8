import OpcuaGateway.Mapping.Resolve.Nodes

open grouping mapping.namespace_table

namespace mapping.resolve

/-- What tells the nodes of one mapping apart. -/
def ResolvedNode.key (self : ResolvedNode) : NodeId × Bool × Option ReadSchedule :=
  (self.node_id, self.delivery.isSubscription, self.read_schedule)

/-- The entries with a NodeId go to nodes by NodeId, mode and schedule, and the
nodes to the subscription or to the read group of their schedule. -/
structure Partition (p : Plan) (mapping : ResolvedMapping) : Prop where
  distinct : (mapping.nodes.map ResolvedNode.key).Nodup
  complete : ∀ resolved ∈ p.resolved, ∃ node ∈ mapping.nodes, node.key = nodeKey resolved
  sound : ∀ node ∈ mapping.nodes, ∃ resolved ∈ p.resolved, nodeKey resolved = node.key
  in_order : ∀ node ∈ mapping.nodes,
    node.actions = (p.resolved.filter fun resolved => nodeKey resolved = node.key).flatMap (·.2.actions)
  conserved : (mapping.nodes.flatMap (·.actions)).Perm (p.resolved.flatMap (·.2.actions))
  delivered : (mapping.subscribed_nodes ++ mapping.read_groups.flatMap (·.2)).Perm mapping.nodes
  once : (mapping.subscribed_nodes ++ mapping.read_groups.flatMap (·.2)).Nodup
  scheduled : ∀ group ∈ mapping.read_groups, ∀ node ∈ group.2, node.read_schedule = some group.1
  schedules : (mapping.read_groups.map (·.1)).Nodup

section Schedules

variable {a b c : ReadSchedule}

theorem ReadSchedule.lt_iff :
    a.lt b = true ↔ a.rate_ms < b.rate_ms ∨ a.rate_ms = b.rate_ms ∧ a.max_age_ms < b.max_age_ms := by
  simp [ReadSchedule.lt]

theorem ReadSchedule.lt_trans (hab : a.lt b = true) (hbc : b.lt c = true) : a.lt c = true := by
  rw [lt_iff] at hab hbc ⊢
  omega

theorem ReadSchedule.ne_of_lt (h : a.lt b = true) : a ≠ b := by
  rintro rfl
  rw [lt_iff] at h
  omega

theorem ReadSchedule.lt_of_not_lt (hne : a ≠ b) (h : ¬ a.lt b = true) : b.lt a = true := by
  obtain ⟨rate_ms, max_age_ms⟩ := a
  obtain ⟨rate_ms', max_age_ms'⟩ := b
  rw [Ne, ReadSchedule.mk.injEq] at hne
  simp only [lt_iff] at h ⊢
  omega

end Schedules

/-- The groups are in schedule order, and each node that is read is in the group of
its schedule, as often as it was met. -/
structure GroupsOf (seen : List ResolvedNode) (groups : List (ReadSchedule × List ResolvedNode)) : Prop where
  sorted : groups.Pairwise fun a b => a.1.lt b.1 = true
  scheduled : ∀ group ∈ groups, ∀ node ∈ group.2, node.read_schedule = some group.1
  perm : (groups.flatMap (·.2)).Perm (seen.filter fun node => node.read_schedule.isSome)

section Groups

variable {schedule : ReadSchedule} {node : ResolvedNode} {groups : List (ReadSchedule × List ResolvedNode)}

/-- Adding a node opens at most the group of its schedule. -/
theorem mem_keys_addToGroup {group : ReadSchedule × List ResolvedNode}
    (h : group ∈ addToGroup schedule node groups) : group.1 = schedule ∨ ∃ other ∈ groups, other.1 = group.1 := by
  induction groups with
  | nil =>
    rw [addToGroup, List.mem_singleton] at h
    exact Or.inl (by rw [h])
  | cons head rest ih =>
    rw [addToGroup] at h
    split at h
    · rename_i heq
      rcases List.mem_cons.mp h with rfl | hmem
      · exact Or.inl heq.symm
      · exact Or.inr ⟨group, List.mem_cons_of_mem _ hmem, rfl⟩
    · split at h
      · rcases List.mem_cons.mp h with rfl | hmem
        · exact Or.inl rfl
        · exact Or.inr ⟨group, hmem, rfl⟩
      · rcases List.mem_cons.mp h with rfl | hmem
        · exact Or.inr ⟨head, List.mem_cons_self, rfl⟩
        · refine (ih hmem).imp_right ?_
          rintro ⟨other, hother, hkey⟩
          exact ⟨other, List.mem_cons_of_mem _ hother, hkey⟩

theorem sorted_addToGroup (h : groups.Pairwise fun a b => a.1.lt b.1 = true) :
    (addToGroup schedule node groups).Pairwise fun a b => a.1.lt b.1 = true := by
  induction groups with
  | nil => exact List.pairwise_singleton ..
  | cons head rest ih =>
    obtain ⟨hhead, hrest⟩ := List.pairwise_cons.mp h
    rw [addToGroup]
    split
    · exact List.pairwise_cons.mpr ⟨hhead, hrest⟩
    · rename_i hne
      split
      · rename_i hlt
        refine List.pairwise_cons.mpr ⟨fun other hother => ?_, h⟩
        rcases List.mem_cons.mp hother with rfl | hother
        · exact hlt
        · exact ReadSchedule.lt_trans hlt (hhead other hother)
      · rename_i hnlt
        refine List.pairwise_cons.mpr ⟨fun other hother => ?_, ih hrest⟩
        rcases mem_keys_addToGroup hother with hkey | ⟨before, hbefore, hkey⟩
        · rw [hkey]
          exact ReadSchedule.lt_of_not_lt hne hnlt
        · rw [← hkey]
          exact hhead before hbefore

theorem scheduled_addToGroup (hnode : node.read_schedule = some schedule)
    (h : ∀ group ∈ groups, ∀ node ∈ group.2, node.read_schedule = some group.1) :
    ∀ group ∈ addToGroup schedule node groups, ∀ node ∈ group.2, node.read_schedule = some group.1 := by
  induction groups with
  | nil => simpa [addToGroup] using hnode
  | cons head rest ih =>
    have hhead := h head List.mem_cons_self
    have hrest := fun group hmem => h group (List.mem_cons_of_mem _ hmem)
    rw [addToGroup]
    split
    · rename_i heq
      refine List.forall_mem_cons.mpr ⟨fun other hother => ?_, hrest⟩
      rcases List.mem_append.mp hother with hother | hother
      · exact hhead other hother
      · rw [List.mem_singleton.mp hother, hnode, heq]
    · split
      · exact List.forall_mem_cons.mpr ⟨by simpa using hnode, h⟩
      · exact List.forall_mem_cons.mpr ⟨hhead, ih hrest⟩

theorem perm_addToGroup :
    ((addToGroup schedule node groups).flatMap (·.2)).Perm (groups.flatMap (·.2) ++ [node]) := by
  induction groups with
  | nil => exact .refl _
  | cons head rest ih =>
    rw [addToGroup]
    split
    · rw [List.flatMap_cons, List.flatMap_cons, List.append_assoc, List.append_assoc]
      exact List.perm_append_comm.append_left _
    · split
      · rw [List.flatMap_cons]
        exact List.perm_append_comm
      · rw [List.flatMap_cons, List.flatMap_cons, List.append_assoc]
        exact ih.append_left _

theorem GroupsOf.groupNode {seen : List ResolvedNode} (h : GroupsOf seen groups) (node : ResolvedNode) :
    GroupsOf (seen ++ [node]) (groupNode groups node) := by
  rw [mapping.resolve.groupNode]
  split
  · rename_i schedule hschedule
    refine ⟨sorted_addToGroup h.sorted, scheduled_addToGroup hschedule h.scheduled, ?_⟩
    have htake : [node].filter (fun node => node.read_schedule.isSome) = [node] := by simp [hschedule]
    rw [List.filter_append, htake]
    exact perm_addToGroup.trans (h.perm.append_right _)
  · rename_i hnone
    have hskip : [node].filter (fun node => node.read_schedule.isSome) = [] := by simp [hnone]
    refine ⟨h.sorted, h.scheduled, ?_⟩
    rw [List.filter_append, hskip, List.append_nil]
    exact h.perm

theorem groupsOf_read_groups (mapping : ResolvedMapping) : GroupsOf mapping.nodes mapping.read_groups := by
  rw [ResolvedMapping.read_groups]
  induction mapping.nodes using List.reverseRecOn with
  | nil => exact ⟨.nil, by simp, .refl _⟩
  | append_singleton seen node ih =>
    rw [List.foldl_concat]
    exact ih.groupNode node

end Groups

/-- A node is either subscribed or read on a schedule. -/
theorem isSome_read_schedule (node : ResolvedNode) :
    node.read_schedule.isSome = !node.delivery.isSubscription := by
  rw [ResolvedNode.read_schedule]
  cases node.delivery <;> rfl

theorem perm_delivered (mapping : ResolvedMapping) :
    (mapping.subscribed_nodes ++ mapping.read_groups.flatMap (·.2)).Perm mapping.nodes := by
  have hread := (groupsOf_read_groups mapping).perm
  simp only [isSome_read_schedule] at hread
  exact (hread.append_left _).trans (List.filter_append_perm _ _)

theorem key_nodeOf (codec : TextCodec) (group : Bundle (NodeId × Entry)) :
    (nodeOf codec group).key = nodeKey group.first := rfl

/-- Grouping the entries of a plan loses no action, repeats none and mixes none up. -/
theorem finish_partitions (codec : TextCodec) (p : Plan) : Partition p (p.finish codec) := by
  have hgrouped := grouped_groups nodeKey p.resolved
  have hdistinct : ((p.finish codec).nodes.map ResolvedNode.key).Nodup := by
    rw [finish_nodes, List.map_map]
    exact hgrouped.distinct
  have hdelivered := perm_delivered (p.finish codec)
  have hgroups := groupsOf_read_groups (p.finish codec)
  refine ⟨hdistinct, ?_, ?_, ?_, ?_, hdelivered, hdelivered.nodup_iff.mpr (hdistinct.of_map _), hgroups.scheduled, ?_⟩
  · intro resolved hmem
    obtain ⟨group, hgroup, hkey⟩ := hgrouped.complete resolved hmem
    refine ⟨nodeOf codec group, ?_, hkey⟩
    rw [finish_nodes]
    exact List.mem_map_of_mem hgroup
  · intro node hmem
    rw [finish_nodes] at hmem
    obtain ⟨group, hgroup, rfl⟩ := List.mem_map.mp hmem
    exact ⟨group.first, List.mem_of_find?_eq_some (hgrouped.first_eq hgroup), rfl⟩
  · intro node hmem
    rw [finish_nodes] at hmem
    obtain ⟨group, hgroup, rfl⟩ := List.mem_map.mp hmem
    rw [key_nodeOf, ← hgrouped.items_eq group hgroup]
    rfl
  · have hperm := (perm_flatMap_groups nodeKey p.resolved).flatMap_right (·.2.actions)
    rw [List.flatMap_assoc] at hperm
    rw [finish_nodes, List.flatMap_map]
    exact hperm
  · exact List.pairwise_map.mpr (hgroups.sorted.imp ReadSchedule.ne_of_lt)

end mapping.resolve
