import OpcuaGateway.Gateway.ServerTask.Resolution
import OpcuaGateway.Mapping.Resolve.Nodes

open grouping mapping.namespace_table mapping.resolve opcua_conn result

namespace gateway.server_task

/-- Fully resolved. -/
def isResolved (target : BrowsePathTarget) : Bool := target.remaining_path_index == PATH_FULLY_RESOLVED

/-- Fully resolved and expressed by namespace index. -/
def isUsable (target : BrowsePathTarget) : Bool := isResolved target && target.namespace_uri == ""

/-- The first usable target of a good result. -/
def usableTarget (result : BrowsePathResult) : Option NodeId :=
  if result.is_good then (result.targets.find? isUsable).map (·.node_id) else none

/-- An entry bound to a node, if there is one. -/
def bindEntry (entry : Entry) (node_id : Option NodeId) : Entry :=
  { entry with node_ref := node_id.elim entry.node_ref .Known }

/-- Every pending entry is bound to what `target` finds in the result at its own
position, or is dropped; nothing else changes. -/
structure Binds (codec : TextCodec) (target : BrowsePathResult → Option NodeId) (before : Plan)
    (results : List BrowsePathResult) (after : Plan) : Prop where
  header : { after with entries := before.entries } = before
  length : after.entries.length = before.entries.length
  known : ∀ (i : Nat) entry node_id, before.entries[i]? = some entry → entry.node_ref = .Known node_id →
    after.entries[i]? = some entry
  pending : ∀ (j i : Nat) path, before.pending_paths[j]? = some (i, path) →
    ∃ entry, before.entries[i]? = some entry ∧ entry.node_ref = .Path path ∧
      after.entries[i]? = some (bindEntry entry (results[j]?.bind target))
  dropped : ∀ (i : Nat) entry path, after.entries[i]? = some entry → entry.node_ref = .Path path →
    after.finish codec = { after with entries := after.entries.eraseIdx i }.finish codec

/-- No target that is fully resolved but named by URI stands before a usable one. -/
def FirstResolvedUsable (result : BrowsePathResult) : Prop :=
  ∀ first, result.targets.find? isResolved = some first → first.namespace_uri = "" ∨
    ∀ target ∈ result.targets, isUsable target = false

section Apply

variable {plan : Plan} {found : List ((Nat × List QualifiedName) × Option NodeId)} {i : Nat}

theorem getElem?_set_resolved (index : Nat) (node_id : NodeId) :
    (plan.set_resolved index node_id).entries[i]? =
      if index = i then plan.entries[i]?.map fun entry => bindEntry entry (some node_id) else plan.entries[i]? := by
  rw [Plan.set_resolved, List.getElem?_modify]
  split <;> simp [bindEntry]

theorem bindEntry_none (entry : Entry) : bindEntry entry none = entry := rfl

/-- What is found for other entries leaves this one as it is. -/
theorem getElem?_setAllResolved_of_notMem (hnot : i ∉ found.map (·.1.1)) :
    (setAllResolved plan found).entries[i]? = plan.entries[i]? := by
  induction found generalizing plan with
  | nil => rfl
  | cons head rest ih =>
    obtain ⟨⟨index, path⟩, resolved⟩ := head
    rw [List.map_cons, List.mem_cons, not_or] at hnot
    obtain ⟨hne, hrest⟩ := hnot
    cases resolved with
    | none => exact ih hrest
    | some node_id =>
      refine (ih hrest).trans ?_
      rw [getElem?_set_resolved, if_neg (Ne.symm hne)]

/-- An entry for which something was looked up is bound to it. -/
theorem getElem?_setAllResolved (hdistinct : (found.map (·.1.1)).Nodup) {path : List QualifiedName}
    {resolved : Option NodeId} (hmem : ((i, path), resolved) ∈ found) :
    (setAllResolved plan found).entries[i]? = plan.entries[i]?.map fun entry => bindEntry entry resolved := by
  induction found generalizing plan with
  | nil => cases hmem
  | cons head rest ih =>
    rw [List.map_cons, List.nodup_cons] at hdistinct
    obtain ⟨hfresh, hrest⟩ := hdistinct
    obtain ⟨⟨index, other_path⟩, other⟩ := head
    rcases List.mem_cons.mp hmem with heq | hmem
    · cases heq
      refine (getElem?_setAllResolved_of_notMem hfresh).trans ?_
      cases resolved with
      | none => simp [bindEntry_none]
      | some node_id =>
        dsimp only
        rw [getElem?_set_resolved, if_pos rfl]
    · have hne : index ≠ i := by
        rintro rfl
        exact hfresh (List.mem_map.mpr ⟨_, hmem, rfl⟩)
      refine (ih hrest hmem).trans ?_
      cases other with
      | none => rfl
      | some node_id =>
        dsimp only
        rw [getElem?_set_resolved, if_neg hne]

theorem setAllResolved_header : { setAllResolved plan found with entries := plan.entries } = plan := by
  induction found generalizing plan with
  | nil => rfl
  | cons head rest ih =>
    obtain ⟨key, resolved⟩ := head
    cases resolved with
    | none => exact ih
    | some node_id =>
      have hrest : { setAllResolved (plan.set_resolved key.1 node_id) rest with
          entries := (plan.set_resolved key.1 node_id).entries } = plan.set_resolved key.1 node_id := ih
      rw [Plan.mk.injEq] at hrest
      obtain ⟨hid, hname, hroot, -⟩ := hrest
      exact Plan.mk.injEq .. ▸ ⟨hid, hname, hroot, rfl⟩

theorem length_setAllResolved : (setAllResolved plan found).entries.length = plan.entries.length := by
  induction found generalizing plan with
  | nil => rfl
  | cons head rest ih =>
    obtain ⟨key, resolved⟩ := head
    cases resolved with
    | none => exact ih
    | some node_id =>
      refine ih.trans ?_
      dsimp only
      rw [Plan.set_resolved, List.length_modify]

/-- A pending path is that of the entry at its index. -/
theorem mem_pending_paths {path : List QualifiedName} : (i, path) ∈ plan.pending_paths ↔
    ∃ entry, plan.entries[i]? = some entry ∧ entry.node_ref = .Path path := by
  rw [Plan.pending_paths, List.mem_filterMap]
  constructor
  · rintro ⟨⟨entry, index⟩, hmem, hpath⟩
    rw [List.mem_zipIdx_iff_getElem?] at hmem
    cases href : entry.node_ref with
    | Known node_id => simp [href] at hpath
    | Path other =>
      simp only [href, Option.some.injEq, Prod.mk.injEq] at hpath
      obtain ⟨rfl, rfl⟩ := hpath
      exact ⟨entry, hmem, href⟩
  · rintro ⟨entry, hentry, href⟩
    exact ⟨(entry, i), List.mem_zipIdx_iff_getElem?.mpr hentry, by simp [href]⟩

theorem nodup_pending_paths : (plan.pending_paths.map Prod.fst).Nodup := by
  rw [List.Nodup, List.pairwise_map, Plan.pending_paths, List.pairwise_filterMap, List.pairwise_iff_getElem]
  intro j k hj hk hlt first hfirst second hsecond
  rw [List.getElem_zipIdx] at hfirst hsecond
  dsimp only at hfirst hsecond
  split at hfirst
  · split at hsecond
    · cases hfirst
      cases hsecond
      dsimp only
      omega
    · cases hsecond
  · cases hfirst

/-- The plan with its pending entries bound to what `target` finds. -/
def applyResults (plan : Plan) (target : BrowsePathResult → Option NodeId) (results : List BrowsePathResult) : Plan :=
  setAllResolved plan (plan.pending_paths.zip (plan.pending_paths.zipIdx.map fun (_, j) => results[j]?.bind target))

theorem translatePending_eq {session : Session} {results : List BrowsePathResult}
    (hresults : session.translate_browse_paths_to_node_ids plan.root_node_id (plan.pending_paths.map Prod.snd) =
      .ok results) : translatePending session plan = .ok (applyResults plan resolvedTarget results) := by
  unfold translatePending applyResults
  dsimp only
  cases hpending : plan.pending_paths with
  | nil => rfl
  | cons head rest =>
    rw [hpending] at hresults
    rw [translate_browse_paths, hresults]
    simp [Except.map, List.zipIdx_map, Function.comp_def]

/-- Nodes come from resolved entries only. -/
theorem finish_eraseIdx (codec : TextCodec) {entry : Entry} {path : List QualifiedName}
    (hentry : plan.entries[i]? = some entry) (href : entry.node_ref = .Path path) :
    plan.finish codec = Plan.finish codec { plan with entries := plan.entries.eraseIdx i } := by
  have hresolved : Plan.resolved { plan with entries := plan.entries.eraseIdx i } = plan.resolved := by
    obtain ⟨hbound, hget⟩ := List.getElem?_eq_some_iff.mp hentry
    have hsplit : plan.entries = plan.entries.take i ++ entry :: plan.entries.drop (i + 1) := by
      rw [← hget, List.getElem_cons_drop, List.take_append_drop]
    simp only [Plan.resolved]
    rw [List.eraseIdx_eq_take_drop_succ]
    conv_rhs => rw [hsplit]
    simp [href]
  have hnodes : (plan.finish codec).nodes =
      (Plan.finish codec { plan with entries := plan.entries.eraseIdx i }).nodes := by
    rw [finish_nodes, finish_nodes, hresolved]
  rw [ResolvedMapping.mk.injEq]
  exact ⟨rfl, rfl, rfl, hnodes⟩

/-- What the code finds decides about every pending entry. -/
theorem applyResults_binds (codec : TextCodec) (target : BrowsePathResult → Option NodeId) (plan : Plan)
    (results : List BrowsePathResult) : Binds codec target plan results (applyResults plan target results) where
  header := setAllResolved_header
  length := length_setAllResolved
  known := by
    intro i entry node_id hentry href
    refine (getElem?_setAllResolved_of_notMem ?_).trans hentry
    intro hmem
    obtain ⟨⟨⟨index, path⟩, resolved⟩, hzip, rfl⟩ := List.mem_map.mp hmem
    obtain ⟨other, hother, hpath⟩ := mem_pending_paths.mp (List.of_mem_zip hzip).1
    obtain rfl := Option.some.inj (hentry.symm.trans hother)
    rw [href] at hpath
    cases hpath
  pending := by
    intro j i path hpending
    obtain ⟨entry, hentry, href⟩ := mem_pending_paths.mp (List.mem_of_getElem? hpending)
    refine ⟨entry, hentry, href, ?_⟩
    have hdistinct : ((plan.pending_paths.zip (plan.pending_paths.zipIdx.map
        fun (_, j) => results[j]?.bind target)).map (·.1.1)).Nodup := by
      have hmap := List.map_map (f := Prod.fst) (g := Prod.fst) (l := plan.pending_paths.zip
        (plan.pending_paths.zipIdx.map fun (_, j) => results[j]?.bind target))
      rw [List.map_fst_zip (by simp)] at hmap
      exact hmap ▸ nodup_pending_paths
    have hfound : ((i, path), results[j]?.bind target) ∈ plan.pending_paths.zip
        (plan.pending_paths.zipIdx.map fun (_, j) => results[j]?.bind target) := by
      refine List.mem_of_getElem? (i := j) (List.getElem?_zip_eq_some.mpr ⟨hpending, ?_⟩)
      simp [hpending]
    rw [applyResults, getElem?_setAllResolved hdistinct hfound, hentry, Option.map_some]
  dropped := fun i entry path hentry href => finish_eraseIdx codec hentry href

theorem bindEntry_inj {entry : Entry} {path : List QualifiedName} (href : entry.node_ref = .Path path)
    {first second : Option NodeId} (h : bindEntry entry first = bindEntry entry second) : first = second := by
  have hnode_ref := congrArg Entry.node_ref h
  simp only [bindEntry, href] at hnode_ref
  cases first <;> cases second <;> simp_all

/-- Two ways of choosing a target bind alike exactly when they agree on the results
that belong to a pending path. -/
theorem applyResults_binds_iff (codec : TextCodec) (target target' : BrowsePathResult → Option NodeId)
    (plan : Plan) (results : List BrowsePathResult) :
    Binds codec target' plan results (applyResults plan target results) ↔
      ∀ (j : Nat) result, j < plan.pending_paths.length → results[j]? = some result →
        target result = target' result := by
  have hbinds := applyResults_binds codec target plan results
  constructor
  · intro hother j result hj hresult
    obtain ⟨entry, hentry, href, hafter⟩ := hbinds.pending j _ _ (List.getElem?_eq_getElem hj)
    obtain ⟨entry', hentry', -, hafter'⟩ := hother.pending j _ _ (List.getElem?_eq_getElem hj)
    obtain rfl := Option.some.inj (hentry.symm.trans hentry')
    have hsame := bindEntry_inj href (Option.some.inj (hafter.symm.trans hafter'))
    rw [hresult] at hsame
    exact hsame
  · intro hagree
    refine { hbinds with pending := fun j i path hpending => ?_ }
    obtain ⟨entry, hentry, href, hafter⟩ := hbinds.pending j i path hpending
    refine ⟨entry, hentry, href, hafter.trans ?_⟩
    cases hresult : results[j]? with
    | none => rfl
    | some result =>
      rw [Option.bind_some, Option.bind_some, hagree j result (List.getElem?_eq_some_iff.mp hpending).1 hresult]

end Apply

section Targets

variable {result : BrowsePathResult}

theorem find?_isUsable_of_first {first : BrowsePathTarget} (hfirst : result.targets.find? isResolved = some first)
    (huri : first.namespace_uri = "") : result.targets.find? isUsable = some first := by
  obtain ⟨hresolved, before, after, hsplit, hbefore⟩ := List.find?_eq_some_iff_append.mp hfirst
  refine List.find?_eq_some_iff_append.mpr ⟨by simp [isUsable, hresolved, huri], before, after, hsplit, ?_⟩
  intro target hmem
  have hnot := hbefore target hmem
  simp_all [isUsable]

/-- The code finds the first usable target unless one named by URI comes before it. -/
theorem resolvedTarget_eq_usableTarget_iff :
    resolvedTarget result = usableTarget result ↔ (result.is_good = true → FirstResolvedUsable result) := by
  unfold resolvedTarget usableTarget FirstResolvedUsable
  cases hgood : result.is_good with
  | false => simp
  | true =>
    have hcode : (fun target : BrowsePathTarget => target.remaining_path_index == PATH_FULLY_RESOLVED) =
        isResolved := rfl
    simp only [if_true, hcode, true_implies]
    cases hfirst : result.targets.find? isResolved with
    | none =>
      have hnone : result.targets.find? isUsable = none := by
        rw [List.find?_eq_none] at hfirst ⊢
        intro target hmem husable
        exact hfirst target hmem (Bool.and_elim_left husable)
      simp [hnone]
    | some first =>
      by_cases huri : first.namespace_uri = ""
      · rw [find?_isUsable_of_first hfirst huri]
        simp [to_node_id, huri]
      · simp [to_node_id, huri, List.find?_eq_none]

end Targets

/-- Every pending entry is bound to the first usable target of its own result exactly
when no good result has a target named by URI before the usable ones. -/
theorem translatePending_binds_iff (codec : TextCodec) (session : Session) (plan : Plan)
    (results : List BrowsePathResult)
    (hresults : session.translate_browse_paths_to_node_ids plan.root_node_id (plan.pending_paths.map Prod.snd) =
      .ok results) :
    ∃ after, translatePending session plan = .ok after ∧
      (Binds codec usableTarget plan results after ↔
        ∀ (j : Nat) result, j < plan.pending_paths.length → results[j]? = some result →
          result.is_good = true → FirstResolvedUsable result) := by
  refine ⟨_, translatePending_eq hresults, ?_⟩
  rw [applyResults_binds_iff]
  simp only [resolvedTarget_eq_usableTarget_iff]

section Sample

/-- A server that gives these results to every request. -/
def answering (results : List BrowsePathResult) : Session where
  read_namespace_array := .ok (some [])
  translate_browse_paths_to_node_ids _ _ := .ok results

/-- A node found under two NodeIds, the first of them named by URI. -/
def aliasedResult : BrowsePathResult where
  is_good := true
  targets := [⟨"urn:plc", ⟨0, .Numeric 7⟩, PATH_FULLY_RESOLVED⟩, ⟨"", ⟨2, .Numeric 7⟩, PATH_FULLY_RESOLVED⟩]

def flowPlan : Plan where
  device_type_id := "pump"
  device_type_name := "Pump"
  root_node_id := ⟨0, .Numeric 85⟩
  entries := [⟨"flow", [.Event ⟨some "flow", none, none⟩], .Path [⟨2, "Flow"⟩], .Subscription .default⟩]

/-- The entry is dropped although its second target is usable. -/
theorem usable_target_dropped :
    ¬ ∀ (codec : TextCodec) (session : Session) (plan after : Plan) (results : List BrowsePathResult),
      session.translate_browse_paths_to_node_ids plan.root_node_id (plan.pending_paths.map Prod.snd) = .ok results →
      translatePending session plan = .ok after → Binds codec usableTarget plan results after := by
  intro hall
  let codec : TextCodec := ⟨fun _ => none, fun _ => "", fun _ => none, fun _ => ""⟩
  have hbinds := hall codec (answering [aliasedResult]) flowPlan _ [aliasedResult] rfl (translatePending_eq rfl)
  obtain ⟨entry, hentry, -, hafter⟩ := hbinds.pending 0 0 [⟨2, "Flow"⟩] rfl
  cases hentry
  revert hafter
  decide

/-- A path that leads on into another server, and a node of this one. -/
def remoteResult : BrowsePathResult where
  is_good := true
  targets := [⟨"urn:plc", ⟨0, .Numeric 7⟩, 0⟩, ⟨"", ⟨2, .Numeric 7⟩, PATH_FULLY_RESOLVED⟩]

/-- The entry is bound to the node. -/
theorem translatePending_binds_iff_flow :
    ∃ after, translatePending (answering [remoteResult]) flowPlan = .ok after ∧
      Binds ⟨fun _ => none, fun _ => "", fun _ => none, fun _ => ""⟩ usableTarget flowPlan [remoteResult] after ∧
      after.entries.map (·.node_ref) = [.Known ⟨2, .Numeric 7⟩] := by
  obtain ⟨after, hafter, hiff⟩ := translatePending_binds_iff ⟨fun _ => none, fun _ => "", fun _ => none, fun _ => ""⟩
    (answering [remoteResult]) flowPlan [remoteResult] rfl
  refine ⟨after, hafter, hiff.mpr fun j result _ hresult _ => ?_, ?_⟩
  · obtain rfl : result = remoteResult := List.mem_singleton.mp (List.mem_of_getElem? hresult)
    intro first hfirst
    cases hfirst
    exact .inl rfl
  · cases hafter
    decide

end Sample

end gateway.server_task
