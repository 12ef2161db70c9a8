import OpcuaGateway.Gateway.Publish.Batches
import OpcuaGateway.Gateway.ServerTask.Teardown

open transition ordered_map tedge.topic tedge.mqtt mapping.model mapping.value mapping.payload
  mapping.resolve gateway.config gateway.publish

namespace gateway.server_task

section Publisher

variable {publisher : Publisher} {render : Rendering} {now : DateTime} {node : ResolvedNode} {data_value : DataValue}

/-- The pending series of a publisher are those of the messages in its batch. -/
def Counted (publisher : Publisher) : Prop :=
  publisher.pending_series = (publisher.batch.values.map (·.series_count)).sum

variable (render now data_value) in
theorem series_count_add (builder : MeasurementBuilder) (creation : MeasurementCreation) (node_id : String) :
    (builder.add render now creation node_id data_value).1.series_count =
      if (builder.add render now creation node_id data_value).2 then builder.series_count + 1
      else builder.series_count := by
  unfold MeasurementBuilder.add
  split <;> rfl

theorem Counted.congr {next : Publisher} (h : Counted publisher) (hbatch : next.batch = publisher.batch)
    (hpending : next.pending_series = publisher.pending_series) : Counted next := by
  rw [Counted, hbatch, hpending]
  exact h

/-- A publisher counts a series when its message does. -/
theorem Counted.acceptMeasurement (h : Counted publisher) (creation : MeasurementCreation) :
    Counted (publisher.acceptMeasurement render now creation node data_value) := by
  unfold Publisher.acceptMeasurement
  cases measurement_type creation with
  | none => exact h
  | some type =>
    have hadded := series_count_add render now data_value ((publisher.batch.get type).getD .new) creation
      node.node_id_str
    have hsum := publisher.batch.sum_values_insert (·.series_count) type
      (((publisher.batch.get type).getD .new).add render now creation node.node_id_str data_value).1
    have hold : ((publisher.batch.get type).map (·.series_count)).getD 0 =
        ((publisher.batch.get type).getD .new).series_count := by
      cases publisher.batch.get type <;> rfl
    rw [hold, hadded, ← h] at hsum
    dsimp only [Counted]
    split
    · rename_i hnumber
      rw [if_pos hnumber] at hsum
      omega
    · rename_i hnumber
      rw [if_neg hnumber] at hsum
      omega

theorem Counted.acceptAction (h : Counted publisher) (action : Action) :
    Counted (publisher.acceptAction render now node data_value action).1 := by
  cases action with
  | Measurement creation => exact h.acceptMeasurement creation
  | Event creation =>
    have hframe := acceptEvent_frame publisher render now node data_value creation
    have hbatch := congrArg Publisher.batch hframe
    have hpending := congrArg Publisher.pending_series hframe
    exact h.congr hbatch hpending
  | Alarm creation =>
    have hframe := acceptAlarm_frame publisher render now node data_value creation
    have hbatch := congrArg Publisher.batch hframe
    have hpending := congrArg Publisher.pending_series hframe
    exact h.congr hbatch hpending

theorem counted_of_empty (hbatch : publisher.batch = .empty) (hpending : publisher.pending_series = 0) :
    Counted publisher := by
  rw [Counted, hbatch, hpending]
  rfl

/-- A publisher with no batch counts nothing. -/
theorem Counted.pending_eq_zero (h : Counted publisher) (hbatch : publisher.batch = .empty) :
    publisher.pending_series = 0 := by
  rw [Counted, hbatch] at h
  exact h

/-- There is nothing to flush where there is no batch. -/
theorem Counted.flush_empty (h : Counted publisher) (hbatch : publisher.batch = .empty) :
    publisher.flush render now = (publisher, []) := by
  have hpending := h.pending_eq_zero hbatch
  cases publisher
  simp only at hbatch hpending
  subst hbatch hpending
  rfl

end Publisher

section Origin

/-- The server created the item that was requested for the target, under the handle. -/
def Granted (applied : List AppliedDeviceType) (results : List (Except StatusCode Nat)) (handle : Nat)
    (target : SubscribedTarget) : Prop :=
  ∃ i : Nat, (targetsOf applied)[i]? = some target ∧ results[i]? = some (.ok handle)

/-- A route is one that the server granted. -/
theorem granted_of_get {applied : List AppliedDeviceType} {results : List (Except StatusCode Nat)} {handle : Nat}
    {target : SubscribedTarget} (h : (routesOf ((targetsOf applied).zip results)).get handle = some target) :
    Granted applied results handle target := by
  have hmem := (of_get_foldl_addRoute h).resolve_left (by simp)
  obtain ⟨i, hi⟩ := List.mem_iff_getElem?.mp hmem
  exact ⟨i, List.getElem?_zip_eq_some.mp hi⟩

def LoopLabel.change : LoopLabel → Option DataChange
  | .notified change => some change
  | _ => none

/-- The notifications of a run, in the order in which they are handled. -/
def changesOf (labels : List LoopLabel) : List DataChange := labels.filterMap LoopLabel.change

/-- An action that a notification calls for: its value is good, its handle was granted to
an item of the device, and the action is one of the item's own node. -/
inductive Arises (grants : Nat → SubscribedTarget → Prop) (seen : List DataChange) (entity : EntityTopicId) :
    ResolvedNode → DataValue → Action → Prop
  | intro {change : DataChange} {target : SubscribedTarget} {action : Action} (hseen : change ∈ seen)
      (hgrant : grants change.client_handle target) (hentity : target.entity = entity)
      (hgood : is_bad change.value = false) (haction : action ∈ target.node.actions) :
    Arises grants seen entity target.node change.value action

/-- A contribution to the measurements of a type that a notification calls for. -/
inductive Contributed (grants : Nat → SubscribedTarget → Prop) (seen : List DataChange) (entity : EntityTopicId)
    (type : String) : Contribution → Prop
  | intro {node : ResolvedNode} {data_value : DataValue} {action : Action} {now : DateTime}
      {contribution : Contribution} (harises : Arises grants seen entity node data_value action)
      (hcontribution : contributionOf type node data_value now action = some contribution) :
    Contributed grants seen entity type contribution

/-- A message of a device that is made of notifications for its own items, and nothing else. -/
inductive StemsFrom (render : Rendering) (grants : Nat → SubscribedTarget → Prop) (seen : List DataChange)
    (entity : EntityTopicId) : Publish → Prop
  | announced {node : ResolvedNode} {data_value : DataValue} {action : Action} {message : Publish}
      (harises : Arises grants seen entity node data_value action)
      (hannounces : Announces render entity node data_value action message) :
    StemsFrom render grants seen entity message
  | measured {type : String} {contributions : List Contribution} {now : DateTime} {body : json.Value}
      (hcontributed : ∀ contribution ∈ contributions, Contributed grants seen entity type contribution)
      (hbuild : (builderOf render contributions).build render now = some body) :
    StemsFrom render grants seen entity (TedgeMqtt.publish_measurement entity type body)

variable {render : Rendering} {grants : Nat → SubscribedTarget → Prop} {seen seen' : List DataChange}
  {entity : EntityTopicId}

theorem Arises.mono {node : ResolvedNode} {data_value : DataValue} {action : Action}
    (h : Arises grants seen entity node data_value action) (hsub : seen ⊆ seen') :
    Arises grants seen' entity node data_value action := by
  obtain ⟨hseen, hgrant, hentity, hgood, haction⟩ := h
  exact ⟨hsub hseen, hgrant, hentity, hgood, haction⟩

theorem Contributed.mono {type : String} {contribution : Contribution}
    (h : Contributed grants seen entity type contribution) (hsub : seen ⊆ seen') :
    Contributed grants seen' entity type contribution := by
  obtain ⟨harises, hcontribution⟩ := h
  exact ⟨harises.mono hsub, hcontribution⟩

theorem StemsFrom.mono {message : Publish} (h : StemsFrom render grants seen entity message) (hsub : seen ⊆ seen') :
    StemsFrom render grants seen' entity message := by
  cases h with
  | announced harises hannounces => exact .announced (harises.mono hsub) hannounces
  | measured hcontributed hbuild => exact .measured (fun c hmem => (hcontributed c hmem).mono hsub) hbuild

/-- The batch of a publisher is made of notifications for items of its device. -/
def OwnBatch (render : Rendering) (grants : Nat → SubscribedTarget → Prop) (seen : List DataChange)
    (publisher : Publisher) : Prop :=
  ∃ contributed, BatchOf render publisher contributed ∧
    ∀ type, ∀ contribution ∈ contributed type, Contributed grants seen publisher.entity type contribution

variable {publisher : Publisher}

theorem ownBatch_of_empty (hbatch : publisher.batch = .empty) : OwnBatch render grants seen publisher :=
  ⟨_, batchOf_empty hbatch, fun _ _ hmem => absurd hmem List.not_mem_nil⟩

theorem OwnBatch.mono (h : OwnBatch render grants seen publisher) (hsub : seen ⊆ seen') :
    OwnBatch render grants seen' publisher := by
  obtain ⟨contributed, hbatch, hown⟩ := h
  exact ⟨contributed, hbatch, fun type contribution hmem => (hown type contribution hmem).mono hsub⟩

theorem OwnBatch.acceptAction (h : OwnBatch render grants seen publisher) {node : ResolvedNode}
    {data_value : DataValue} {action : Action} (harises : Arises grants seen publisher.entity node data_value action)
    (now : DateTime) : OwnBatch render grants seen (publisher.acceptAction render now node data_value action).1 := by
  obtain ⟨contributed, hbatch, hown⟩ := h
  refine ⟨_, hbatch.acceptAction node data_value now action, fun type contribution hmem => ?_⟩
  rw [(acceptAction_confined render now node data_value action).entity]
  rcases List.mem_append.mp hmem with hbefore | hadded
  · exact hown type contribution hbefore
  · exact ⟨harises, Option.mem_toList.mp hadded⟩

/-- What is flushed is made of what was batched. -/
theorem OwnBatch.stemsFrom (h : OwnBatch render grants seen publisher) {now : DateTime} {message : Publish}
    (hmem : message ∈ (publisher.flush render now).2) : StemsFrom render grants seen publisher.entity message := by
  obtain ⟨contributed, hbatch, hown⟩ := h
  obtain ⟨⟨type, builder⟩, hentry, hbuilt⟩ := List.mem_filterMap.mp hmem
  obtain ⟨body, hbuild, rfl⟩ := Option.map_eq_some_iff.mp hbuilt
  have hget := hbatch type
  rw [(publisher.batch.get_eq_some_iff_mem).mpr hentry] at hget
  split at hget
  · cases hget
  · cases hget
    exact .measured (hown type) hbuild

end Origin

section Provenance

/-- The messages that wait to be handed over. -/
def LoopPhase.inHand : LoopPhase → List Publish
  | .accepting _ _ _ _ messages => messages
  | .flushing _ messages _ => messages
  | _ => []

/-- A publisher accepts what was notified for an item of its device. -/
def OwnValue (grants : Nat → SubscribedTarget → Prop) (seen : List DataChange) (state : LoopState) : Prop :=
  match state.phase with
  | .accepting index node data_value actions _ => ∀ publisher, state.publishers[index]? = some publisher →
    ∀ action ∈ actions, Arises grants seen publisher.entity node data_value action
  | _ => True

/-- Everything in a batch, in hand and handed over stems from the notifications seen. -/
structure Traced (render : Rendering) (grants : Nat → SubscribedTarget → Prop) (seen : List DataChange)
    (state : LoopState) : Prop where
  batches : ∀ publisher ∈ state.publishers, OwnBatch render grants seen publisher
  value : OwnValue grants seen state
  inHand : ∀ message ∈ state.phase.inHand, ∃ entity, StemsFrom render grants seen entity message
  handed : ∀ message, .handed message ∈ state.log → ∃ entity, StemsFrom render grants seen entity message

variable {render : Rendering} {config : SubscriptionConfig} {routes : Routes}
  {grants : Nat → SubscribedTarget → Prop} {seen seen' : List DataChange} {state next : LoopState}

theorem Traced.mono (h : Traced render grants seen state) (hsub : seen ⊆ seen') :
    Traced render grants seen' state where
  batches := fun publisher hmem => (h.batches publisher hmem).mono hsub
  value := by
    have hvalue := h.value
    unfold OwnValue at hvalue ⊢
    split
    · rename_i hphase
      rw [hphase] at hvalue
      exact fun publisher hpublisher action hmem => (hvalue publisher hpublisher action hmem).mono hsub
    · trivial
  inHand := fun message hmem => (h.inHand message hmem).imp fun _ hstems => hstems.mono hsub
  handed := fun message hmem => (h.handed message hmem).imp fun _ hstems => hstems.mono hsub

/-- Going on with no message in hand. -/
theorem Traced.setPhase (h : Traced render grants seen state) {phase : LoopPhase} (hnone : phase.inHand = [])
    (hvalue : OwnValue grants seen { state with phase }) : Traced render grants seen { state with phase } where
  batches := h.batches
  value := hvalue
  inHand := by
    intro message hmem
    rw [hnone] at hmem
    cases hmem
  handed := h.handed

theorem Traced.startFlush (h : Traced render grants seen state) (after : FlushEnd) :
    Traced render grants seen (startFlush state after) := h.setPhase rfl trivial

theorem Traced.checkPending (h : Traced render grants seen state) :
    Traced render grants seen (checkPending config state) := by
  unfold gateway.server_task.checkPending
  split
  · exact h.startFlush _
  · exact h.setPhase rfl trivial

/-- A notification is put before the publisher of its item's device, with its item's node. -/
theorem Traced.onNotification (h : Traced render grants seen state)
    (hroutes : ∀ handle target, routes.get handle = some target → grants handle target) {change : DataChange}
    (hseen : change ∈ seen) : Traced render grants seen (onNotification config routes state change) := by
  unfold gateway.server_task.onNotification
  split
  · exact h.checkPending
  · rename_i target hget
    split
    · exact h.checkPending
    · rename_i index hindex
      refine h.setPhase rfl fun publisher hpublisher action hmem => ?_
      have hentity : publisher.entity = target.entity := by
        obtain ⟨hbound, hfound, -⟩ := List.findIdx?_eq_some_iff_getElem.mp hindex
        rw [List.getElem?_eq_getElem hbound] at hpublisher
        cases hpublisher
        exact of_decide_eq_true hfound
      cases hbad : is_bad change.value with
      | true =>
        rw [if_pos hbad] at hmem
        cases hmem
      | false =>
        rw [if_neg (by simp [hbad])] at hmem
        exact ⟨hseen, hroutes _ _ hget, hentity.symm, hbad, hmem⟩

/-- Handing over the first message in hand. -/
theorem Traced.hand (h : Traced render grants seen state) {message : Publish} {messages : List Publish}
    (hphase : state.phase.inHand = message :: messages) {phase : LoopPhase} (hrest : phase.inHand = messages)
    (hvalue : OwnValue grants seen { state with phase }) :
    Traced render grants seen { state with phase, log := .handed message :: state.log } where
  batches := h.batches
  value := hvalue
  inHand := by
    intro other hmem
    rw [hrest] at hmem
    refine h.inHand other ?_
    rw [hphase]
    exact List.mem_cons_of_mem _ hmem
  handed := by
    intro other hmem
    rcases List.mem_cons.mp hmem with heq | hmem
    · cases heq
      refine h.inHand message ?_
      rw [hphase]
      exact List.mem_cons_self
    · exact h.handed other hmem

/-- What a publisher makes of an action stems from the notification that called for it. -/
theorem Traced.accept (h : Traced render grants seen state) {index : Nat} {node : ResolvedNode} {data_value : DataValue}
    {action : Action} {actions : List Action} {publisher : Publisher} (now : DateTime)
    (hphase : state.phase = .accepting index node data_value (action :: actions) [])
    (hpublisher : state.publishers[index]? = some publisher) :
    Traced render grants seen { state with
      phase := .accepting index node data_value actions
        (publisher.acceptAction render now node data_value action).2
      publishers := state.publishers.set index (publisher.acceptAction render now node data_value action).1
      log := ((acceptedSeries publisher node data_value action).map fun series =>
        LogEvent.accepted series (state.owner == .steady)).toList ++ state.log } := by
  have hvalue := h.value
  simp only [OwnValue, hphase] at hvalue
  have harises := hvalue publisher hpublisher
  have hconfined : Confined publisher (publisher.acceptAction render now node data_value action) :=
    acceptAction_confined render now node data_value action
  refine ⟨fun other hmem => ?_, fun other hother => ?_, fun message hmem => ?_, fun message hmem => ?_⟩
  · rcases List.mem_or_eq_of_mem_set hmem with hmem | rfl
    · exact h.batches other hmem
    · have hbatch := h.batches publisher (List.mem_of_getElem? hpublisher)
      exact hbatch.acceptAction (harises action List.mem_cons_self) now
  · have hbound : index < state.publishers.length := (List.getElem?_eq_some_iff.mp hpublisher).1
    rw [List.getElem?_set_self hbound] at hother
    cases hother
    rw [hconfined.entity]
    exact fun other_action hmem => harises other_action (List.mem_cons_of_mem _ hmem)
  · exact ⟨_, .announced (harises action List.mem_cons_self) (announces_of_acceptAction hmem)⟩
  · refine h.handed message ((List.mem_append.mp hmem).resolve_left fun hseries => ?_)
    obtain ⟨series, -, heq⟩ := Option.map_eq_some_iff.mp (Option.mem_toList.mp hseries)
    cases heq

/-- What is flushed stems from the notifications that were batched. -/
theorem Traced.flushNext (h : Traced render grants seen state) {index : Nat} {after : FlushEnd} {publisher : Publisher}
    (now : DateTime) (hpublisher : state.publishers[index]? = some publisher) :
    Traced render grants seen { state with
      phase := .flushing (index + 1) (publisher.flush render now).2 after
      publishers := state.publishers.set index (publisher.flush render now).1 } where
  batches := by
    intro other hmem
    rcases List.mem_or_eq_of_mem_set hmem with hmem | rfl
    · exact h.batches other hmem
    · exact ownBatch_of_empty rfl
  value := trivial
  inHand := fun message hmem => ⟨_, (h.batches publisher (List.mem_of_getElem? hpublisher)).stemsFrom hmem⟩
  handed := h.handed

theorem Traced.advance (h : Traced render grants seen state) {now : DateTime}
    (hmove : AdvanceMove render config now state next) : Traced render grants seen next := by
  cases hmove with
  | handAccepted hphase =>
    have hvalue := h.value
    simp only [OwnValue, hphase] at hvalue
    exact h.hand (by rw [hphase]; rfl) rfl hvalue
  | checkPending hphase => exact h.checkPending
  | accept hphase hpublisher => exact h.accept now hphase hpublisher
  | handFlushed hphase => exact h.hand (by rw [hphase]; rfl) rfl trivial
  | flushNext hphase hpublisher => exact h.flushNext now hpublisher
  | endFlush hphase hend hnext =>
    rcases hnext with rfl | rfl
    · exact h.setPhase rfl trivial
    · exact h.setPhase rfl trivial

theorem Traced.step (h : Traced render grants seen state)
    (hroutes : ∀ handle target, routes.get handle = some target → grants handle target) {label : LoopLabel}
    (hseen : ∀ change, label = .notified change → change ∈ seen)
    (hstep : loopStep render config routes state label = some next) : Traced render grants seen next := by
  rcases loopStep_cases hstep with ⟨owner, polled, rfl, -⟩ | ⟨-, rfl⟩ | ⟨-, -, hselect⟩ | ⟨now, -, hadvance⟩
  · exact ⟨h.batches, h.value, h.inHand, h.handed⟩
  · exact h.setPhase rfl trivial
  · rcases hselect with ⟨after, rfl⟩ | ⟨change, hlabel, rfl⟩
    · exact h.startFlush after
    · exact h.onNotification hroutes (hseen change hlabel)
  · exact h.advance hadvance

theorem traced_start (h : (subscription_loop render config routes).start state) :
    Traced render grants [] state := by
  obtain ⟨-, -, hphase, ⟨-, hfresh, -⟩, hlog⟩ := h
  refine ⟨fun publisher hmem => ?_, by simp [OwnValue, hphase], by simp [hphase, LoopPhase.inHand], by simp [hlog]⟩
  rw [hfresh publisher hmem]
  exact ownBatch_of_empty rfl

/-- Whatever a run hands over stems from its notifications. -/
theorem traced_of_run (hroutes : ∀ handle target, routes.get handle = some target → grants handle target)
    {first final : LoopState} {labels : List LoopLabel} (hstart : (subscription_loop render config routes).start first)
    (hrun : (subscription_loop render config routes).exec first labels = some final) :
    Traced render grants (changesOf labels) final := by
  have hfirst : Traced render grants (changesOf []) first := traced_start hstart
  refine Machine.exec_history (fun labels state => Traced render grants (changesOf labels) state)
    (fun before state label next h hstep => ?_) hfirst hrun
  have happend : changesOf (before ++ [label]) = changesOf before ++ changesOf [label] := List.filterMap_append
  rw [happend]
  refine (h.mono (List.subset_append_left _ _)).step hroutes (fun change hlabel => ?_) hstep
  rw [hlabel]
  exact List.mem_append_right _ (List.mem_singleton_self change)

end Provenance

section Pending

def pendingTotal (state : LoopState) : Nat := (state.publishers.map (·.pending_series)).sum

/-- Publishers count what they batch, and a loop that waits in its select has nothing
batched or too little to flush. -/
structure Bounded (config : SubscriptionConfig) (state : LoopState) : Prop extends LoopInv state where
  counted : ∀ publisher ∈ state.publishers, Counted publisher
  settled : state.phase = .selecting →
    (∀ publisher ∈ state.publishers, publisher.batch = .empty) ∨ pendingTotal state < config.flush_max_series

variable {render : Rendering} {config : SubscriptionConfig} {routes : Routes} {state next : LoopState}

theorem Bounded.checkPending (h : Bounded config state) (hinv : LoopInv (checkPending config state)) :
    Bounded config (checkPending config state) := by
  refine ⟨hinv, ?_, ?_⟩
  · unfold gateway.server_task.checkPending
    split
    · exact h.counted
    · exact h.counted
  · unfold gateway.server_task.checkPending
    split
    · intro hphase
      cases hphase
    · rename_i hsmall
      exact fun _ => Or.inr (Nat.not_le.mp hsmall)

theorem Bounded.onNotification (h : Bounded config state) {change : DataChange}
    (hinv : LoopInv (onNotification config routes state change)) :
    Bounded config (onNotification config routes state change) := by
  revert hinv
  unfold gateway.server_task.onNotification
  split
  · exact h.checkPending
  · split
    · exact h.checkPending
    · exact fun hinv => ⟨hinv, h.counted, fun hphase => by cases hphase⟩

theorem counted_set (h : Bounded config state) {index : Nat} {publisher : Publisher} (hcounted : Counted publisher) :
    ∀ other ∈ state.publishers.set index publisher, Counted other := by
  intro other hmem
  rcases List.mem_or_eq_of_mem_set hmem with hmem | rfl
  · exact h.counted other hmem
  · exact hcounted

theorem Bounded.advance (h : Bounded config state) {now : DateTime}
    (hmove : AdvanceMove render config now state next) : Bounded config next := by
  have hinv := h.toLoopInv.advance hmove
  cases hmove with
  | handAccepted hphase => exact ⟨hinv, h.counted, fun hselecting => by cases hselecting⟩
  | checkPending hphase => exact h.checkPending hinv
  | accept hphase hpublisher =>
    have hcounted := h.counted _ (List.mem_of_getElem? hpublisher)
    exact ⟨hinv, counted_set h (hcounted.acceptAction _), fun hselecting => by cases hselecting⟩
  | handFlushed hphase => exact ⟨hinv, h.counted, fun hselecting => by cases hselecting⟩
  | flushNext hphase hpublisher =>
    exact ⟨hinv, counted_set h (counted_of_empty rfl rfl), fun hselecting => by cases hselecting⟩
  | endFlush hphase hend hnext => exact ⟨hinv, h.counted, fun _ => Or.inl (h.all_flushed hphase hend)⟩

theorem Bounded.step (h : Bounded config state) {label : LoopLabel}
    (hstep : loopStep render config routes state label = some next) : Bounded config next := by
  have hinv := h.toLoopInv.step hstep
  rcases loopStep_cases hstep with ⟨owner, polled, rfl, -⟩ | ⟨-, rfl⟩ | ⟨-, -, hselect⟩ | ⟨now, -, hadvance⟩
  · exact ⟨hinv, h.counted, h.settled⟩
  · exact ⟨hinv, h.counted, fun hphase => by cases hphase⟩
  · rcases hselect with ⟨after, rfl⟩ | ⟨change, -, rfl⟩
    · exact ⟨hinv, h.counted, fun hphase => by cases hphase⟩
    · exact h.onNotification hinv
  · exact h.advance hadvance

theorem bounded_start (h : (subscription_loop render config routes).start state) : Bounded config state := by
  have hinv := loopInv_start h
  obtain ⟨-, -, -, ⟨-, hfresh, -⟩, -⟩ := h
  refine ⟨hinv, fun publisher hmem => ?_, fun _ => Or.inl fun publisher hmem => ?_⟩
  · rw [hfresh publisher hmem]
    exact counted_of_empty rfl rfl
  · rw [hfresh publisher hmem]
    rfl

theorem pendingTotal_eq_zero (h : Bounded config state)
    (hempty : ∀ publisher ∈ state.publishers, publisher.batch = .empty) : pendingTotal state = 0 := by
  refine List.sum_eq_zero_iff_forall_eq_nat.mpr fun pending hmem => ?_
  obtain ⟨publisher, hpublisher, rfl⟩ := List.mem_map.mp hmem
  exact (h.counted publisher hpublisher).pending_eq_zero (hempty publisher hpublisher)

end Pending

section Unknown

/-- The loop waits in its select, has ended, or flushes publishers that have nothing. -/
def Resting (state : LoopState) : Prop :=
  match state.phase with
  | .accepting _ _ _ _ _ => False
  | .flushing _ messages _ =>
    messages = [] ∧ ∀ publisher ∈ state.publishers, Counted publisher ∧ publisher.batch = .empty
  | _ => True

/-- Since some point the publishers are left alone and nothing is handed over. -/
structure Unmoved (publishers : List Publisher) (log : List LogEvent) (state : LoopState) : Prop where
  kept : state.publishers = publishers
  silent : state.log = log
  resting : Resting state

variable {render : Rendering} {config : SubscriptionConfig} {routes : Routes} {state next : LoopState}
  {publishers : List Publisher} {log : List LogEvent}

/-- Looking at the batches after an unknown notification finds them too small, or finds
none at all. -/
theorem unmoved_checkPending (h : Bounded config state) (hphase : state.phase = .selecting) :
    Unmoved state.publishers state.log (checkPending config state) := by
  unfold gateway.server_task.checkPending
  split
  · rename_i hlarge
    have hempty := (h.settled hphase).resolve_right (Nat.not_lt.mpr hlarge)
    exact ⟨rfl, rfl, rfl, fun publisher hmem => ⟨h.counted publisher hmem, hempty publisher hmem⟩⟩
  · exact ⟨rfl, rfl, trivial⟩

theorem Unmoved.advance (h : Unmoved publishers log state) {now : DateTime}
    (hmove : AdvanceMove render config now state next) : Unmoved publishers log next := by
  have hresting := h.resting
  unfold Resting at hresting
  cases hmove with
  | handAccepted hphase =>
    rw [hphase] at hresting
    exact hresting.elim
  | checkPending hphase =>
    rw [hphase] at hresting
    exact hresting.elim
  | accept hphase hpublisher =>
    rw [hphase] at hresting
    exact hresting.elim
  | handFlushed hphase =>
    rw [hphase] at hresting
    cases hresting.1
  | @flushNext index after publisher hphase hpublisher =>
    rw [hphase] at hresting
    obtain ⟨hbound, hget⟩ := List.getElem?_eq_some_iff.mp hpublisher
    obtain ⟨hcounted, hempty⟩ := hresting.2 publisher (List.mem_of_getElem? hpublisher)
    have hsame : state.publishers.set index publisher = state.publishers := by
      rw [← hget]
      exact List.set_getElem_self hbound
    rw [hcounted.flush_empty hempty]
    dsimp only
    rw [hsame]
    exact ⟨h.kept, h.silent, rfl, hresting.2⟩
  | endFlush hphase hend hnext =>
    rcases hnext with rfl | rfl
    · exact ⟨h.kept, h.silent, trivial⟩
    · exact ⟨h.kept, h.silent, trivial⟩

theorem Unmoved.step (h : Unmoved publishers log state) {label : LoopLabel} (hbranch : label.isBranch = false)
    (hstep : loopStep render config routes state label = some next) : Unmoved publishers log next := by
  rcases loopStep_cases hstep with ⟨owner, polled, rfl, -⟩ | ⟨-, rfl⟩ | ⟨hother, -, -⟩ | ⟨now, -, hadvance⟩
  · exact ⟨h.kept, h.silent, h.resting⟩
  · exact ⟨h.kept, h.silent, trivial⟩
  · rw [hbranch] at hother
    cases hother
  · exact h.advance hadvance

/-- From a notification on, until the next branch of the select, nothing is handed over
and the publishers are as before it. -/
def Ignored (render : Rendering) (config : SubscriptionConfig) (routes : Routes) (state : LoopState)
    (change : DataChange) : Prop :=
  ∀ next rest final, loopStep render config routes state (.notified change) = some next →
    (subscription_loop render config routes).exec next rest = some final →
    (∀ label ∈ rest, label.isBranch = false) → final.publishers = state.publishers ∧ final.log = state.log

theorem ignored_of_get_eq_none (h : Bounded config state) {change : DataChange}
    (hget : routes.get change.client_handle = none) : Ignored render config routes state change := by
  intro next rest final hstep hrun hrest
  obtain ⟨hphase, rfl⟩ := select_eq_some hstep
  have hfirst : Unmoved state.publishers state.log (onNotification config routes state change) := by
    unfold onNotification
    rw [hget]
    exact unmoved_checkPending h hphase
  have hguard : (subscription_loop render config routes).Guarded (fun _ label => label.isBranch = false)
      (onNotification config routes state change) rest :=
    Machine.guarded_of_forall fun label hmem _ => hrest label hmem
  have hend := Machine.exec_invariant (Unmoved state.publishers state.log)
    (fun _ _ _ hbefore hbranch hmove => hbefore.step hbranch hmove) hguard hfirst hrun
  exact ⟨hend.kept, hend.silent⟩

end Unknown

section Run

variable {render : Rendering} {grants : Nat → SubscribedTarget → Prop} {seen : List DataChange}
  {entity : EntityTopicId}

theorem Arises.granted {node : ResolvedNode} {data_value : DataValue} {action : Action}
    (h : Arises grants seen entity node data_value action) :
    ∃ handle target, grants handle target ∧ target.entity = entity := by
  obtain ⟨-, hgrant, hentity, -, -⟩ := h
  exact ⟨_, _, hgrant, hentity⟩

/-- There is an item of the device a message is made for: no message is made of nothing. -/
theorem StemsFrom.granted {message : Publish} (h : StemsFrom render grants seen entity message) :
    ∃ handle target, grants handle target ∧ target.entity = entity := by
  cases h with
  | announced harises _ => exact harises.granted
  | @measured type contributions now body hcontributed hbuild =>
    cases contributions with
    | nil => cases hbuild
    | cons contribution rest =>
      obtain ⟨harises, -⟩ := hcontributed contribution List.mem_cons_self
      exact harises.granted

theorem StemsFrom.onChannel {message : Publish} (h : StemsFrom render grants seen entity message) :
    OnChannel entity message := by
  cases h with
  | announced _ hannounces => exact hannounces.onChannel
  | measured _ _ => exact ⟨_, rfl⟩

/-- The devices of a server have topics of their own. -/
theorem entity_of_onChannel {server : ServerConfig} {mappings : List ResolvedMapping} {device other : AppliedDeviceType}
    (hdevice : device ∈ mappings.map (AppliedDeviceType.new server))
    (hother : other ∈ mappings.map (AppliedDeviceType.new server)) {message : Publish}
    (h : OnChannel device.entity message) (h' : OnChannel other.entity message) : device.entity = other.entity := by
  obtain ⟨mapping, -, rfl⟩ := List.mem_map.mp hdevice
  obtain ⟨mapping', -, rfl⟩ := List.mem_map.mp hother
  obtain ⟨channel, htopic⟩ := h
  obtain ⟨channel', htopic'⟩ := h'
  have hsame := htopic.symm.trans htopic'
  rw [EntityTopicId.channel_topic_eq, EntityTopicId.channel_topic_eq] at hsame
  have hclean := deviceEntity_no_separator server
  have hid := EntityTopicId.child_prefix_inj (hclean mapping.device_type_id) (hclean mapping'.device_type_id) hsame
  exact congrArg EntityTopicId.child_device hid

/-- What holds after a run of a loop whose monitored items were requested for the targets
of some devices and created with these results. -/
structure WellRouted (render : Rendering) (config : SubscriptionConfig) (applied : List AppliedDeviceType)
    (results : List (Except StatusCode Nat)) (labels : List LoopLabel) (state : LoopState) : Prop where
  /-- A message is made for a device, of notifications for the items of that device. -/
  own : ∀ message, .handed message ∈ state.log →
    ∃ entity, StemsFrom render (Granted applied results) (changesOf labels) entity message
  /-- The devices that the gateway registers for a server are told apart by the topic. -/
  own_topic : ∀ (server : ServerConfig) (mappings : List ResolvedMapping),
    applied = mappings.map (AppliedDeviceType.new server) → ∀ message, .handed message ∈ state.log →
      ∀ device ∈ applied, OnChannel device.entity message → StemsFrom render (Granted applied results)
        (changesOf labels) device.entity message
  ignored : ∀ change, (∀ target, ¬ Granted applied results change.client_handle target) →
    Ignored render config (routesOf ((targetsOf applied).zip results)) state change
  counted : ∀ publisher ∈ state.publishers, Counted publisher
  bounded : state.phase = .selecting → pendingTotal state = 0 ∨ pendingTotal state < config.flush_max_series

variable (render) in
/-- Notifications reach their own device only, and whenever the loop waits in its select
there is nothing pending or too little to flush. -/
theorem notifications_stay_with_their_item :
    ∀ config applied results start labels final,
      (subscription_loop render config (routesOf ((targetsOf applied).zip results))).start start →
      (subscription_loop render config (routesOf ((targetsOf applied).zip results))).exec start labels = some final →
      WellRouted render config applied results labels final := by
  intro config applied results start labels final hstart hrun
  have htraced : Traced render (Granted applied results) (changesOf labels) final :=
    traced_of_run (fun handle target hget => granted_of_get hget) hstart hrun
  have hbounded : Bounded config final :=
    Machine.exec_preserves (Bounded config) (fun _ _ _ h hstep => h.step hstep) (bounded_start hstart) hrun
  refine ⟨htraced.handed, ?_, ?_, hbounded.counted, ?_⟩
  · intro server mappings hserver message hhanded device hdevice hchannel
    obtain ⟨entity, hstems⟩ := htraced.handed message hhanded
    obtain ⟨handle, target, ⟨i, htarget, -⟩, rfl⟩ := hstems.granted
    obtain ⟨other, hother, hmem⟩ := List.mem_flatMap.mp (List.mem_of_getElem? htarget)
    obtain ⟨node, -, rfl⟩ := List.mem_map.mp hmem
    rw [hserver] at hdevice hother
    have hentity : other.entity = device.entity := entity_of_onChannel hother hdevice hstems.onChannel hchannel
    rwa [← hentity]
  · intro change hunknown
    refine ignored_of_get_eq_none hbounded (Option.eq_none_iff_forall_ne_some.mpr fun target hget => ?_)
    exact hunknown target (granted_of_get hget)
  · intro hphase
    exact (hbounded.settled hphase).imp_left (pendingTotal_eq_zero hbounded)

end Run

section Sample

def valveEntity : EntityTopicId := .child_device "plc-valve"

def levelNode : ResolvedNode := { flowNode with node_id := ⟨2, .Numeric 2⟩, node_id_str := "ns=2;i=2" }

/-- Both device types map the same node, and the pump maps another one. -/
def pumpAndValve : List AppliedDeviceType := [
  ⟨pumpEntity, "pump", ⟨"pump", "Pump", "i=85", [flowNode, levelNode]⟩⟩,
  ⟨valveEntity, "valve", ⟨"valve", "Valve", "i=85", [flowNode]⟩⟩]

/-- The second item of the pump is refused. -/
def createdItems : List (Except StatusCode Nat) := [.ok 7, .error 2150957056, .ok 9]

def pumpAndValveLoop : LoopState :=
  ⟨.steady, false, .selecting, [.new pumpEntity false, .new valveEntity false], []⟩

def pumpAndValveMachine : Machine LoopState LoopLabel :=
  subscription_loop ⟨fun _ => "", fun _ => "", fun _ => "", id⟩ .default
    (routesOf ((targetsOf pumpAndValve).zip createdItems))

theorem pumpAndValveLoop_start : pumpAndValveMachine.start pumpAndValveLoop := by
  refine ⟨rfl, rfl, rfl, ⟨by decide, by decide, fun entity => ?_⟩, rfl⟩
  have hentities : (routesOf ((targetsOf pumpAndValve).zip createdItems)).values.map (·.entity) =
      [pumpEntity, valveEntity] := by decide
  rw [← List.mem_map (f := SubscribedTarget.entity), hentities]
  rfl

/-- A value of the valve, a value under an unknown handle, and a flush. -/
def valveRun : List LoopLabel :=
  [.poll, .notified ⟨9, flowChange.value⟩, .advance 0, .advance 0, .notified ⟨8, flowChange.value⟩, .tick,
    .advance 0, .advance 0, .advance 0]

theorem notifications_stay_with_their_item_of_valve :
    ∃ final, pumpAndValveMachine.exec pumpAndValveLoop valveRun = some final ∧
      (∃ message, .handed message ∈ final.log ∧ message.topic = valveEntity.channel_topic "m/pump") ∧
      WellRouted ⟨fun _ => "", fun _ => "", fun _ => "", id⟩ .default pumpAndValve createdItems valveRun final :=
  ⟨_, rfl, ⟨_, List.mem_cons_self, rfl⟩, notifications_stay_with_their_item _ .default pumpAndValve createdItems
    pumpAndValveLoop valveRun _ pumpAndValveLoop_start rfl⟩

end Sample

end gateway.server_task
