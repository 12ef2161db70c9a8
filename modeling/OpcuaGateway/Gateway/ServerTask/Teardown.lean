import OpcuaGateway.Gateway.Publish.Topics
import OpcuaGateway.Gateway.ServerTask.SubscriptionLoop

open transition ordered_map tedge.topic tedge.mqtt mapping.value mapping.payload mapping.resolve
  gateway.config gateway.publish

namespace gateway.server_task

/-- A message has the series: it goes to the topic of the series, and its body has
the series under its fragment. -/
def Carries (message : Publish) (series : Series) : Prop :=
  message.topic = series.topic ∧ ∃ body, message.payload = .json body ∧
    ((body.get series.fragment).bind (json.Value.get series.name)).isSome

/-- A series was accepted and no message handed since has it. -/
def Outstanding (series : Series) (early : Bool) : List LogEvent → Prop
  | [] => False
  | .accepted other other_early :: older => (other = series ∧ other_early = early) ∨ Outstanding series early older
  | .handed message :: older => ¬ Carries message series ∧ Outstanding series early older

/-- Every series accepted before the generation was cancelled has been handed to the
client after it was accepted. The log lists the newest event first. -/
def AllHanded (log : List LogEvent) : Prop :=
  ∀ newer older series, log = newer ++ .accepted series true :: older →
    ∃ message, .handed message ∈ newer ∧ Carries message series

theorem outstanding_iff {series : Series} {early : Bool} {log : List LogEvent} :
    Outstanding series early log ↔ ∃ newer older, log = newer ++ .accepted series early :: older ∧
      ∀ message, .handed message ∈ newer → ¬ Carries message series := by
  induction log with
  | nil =>
    constructor
    · exact False.elim
    · rintro ⟨newer, older, hsplit, -⟩
      simp at hsplit
  | cons event older ih =>
    cases event with
    | accepted other other_early =>
      rw [Outstanding, ih]
      constructor
      · rintro (⟨rfl, rfl⟩ | ⟨newer, rest, rfl, hnone⟩)
        · exact ⟨[], older, rfl, by simp⟩
        · exact ⟨.accepted other other_early :: newer, rest, rfl, by simpa using hnone⟩
      · rintro ⟨newer, rest, hsplit, hnone⟩
        rcases List.cons_eq_append_iff.mp hsplit with ⟨-, hhead⟩ | ⟨newer, rfl, htail⟩
        · cases hhead
          exact Or.inl ⟨rfl, rfl⟩
        · exact Or.inr ⟨newer, rest, htail, fun message hmem => hnone message (List.mem_cons_of_mem _ hmem)⟩
    | handed message =>
      rw [Outstanding, ih]
      constructor
      · rintro ⟨hcarries, newer, rest, rfl, hnone⟩
        refine ⟨.handed message :: newer, rest, rfl, fun other hmem => ?_⟩
        rcases List.mem_cons.mp hmem with heq | hmem
        · cases heq
          exact hcarries
        · exact hnone other hmem
      · rintro ⟨newer, rest, hsplit, hnone⟩
        rcases List.cons_eq_append_iff.mp hsplit with ⟨-, hhead⟩ | ⟨newer, rfl, htail⟩
        · cases hhead
        · exact ⟨hnone message List.mem_cons_self, newer, rest, htail,
            fun other hmem => hnone other (List.mem_cons_of_mem _ hmem)⟩

theorem allHanded_iff {log : List LogEvent} : AllHanded log ↔ ∀ series, ¬ Outstanding series true log := by
  simp only [outstanding_iff, AllHanded]
  constructor
  · rintro hall series ⟨newer, older, hsplit, hnone⟩
    obtain ⟨message, hmem, hcarries⟩ := hall newer older series hsplit
    exact hnone message hmem hcarries
  · intro hnone newer older series hsplit
    by_contra hlost
    refine hnone series ⟨newer, older, hsplit, fun message hmem hcarries => hlost ⟨message, hmem, hcarries⟩⟩

section Batch

/-- The batch of a publisher has the series. -/
def Batched (publisher : Publisher) (series : Series) : Prop :=
  ∃ type builder, series.topic = publisher.entity.channel_topic ("m/" ++ type) ∧
    publisher.batch.get type = some builder ∧ 0 < builder.series_count ∧
    MeasurementBuilder.Holds builder.fragments series.fragment series.name

variable {publisher : Publisher} {series : Series} (render : Rendering) (now : DateTime)

/-- Adding to a builder keeps what it has. -/
theorem add_keeps (builder : MeasurementBuilder) (creation : mapping.model.MeasurementCreation)
    (node_id : String) (data_value : DataValue) (hcount : 0 < builder.series_count)
    (hholds : MeasurementBuilder.Holds builder.fragments series.fragment series.name) :
    0 < (builder.add render now creation node_id data_value).1.series_count ∧
      MeasurementBuilder.Holds (builder.add render now creation node_id data_value).1.fragments
        series.fragment series.name := by
  unfold MeasurementBuilder.add
  split
  · exact ⟨hcount, hholds⟩
  · exact ⟨Nat.succ_pos _, (hholds.insertSeries ..).add_static_fragments _⟩

/-- A value that is a number is in the builder it is added to. -/
theorem add_holds (builder : MeasurementBuilder) (creation : mapping.model.MeasurementCreation)
    (node_id : String) {data_value : DataValue} {number : json.Number}
    (hnumber : MeasurementBuilder.numberOf data_value = some number) :
    0 < (builder.add render now creation node_id data_value).1.series_count ∧
      MeasurementBuilder.Holds (builder.add render now creation node_id data_value).1.fragments
        (creation.fragmentName node_id) (creation.series_name node_id) := by
  unfold MeasurementBuilder.add
  rw [hnumber]
  exact ⟨Nat.succ_pos _, (MeasurementBuilder.holds_insertSeries_self ..).add_static_fragments _⟩

variable (node : ResolvedNode) (data_value : DataValue)

theorem Batched.congr {next : Publisher} (h : Batched publisher series)
    (hentity : next.entity = publisher.entity) (hbatch : next.batch = publisher.batch) : Batched next series := by
  obtain ⟨type, builder, htopic, hget, hrest⟩ := h
  exact ⟨type, builder, by rw [hentity]; exact htopic, by rw [hbatch]; exact hget, hrest⟩

/-- An action takes nothing out of a batch. -/
theorem Batched.acceptAction (h : Batched publisher series) (action : Action) :
    Batched (publisher.acceptAction render now node data_value action).1 series := by
  cases action with
  | Event creation =>
    have hframe := acceptEvent_frame publisher render now node data_value creation
    have hentity := congrArg Publisher.entity hframe
    have hbatch := congrArg Publisher.batch hframe
    exact h.congr hentity hbatch
  | Alarm creation =>
    have hframe := acceptAlarm_frame publisher render now node data_value creation
    have hentity := congrArg Publisher.entity hframe
    have hbatch := congrArg Publisher.batch hframe
    exact h.congr hentity hbatch
  | Measurement creation =>
    obtain ⟨type, builder, htopic, hget, hcount, hholds⟩ := h
    change Batched (publisher.acceptMeasurement render now creation node data_value) series
    unfold Publisher.acceptMeasurement
    split
    · exact ⟨type, builder, htopic, hget, hcount, hholds⟩
    · rename_i other _
      by_cases hsame : type = other
      · subst hsame
        refine ⟨type, _, htopic, OrderedMap.get_insert_self .., ?_⟩
        rw [hget, Option.getD_some]
        exact add_keeps render now builder creation node.node_id_str data_value hcount hholds
      · exact ⟨type, builder, htopic, (OrderedMap.get_insert_of_ne _ hsame _).trans hget, hcount, hholds⟩

/-- A series that is accepted is in the batch afterwards. -/
theorem batched_of_accepted {action : Action}
    (h : acceptedSeries publisher node data_value action = some series) :
    Batched (publisher.acceptAction render now node data_value action).1 series := by
  unfold acceptedSeries at h
  split at h
  · rename_i creation
    split at h
    · rename_i type number htype hnumber
      cases h
      change Batched (publisher.acceptMeasurement render now creation node data_value) _
      unfold Publisher.acceptMeasurement
      rw [htype]
      exact ⟨type, _, rfl, OrderedMap.get_insert_self ..,
        add_holds render now _ creation node.node_id_str hnumber⟩
    · cases h
  · cases h

/-- A flush makes a message of every batch. The timestamp takes the place of a fragment
of its name. -/
theorem Batched.flush (h : Batched publisher series) (hfragment : series.fragment ≠ "time") :
    ∃ message ∈ (publisher.flush render now).2, Carries message series := by
  obtain ⟨type, builder, htopic, hget, hcount, hholds⟩ := h
  obtain ⟨body, hbuild, hbody⟩ := hholds.build render builder now hcount
  refine ⟨TedgeMqtt.publish_measurement publisher.entity type body, ?_, htopic.symm, body, rfl, hbody hfragment⟩
  refine List.mem_filterMap.mpr ⟨(type, builder), publisher.batch.get_eq_some_iff_mem.mp hget, ?_⟩
  simp [hbuild]

theorem not_batched_of_empty (hempty : publisher.batch = .empty) : ¬ Batched publisher series := by
  rintro ⟨type, builder, -, hget, -⟩
  rw [hempty] at hget
  cases hget

end Batch

section Loop

/-- The messages of an unfinished flush. -/
def LoopPhase.inFlight : LoopPhase → List Publish
  | .flushing _ messages _ => messages
  | _ => []

/-- The series waits in a batch or in an unfinished flush. -/
def Waiting (state : LoopState) (series : Series) : Prop :=
  (∃ publisher ∈ state.publishers, Batched publisher series) ∨
    ∃ message ∈ state.phase.inFlight, Carries message series

/-- A flush has emptied the batches of the publishers behind it. -/
def Flushed (state : LoopState) : Prop :=
  match state.phase with
  | .flushing index _ _ => ∀ i publisher, state.publishers[i]? = some publisher → index ≤ i ∨ publisher.batch = .empty
  | .returned => ∀ publisher ∈ state.publishers, publisher.batch = .empty
  | _ => True

/-- While the loop lives, an accepted series that has not been handed is waiting. One
whose fragment has the name of the timestamp is never handed. -/
structure LoopInv (state : LoopState) : Prop where
  waiting : state.phase ≠ .aborted → ∀ series early, series.fragment ≠ "time" →
    Outstanding series early state.log → Waiting state series
  flushed : Flushed state

variable {render : Rendering} {config : SubscriptionConfig} {routes : Routes} {state next : LoopState}

theorem LoopInv.startFlush (h : LoopInv state) (halive : state.phase ≠ .aborted)
    (hnone : state.phase.inFlight = []) (after : FlushEnd) : LoopInv (startFlush state after) where
  waiting := by
    intro _ series early hfragment houtstanding
    refine Or.inl ((h.waiting halive series early hfragment houtstanding).resolve_right ?_)
    simp [hnone]
  flushed := fun i publisher _ => Or.inl (Nat.zero_le i)

/-- Going on without a flush in progress. -/
theorem LoopInv.setPhase (h : LoopInv state) (halive : state.phase ≠ .aborted)
    (hnone : state.phase.inFlight = []) {phase : LoopPhase} (hflushed : Flushed { state with phase }) :
    LoopInv { state with phase } where
  waiting := by
    intro _ series early hfragment houtstanding
    refine Or.inl ((h.waiting halive series early hfragment houtstanding).resolve_right ?_)
    simp [hnone]
  flushed := hflushed

theorem LoopInv.checkPending (h : LoopInv state) (halive : state.phase ≠ .aborted)
    (hnone : state.phase.inFlight = []) : LoopInv (checkPending config state) := by
  unfold gateway.server_task.checkPending
  split
  · exact h.startFlush halive hnone _
  · exact h.setPhase halive hnone trivial

theorem LoopInv.onNotification (h : LoopInv state) (hphase : state.phase = .selecting) (change : DataChange) :
    LoopInv (onNotification config routes state change) := by
  have halive : state.phase ≠ .aborted := by simp [hphase]
  have hnone : state.phase.inFlight = [] := by simp [hphase, LoopPhase.inFlight]
  unfold gateway.server_task.onNotification
  split
  · exact h.checkPending halive hnone
  · split
    · exact h.checkPending halive hnone
    · exact h.setPhase halive hnone trivial

/-- Handing over a message of a flush settles the series it has. -/
theorem LoopInv.handFlushed (h : LoopInv state) {index : Nat} {message : Publish} {messages : List Publish}
    {after : FlushEnd} (hphase : state.phase = .flushing index (message :: messages) after) :
    LoopInv { state with phase := .flushing index messages after, log := .handed message :: state.log } where
  waiting := by
    rintro - series early hfragment ⟨hcarries, houtstanding⟩
    rcases h.waiting (by simp [hphase]) series early hfragment houtstanding with hbatched | ⟨other, hmem, hother⟩
    · exact Or.inl hbatched
    · rw [hphase] at hmem
      rcases List.mem_cons.mp hmem with rfl | hmem
      · exact absurd hother hcarries
      · exact Or.inr ⟨other, hmem, hother⟩
  flushed := by
    have hflushed := h.flushed
    simp only [Flushed, hphase] at hflushed
    exact hflushed

/-- Handing over an event or an alarm leaves the batches as they are. -/
theorem LoopInv.handAccepted (h : LoopInv state) {index : Nat} {node : ResolvedNode} {data_value : DataValue}
    {actions : List Action} {message : Publish} {messages : List Publish}
    (hphase : state.phase = .accepting index node data_value actions (message :: messages)) :
    LoopInv { state with
      phase := .accepting index node data_value actions messages
      log := .handed message :: state.log } where
  waiting := by
    rintro - series early hfragment ⟨-, houtstanding⟩
    refine Or.inl ((h.waiting (by simp [hphase]) series early hfragment houtstanding).resolve_right ?_)
    simp [hphase, LoopPhase.inFlight]
  flushed := trivial

/-- A publisher takes what it accepts into its batch. -/
theorem LoopInv.accept (h : LoopInv state) {index : Nat} {node : ResolvedNode} {data_value : DataValue}
    {action : Action} {actions : List Action} {publisher : Publisher} (now : DateTime) (messages : List Publish)
    (hphase : state.phase = .accepting index node data_value (action :: actions) [])
    (hpublisher : state.publishers[index]? = some publisher) :
    LoopInv { state with
      phase := .accepting index node data_value actions messages
      publishers := state.publishers.set index (publisher.acceptAction render now node data_value action).1
      log := ((acceptedSeries publisher node data_value action).map fun series =>
        LogEvent.accepted series (state.owner == .steady)).toList ++ state.log } where
  waiting := by
    intro _ series early hfragment houtstanding
    have hbound : index < state.publishers.length := (List.getElem?_eq_some_iff.mp hpublisher).1
    have hset := List.mem_set hbound (publisher.acceptAction render now node data_value action).1
    have hkept : Outstanding series early state.log → ∃ other ∈ state.publishers.set index
        (publisher.acceptAction render now node data_value action).1, Batched other series := by
      intro hbefore
      have hwaiting := h.waiting (by simp [hphase]) series early hfragment hbefore
      obtain ⟨other, hmem, hbatched⟩ := hwaiting.resolve_right (by simp [hphase, LoopPhase.inFlight])
      obtain ⟨j, hj⟩ := List.mem_iff_getElem?.mp hmem
      by_cases hindex : index = j
      · subst hindex
        obtain rfl := Option.some.inj (hpublisher.symm.trans hj)
        exact ⟨_, hset, hbatched.acceptAction render now node data_value action⟩
      · refine ⟨other, List.mem_of_getElem? (i := j) ?_, hbatched⟩
        rw [List.getElem?_set_ne hindex, hj]
    refine Or.inl ?_
    cases haccepted : acceptedSeries publisher node data_value action with
    | none =>
      rw [haccepted] at houtstanding
      exact hkept houtstanding
    | some accepted =>
      rw [haccepted] at houtstanding
      rcases houtstanding with ⟨rfl, -⟩ | houtstanding
      · exact ⟨_, hset, batched_of_accepted render now node data_value haccepted⟩
      · exact hkept houtstanding
  flushed := trivial

/-- Flushing one publisher puts its batch into flight. -/
theorem LoopInv.flushNext (h : LoopInv state) {index : Nat} {after : FlushEnd} {publisher : Publisher}
    (now : DateTime) (hphase : state.phase = .flushing index [] after)
    (hpublisher : state.publishers[index]? = some publisher) :
    LoopInv { state with
      phase := .flushing (index + 1) (publisher.flush render now).2 after
      publishers := state.publishers.set index (publisher.flush render now).1 } where
  waiting := by
    intro _ series early hfragment houtstanding
    have hwaiting := h.waiting (by simp [hphase]) series early hfragment houtstanding
    obtain ⟨other, hmem, hbatched⟩ := hwaiting.resolve_right (by simp [hphase, LoopPhase.inFlight])
    obtain ⟨j, hj⟩ := List.mem_iff_getElem?.mp hmem
    by_cases hindex : index = j
    · subst hindex
      obtain rfl := Option.some.inj (hpublisher.symm.trans hj)
      exact Or.inr (hbatched.flush render now hfragment)
    · refine Or.inl ⟨other, List.mem_of_getElem? (i := j) ?_, hbatched⟩
      rw [List.getElem?_set_ne hindex, hj]
  flushed := by
    have hflushed := h.flushed
    simp only [Flushed, hphase] at hflushed
    intro j other hother
    rw [List.getElem?_set] at hother
    split at hother
    · rename_i hindex
      split at hother
      · cases hother
        exact Or.inr rfl
      · cases hother
    · rename_i hindex
      rcases hflushed j other hother with hle | hempty
      · exact Or.inl (lt_of_le_of_ne hle hindex)
      · exact Or.inr hempty

/-- Behind the last publisher every batch is empty. -/
theorem LoopInv.all_flushed (h : LoopInv state) {index : Nat} {messages : List Publish} {after : FlushEnd}
    (hphase : state.phase = .flushing index messages after) (hend : state.publishers[index]? = none) :
    ∀ publisher ∈ state.publishers, publisher.batch = .empty := by
  have hflushed := h.flushed
  simp only [Flushed, hphase] at hflushed
  intro publisher hmem
  obtain ⟨i, hi⟩ := List.mem_iff_getElem?.mp hmem
  have hbound : i < state.publishers.length := (List.getElem?_eq_some_iff.mp hi).1
  have hlast : state.publishers.length ≤ index := List.getElem?_eq_none_iff.mp hend
  exact (hflushed i publisher hi).resolve_left fun hle => absurd (hlast.trans hle) (Nat.not_le.mpr hbound)

theorem LoopInv.endFlush (h : LoopInv state) {index : Nat} {after : FlushEnd}
    (hphase : state.phase = .flushing index [] after) (hend : state.publishers[index]? = none)
    {phase : LoopPhase} (hnext : phase = .selecting ∨ phase = .returned) : LoopInv { state with phase } := by
  refine h.setPhase (by simp [hphase]) (by simp [hphase, LoopPhase.inFlight]) ?_
  rcases hnext with rfl | rfl
  · trivial
  · exact h.all_flushed hphase hend

/-- Everything the loop does by itself: it hands a message over, handles an action, looks
at its batches, or goes on with a flush. -/
inductive AdvanceMove (render : Rendering) (config : SubscriptionConfig) (now : DateTime) (state : LoopState) :
    LoopState → Prop
  | handAccepted {index : Nat} {node : ResolvedNode} {data_value : DataValue} {actions : List Action}
      {message : Publish} {messages : List Publish}
      (hphase : state.phase = .accepting index node data_value actions (message :: messages)) :
    AdvanceMove render config now state { state with
      phase := .accepting index node data_value actions messages
      log := .handed message :: state.log }
  | checkPending {index : Nat} {node : ResolvedNode} {data_value : DataValue}
      (hphase : state.phase = .accepting index node data_value [] []) :
    AdvanceMove render config now state (checkPending config state)
  | accept {index : Nat} {node : ResolvedNode} {data_value : DataValue} {action : Action} {actions : List Action}
      {publisher : Publisher} (hphase : state.phase = .accepting index node data_value (action :: actions) [])
      (hpublisher : state.publishers[index]? = some publisher) :
    AdvanceMove render config now state { state with
      phase := .accepting index node data_value actions
        (publisher.acceptAction render now node data_value action).2
      publishers := state.publishers.set index (publisher.acceptAction render now node data_value action).1
      log := ((acceptedSeries publisher node data_value action).map fun series =>
        LogEvent.accepted series (state.owner == .steady)).toList ++ state.log }
  | handFlushed {index : Nat} {message : Publish} {messages : List Publish} {after : FlushEnd}
      (hphase : state.phase = .flushing index (message :: messages) after) :
    AdvanceMove render config now state { state with
      phase := .flushing index messages after
      log := .handed message :: state.log }
  | flushNext {index : Nat} {after : FlushEnd} {publisher : Publisher} (hphase : state.phase = .flushing index [] after)
      (hpublisher : state.publishers[index]? = some publisher) :
    AdvanceMove render config now state { state with
      phase := .flushing (index + 1) (publisher.flush render now).2 after
      publishers := state.publishers.set index (publisher.flush render now).1 }
  | endFlush {index : Nat} {after : FlushEnd} {phase : LoopPhase} (hphase : state.phase = .flushing index [] after)
      (hend : state.publishers[index]? = none) (hnext : phase = .selecting ∨ phase = .returned) :
    AdvanceMove render config now state { state with phase }

theorem advanceMove_of_advance {now : DateTime} (hstep : advance render config now state = some next) :
    AdvanceMove render config now state next := by
  unfold gateway.server_task.advance at hstep
  split at hstep
  · rename_i hphase
    cases hstep
    exact .handAccepted hphase
  · rename_i hphase
    cases hstep
    exact .checkPending hphase
  · rename_i hphase
    obtain ⟨publisher, hpublisher, hstep⟩ := Option.bind_eq_some_iff.mp hstep
    cases hstep
    exact .accept hphase hpublisher
  · rename_i hphase
    cases hstep
    exact .handFlushed hphase
  · rename_i hphase
    split at hstep
    · rename_i hpublisher
      cases hstep
      exact .flushNext hphase hpublisher
    · rename_i hend
      split at hstep <;> cases hstep
      · exact .endFlush hphase hend (Or.inl rfl)
      · exact .endFlush hphase hend (Or.inr rfl)
  · cases hstep

theorem LoopInv.advance (h : LoopInv state) {now : DateTime} (hmove : AdvanceMove render config now state next) :
    LoopInv next := by
  cases hmove with
  | handAccepted hphase => exact h.handAccepted hphase
  | checkPending hphase => exact h.checkPending (by simp [hphase]) (by simp [hphase, LoopPhase.inFlight])
  | accept hphase hpublisher => exact h.accept now _ hphase hpublisher
  | handFlushed hphase => exact h.handFlushed hphase
  | flushNext hphase hpublisher => exact h.flushNext now hphase hpublisher
  | endFlush hphase hend hnext => exact h.endFlush hphase hend hnext

/-- A step of the owner or the runtime leaves the loop where it is. -/
theorem LoopInv.frame (h : LoopInv state) (owner : Owner) (polled : Bool) :
    LoopInv { state with owner, polled } := ⟨h.waiting, h.flushed⟩

theorem select_eq_some {other : LoopState} (h : select state other = some next) :
    state.phase = .selecting ∧ next = other := by
  unfold select at h
  split at h
  · rename_i hcond
    cases h
    exact ⟨by simpa using (Bool.and_eq_true_iff.mp hcond).2, rfl⟩
  · cases h

/-- The branches of the select. -/
def LoopLabel.isBranch : LoopLabel → Bool
  | .observeCancel => true
  | .tick => true
  | .notified _ => true
  | .closed => true
  | _ => false

/-- Everything a step can do: the owner and the runtime leave the loop where it is,
but for an abort, and the loop goes on from its select or from where it stands. -/
theorem loopStep_cases {label : LoopLabel} (hstep : loopStep render config routes state label = some next) :
    (∃ owner polled, next = { state with owner, polled } ∧
      (owner.isDown = true → state.owner.isDown = true ∨ state.phase.isDead = true)) ∨
    (label = .abort ∧ next = { state with phase := .aborted }) ∨
    (label.isBranch = true ∧ state.phase = .selecting ∧ ((∃ after, next = startFlush state after) ∨
      ∃ change, label = .notified change ∧ next = onNotification config routes state change)) ∨
    ∃ now, label = .advance now ∧ AdvanceMove render config now state next := by
  cases label with
  | cancel =>
    obtain ⟨-, rfl⟩ := when_eq_some.mp hstep
    exact Or.inl ⟨_, _, rfl, by simp [Owner.isDown]⟩
  | shutdown =>
    obtain ⟨-, rfl⟩ := when_eq_some.mp hstep
    exact Or.inl ⟨_, _, rfl, by simp [Owner.isDown]⟩
  | joined =>
    obtain ⟨⟨-, hdead⟩, rfl⟩ := when_eq_some.mp hstep
    exact Or.inl ⟨_, _, rfl, fun _ => Or.inr hdead⟩
  | disconnect =>
    obtain ⟨hdown, rfl⟩ := when_eq_some.mp hstep
    exact Or.inl ⟨_, _, rfl, fun _ => Or.inl (by rw [hdown]; rfl)⟩
  | poll =>
    obtain ⟨-, rfl⟩ := when_eq_some.mp hstep
    exact Or.inl ⟨_, _, rfl, Or.inl⟩
  | suspend =>
    obtain ⟨-, rfl⟩ := when_eq_some.mp hstep
    exact Or.inl ⟨_, _, rfl, Or.inl⟩
  | abort =>
    obtain ⟨-, rfl⟩ := when_eq_some.mp hstep
    exact Or.inr (Or.inl ⟨rfl, rfl⟩)
  | observeCancel =>
    rw [loopStep] at hstep
    split at hstep
    · cases hstep
    · obtain ⟨hphase, rfl⟩ := select_eq_some hstep
      exact Or.inr (Or.inr (Or.inl ⟨rfl, hphase, Or.inl ⟨_, rfl⟩⟩))
  | tick =>
    obtain ⟨hphase, rfl⟩ := select_eq_some hstep
    exact Or.inr (Or.inr (Or.inl ⟨rfl, hphase, Or.inl ⟨_, rfl⟩⟩))
  | notified change =>
    obtain ⟨hphase, rfl⟩ := select_eq_some hstep
    exact Or.inr (Or.inr (Or.inl ⟨rfl, hphase, Or.inr ⟨change, rfl, rfl⟩⟩))
  | closed =>
    obtain ⟨hphase, rfl⟩ := select_eq_some hstep
    exact Or.inr (Or.inr (Or.inl ⟨rfl, hphase, Or.inl ⟨_, rfl⟩⟩))
  | advance now =>
    rw [loopStep] at hstep
    split at hstep
    · exact Or.inr (Or.inr (Or.inr ⟨now, rfl, advanceMove_of_advance hstep⟩))
    · cases hstep

theorem LoopInv.step (h : LoopInv state) {label : LoopLabel}
    (hstep : loopStep render config routes state label = some next) : LoopInv next := by
  rcases loopStep_cases hstep with ⟨owner, polled, rfl, -⟩ | ⟨-, rfl⟩ | ⟨-, hphase, hselect⟩ | ⟨now, -, hadvance⟩
  · exact h.frame owner polled
  · exact ⟨fun halive => absurd rfl halive, trivial⟩
  · rcases hselect with ⟨after, rfl⟩ | ⟨change, -, rfl⟩
    · exact h.startFlush (by simp [hphase]) (by simp [hphase, LoopPhase.inFlight]) after
    · exact h.onNotification hphase change
  · exact h.advance hadvance

theorem AdvanceMove.not_dead {now : DateTime} (h : AdvanceMove render config now state next) :
    state.phase.isDead = false := by
  cases h with
  | handAccepted hphase => rw [hphase]; rfl
  | checkPending hphase => rw [hphase]; rfl
  | accept hphase hpublisher => rw [hphase]; rfl
  | handFlushed hphase => rw [hphase]; rfl
  | flushNext hphase hpublisher => rw [hphase]; rfl
  | endFlush hphase hend hnext => rw [hphase]; rfl

/-- A loop that has ended stays as it is, whatever its owner does. -/
theorem dead_step (hdead : state.phase.isDead = true) {label : LoopLabel}
    (hstep : loopStep render config routes state label = some next) :
    next.phase = state.phase ∧ next.log = state.log := by
  rcases loopStep_cases hstep with ⟨owner, polled, rfl, -⟩ | ⟨rfl, -⟩ | ⟨-, hphase, -⟩ | ⟨now, -, hadvance⟩
  · exact ⟨rfl, rfl⟩
  · obtain ⟨⟨-, halive, -⟩, -⟩ := when_eq_some.mp hstep
    rw [hdead] at halive
    cases halive
  · rw [hphase] at hdead
    cases hdead
  · rw [hadvance.not_dead] at hdead
    cases hdead

theorem checkPending_not_aborted : (checkPending config state).phase ≠ .aborted := by
  unfold gateway.server_task.checkPending
  split <;> simp [gateway.server_task.startFlush]

theorem onNotification_not_aborted (change : DataChange) :
    (onNotification config routes state change).phase ≠ .aborted := by
  unfold gateway.server_task.onNotification
  split
  · exact checkPending_not_aborted
  · split
    · exact checkPending_not_aborted
    · simp

theorem AdvanceMove.not_aborted {now : DateTime} (h : AdvanceMove render config now state next) :
    next.phase ≠ .aborted := by
  cases h with
  | checkPending hphase => exact checkPending_not_aborted
  | endFlush hphase hend hnext => rcases hnext with rfl | rfl <;> simp
  | _ => simp

/-- Only the runtime aborts the loop. -/
theorem aborted_of_step {label : LoopLabel} (hstep : loopStep render config routes state label = some next)
    (haborted : next.phase = .aborted) : label = .abort ∨ state.phase = .aborted := by
  rcases loopStep_cases hstep with ⟨owner, polled, rfl, -⟩ | ⟨habort, -⟩ | ⟨-, -, hselect⟩ | ⟨now, -, hadvance⟩
  · exact Or.inr haborted
  · exact Or.inl habort
  · rcases hselect with ⟨after, rfl⟩ | ⟨change, -, rfl⟩
    · cases haborted
    · exact absurd haborted (onNotification_not_aborted change)
  · exact absurd haborted hadvance.not_aborted

theorem checkPending_owner : (checkPending config state).owner = state.owner := by
  unfold gateway.server_task.checkPending
  split <;> rfl

theorem onNotification_owner (change : DataChange) :
    (onNotification config routes state change).owner = state.owner := by
  unfold gateway.server_task.onNotification
  split
  · exact checkPending_owner
  · split
    · exact checkPending_owner
    · rfl

theorem AdvanceMove.owner {now : DateTime} (h : AdvanceMove render config now state next) :
    next.owner = state.owner := by
  cases h with
  | checkPending hphase => exact checkPending_owner
  | _ => rfl

/-- The set is shut down only once the loop has ended. -/
def DownDead (state : LoopState) : Prop := state.owner.isDown = true → state.phase.isDead = true

theorem DownDead.step (h : DownDead state) {label : LoopLabel}
    (hstep : loopStep render config routes state label = some next) : DownDead next := by
  rcases loopStep_cases hstep with ⟨owner, polled, rfl, hdown⟩ | ⟨-, rfl⟩ | ⟨-, hphase, hselect⟩ | ⟨now, -, hadvance⟩
  · exact fun howner => (hdown howner).elim h id
  · exact fun _ => rfl
  · have howner : next.owner = state.owner := by
      rcases hselect with ⟨after, rfl⟩ | ⟨change, -, rfl⟩
      · rfl
      · exact onNotification_owner change
    intro hdown
    rw [howner] at hdown
    have hdead := h hdown
    rw [hphase] at hdead
    cases hdead
  · intro hdown
    rw [hadvance.owner] at hdown
    have hdead := h hdown
    rw [hadvance.not_dead] at hdead
    cases hdead

end Loop

section Run

variable (render : Rendering) (config : SubscriptionConfig) (routes : Routes)

/-- The series that the next action of the value at hand puts into a batch. -/
def nextSeries (state : LoopState) : Option Series :=
  match state.phase with
  | .accepting index node data_value (action :: _) [] => do
    let publisher ← state.publishers[index]?
    acceptedSeries publisher node data_value action
  | _ => none

/-- The loop is aborted only where no batch and no unfinished flush has a series that
was accepted before the cancellation, and the name of the timestamp is not the
fragment of a series accepted before it. -/
structure KeepsSeries (state : LoopState) (label : LoopLabel) : Prop where
  drained : label = .abort → ∀ series, Waiting state series → .accepted series true ∉ state.log
  spares_time : ∀ now, label = .advance now → state.owner = .steady →
    ∀ series, nextSeries state = some series → series.fragment ≠ "time"

variable {render config routes} {state next final : LoopState} {labels : List LoopLabel}

theorem loopInv_start (h : (subscription_loop render config routes).start state) : LoopInv state := by
  obtain ⟨-, -, hphase, -, hlog⟩ := h
  refine ⟨fun _ series early _ houtstanding => ?_, by simp [Flushed, hphase]⟩
  rw [hlog] at houtstanding
  cases houtstanding

theorem downDead_start (h : (subscription_loop render config routes).start state) : DownDead state := by
  intro hdown
  rw [h.1] at hdown
  cases hdown

/-- Among the series accepted before the cancellation, none has a fragment with the
name of the timestamp. -/
def SparesTime (log : List LogEvent) : Prop := ∀ series, .accepted series true ∈ log → series.fragment ≠ "time"

theorem Outstanding.accepted_mem {series : Series} {early : Bool} {log : List LogEvent}
    (h : Outstanding series early log) : .accepted series early ∈ log := by
  obtain ⟨newer, older, rfl, -⟩ := outstanding_iff.mp h
  simp

theorem checkPending_log : (checkPending config state).log = state.log := by
  unfold gateway.server_task.checkPending
  split <;> rfl

theorem onNotification_log (change : DataChange) : (onNotification config routes state change).log = state.log := by
  unfold gateway.server_task.onNotification
  split
  · exact checkPending_log
  · split
    · exact checkPending_log
    · rfl

/-- The log grows by messages that are handed and by the next series, which is early
while the owner is steady. -/
theorem accepted_of_step {label : LoopLabel} {series : Series} {early : Bool}
    (hstep : loopStep render config routes state label = some next) (h : .accepted series early ∈ next.log) :
    .accepted series early ∈ state.log ∨
      (∃ now, label = .advance now) ∧ nextSeries state = some series ∧ early = (state.owner == .steady) := by
  rcases loopStep_cases hstep with ⟨owner, polled, rfl, -⟩ | ⟨-, rfl⟩ | ⟨-, -, hselect⟩ | ⟨now, rfl, hadvance⟩
  · exact Or.inl h
  · exact Or.inl h
  · rcases hselect with ⟨after, rfl⟩ | ⟨change, -, rfl⟩
    · exact Or.inl h
    · rw [onNotification_log] at h
      exact Or.inl h
  · cases hadvance with
    | handAccepted hphase => exact Or.inl (by simpa using h)
    | checkPending hphase =>
      rw [checkPending_log] at h
      exact Or.inl h
    | accept hphase hpublisher =>
      rcases List.mem_append.mp h with hnew | hold
      · obtain ⟨accepted, haccepted, heq⟩ := Option.map_eq_some_iff.mp (Option.mem_toList.mp hnew)
        cases heq
        refine Or.inr ⟨⟨now, rfl⟩, ?_, rfl⟩
        simp only [nextSeries, hphase, hpublisher]
        exact haccepted
      · exact Or.inl hold
    | handFlushed hphase => exact Or.inl (by simpa using h)
    | flushNext hphase hpublisher => exact Or.inl h
    | endFlush hphase hend hnext => exact Or.inl h

theorem SparesTime.step (h : SparesTime state.log) {label : LoopLabel} (hguard : KeepsSeries state label)
    (hstep : loopStep render config routes state label = some next) : SparesTime next.log := by
  intro series hmem
  rcases accepted_of_step hstep hmem with hold | ⟨⟨now, hlabel⟩, hnext, hearly⟩
  · exact h series hold
  · have hsteady : state.owner = .steady := by simpa using hearly.symm
    exact hguard.spares_time now hlabel hsteady series hnext

/-- While the steps keep the series, a loop that is aborted owes none. -/
theorem aborted_settled (hinv : LoopInv state) (halive : state.phase ≠ .aborted) (hspares : SparesTime state.log)
    (hguard : (subscription_loop render config routes).Guarded KeepsSeries state labels)
    (hrun : (subscription_loop render config routes).exec state labels = some final) :
    LoopInv final ∧ SparesTime final.log ∧
      (final.phase = .aborted → ∀ series, ¬ Outstanding series true final.log) := by
  refine Machine.exec_invariant
    (fun state => LoopInv state ∧ SparesTime state.log ∧
      (state.phase = .aborted → ∀ series, ¬ Outstanding series true state.log))
    ?_ hguard ⟨hinv, hspares, fun haborted => absurd haborted halive⟩ hrun
  rintro state label next ⟨hinv, hspares, hsettled⟩ hkeeps hstep
  refine ⟨hinv.step hstep, hspares.step hkeeps hstep, fun haborted series => ?_⟩
  by_cases hbefore : state.phase = .aborted
  · rw [(dead_step (by rw [hbefore]; rfl) hstep).2]
    exact hsettled hbefore series
  · obtain rfl := (aborted_of_step hstep haborted).resolve_right hbefore
    obtain ⟨-, rfl⟩ := when_eq_some.mp hstep
    intro houtstanding
    have haccepted := houtstanding.accepted_mem
    have hwaiting := hinv.waiting hbefore series true (hspares series haccepted) houtstanding
    exact hkeeps.drained rfl series hwaiting haccepted

/-- A loop that has returned owes nothing but what the timestamp displaces. -/
theorem LoopInv.returned_settled (h : LoopInv state) (hphase : state.phase = .returned) (series : Series)
    (early : Bool) (hfragment : series.fragment ≠ "time") : ¬ Outstanding series early state.log := by
  intro houtstanding
  have hflushed := h.flushed
  simp only [Flushed, hphase] at hflushed
  have hwaiting := h.waiting (by simp [hphase]) series early hfragment houtstanding
  rcases hwaiting with ⟨publisher, hmem, hbatched⟩ | ⟨message, hmem, -⟩
  · exact not_batched_of_empty (hflushed publisher hmem) hbatched
  · simp [hphase, LoopPhase.inFlight] at hmem

variable (render config routes)

/-- Once the set of readers is shut down, every series accepted before the generation
was cancelled has been handed over, in every run whose steps keep the series. A loop
that observes the cancellation flushes everything; one that is aborted first does not. -/
theorem teardown_hands_all :
    ∀ start labels final, (subscription_loop render config routes).start start →
      (subscription_loop render config routes).exec start labels = some final →
      (subscription_loop render config routes).Guarded KeepsSeries start labels →
      final.owner.isDown = true → AllHanded final.log := by
  intro start labels final hstart hrun hguard hdown
  refine allHanded_iff.mpr fun series => ?_
  have halive : start.phase ≠ .aborted := by simp [hstart.2.2.1]
  have hnothing : SparesTime start.log := by
    intro series hmem
    rw [hstart.2.2.2.2] at hmem
    cases hmem
  obtain ⟨hinv, hspares, haborted⟩ := aborted_settled (loopInv_start hstart) halive hnothing hguard hrun
  have hdowndead : DownDead final :=
    Machine.exec_preserves DownDead (fun _ _ _ h hstep => h.step hstep) (downDead_start hstart) hrun
  have hdead := hdowndead hdown
  cases hphase : final.phase with
  | returned =>
    intro houtstanding
    have hfragment := hspares series houtstanding.accepted_mem
    exact hinv.returned_settled hphase series true hfragment houtstanding
  | aborted => exact haborted hphase series
  | selecting => simp [hphase, LoopPhase.isDead] at hdead
  | accepting index node data_value actions messages => simp [hphase, LoopPhase.isDead] at hdead
  | flushing index messages after => simp [hphase, LoopPhase.isDead] at hdead

end Run

section Sample

def pumpEntity : EntityTopicId := .child_device "plc-pump"

/-- A node whose values are measurements. -/
def flowNode : ResolvedNode where
  node_id := ⟨2, .Numeric 1⟩
  node_id_str := "ns=2;i=1"
  actions := [.Measurement ⟨some "pump", some "flow", some "pump", none, none⟩]
  delivery := .Subscription .default

def flowRoutes : Routes := .ofList [(1, ⟨pumpEntity, "pump", flowNode⟩)]

def flowChange : DataChange := ⟨1, ⟨some (.Int32 7), some 0, none, none⟩⟩

def flowLoop : LoopState := ⟨.steady, false, .selecting, [.new pumpEntity false], []⟩

def flowLoopMachine : Machine LoopState LoopLabel :=
  subscription_loop ⟨fun _ => "", fun _ => "", fun _ => "", id⟩ .default flowRoutes

theorem flowLoop_start : flowLoopMachine.start flowLoop := by
  refine ⟨rfl, rfl, rfl, ⟨by decide, by decide, fun entity => ?_⟩, rfl⟩
  have hvalues : flowRoutes.values = [⟨pumpEntity, "pump", flowNode⟩] := by decide
  simp [hvalues, flowLoop, Publisher.new, eq_comm]

/-- A tick hands over the value that was accepted, and the loop is aborted where it waits. -/
def drainedTeardown : List LoopLabel :=
  [.poll, .notified flowChange, .advance 0, .advance 0, .tick, .advance 0, .advance 0, .advance 0, .suspend,
    .cancel, .shutdown, .abort, .joined]

/-- A step of the sample that neither aborts the loop nor accepts a series. -/
theorem keepsSeries_of_idle {state : LoopState} {label : LoopLabel} (hlabel : label ≠ .abort)
    (hnext : nextSeries state = none) : KeepsSeries state label where
  drained habort := absurd habort hlabel
  spares_time := by
    intro now _ _ series haccepts
    rw [hnext] at haccepts
    cases haccepts

theorem drainedTeardown_guarded : flowLoopMachine.Guarded KeepsSeries flowLoop drainedTeardown := by
  have hidle {state : LoopState} {label : LoopLabel} (hlabel : label ≠ .abort) (hnext : nextSeries state = none) :=
    keepsSeries_of_idle hlabel hnext
  refine Machine.guarded_cons (hidle (by decide) rfl) rfl ?_
  refine Machine.guarded_cons (hidle (by decide) rfl) rfl ?_
  refine Machine.guarded_cons ⟨nofun, fun _ _ _ series haccepts => ?_⟩ rfl ?_
  · cases haccepts
    decide
  refine Machine.guarded_cons (hidle (by decide) rfl) rfl ?_
  refine Machine.guarded_cons (hidle (by decide) rfl) rfl ?_
  refine Machine.guarded_cons (hidle (by decide) rfl) rfl ?_
  refine Machine.guarded_cons (hidle (by decide) rfl) rfl ?_
  refine Machine.guarded_cons (hidle (by decide) rfl) rfl ?_
  refine Machine.guarded_cons (hidle (by decide) rfl) rfl ?_
  refine Machine.guarded_cons (hidle (by decide) rfl) rfl ?_
  refine Machine.guarded_cons (hidle (by decide) rfl) rfl ?_
  refine Machine.guarded_cons ⟨fun _ series hwaiting => ?_, nofun⟩ rfl ?_
  · rcases hwaiting with ⟨publisher, hmem, hbatched⟩ | ⟨message, hmem, -⟩
    · obtain rfl := List.mem_singleton.mp hmem
      exact (not_batched_of_empty rfl hbatched).elim
    · cases hmem
  exact Machine.guarded_cons (hidle (by decide) rfl) rfl trivial

theorem teardown_hands_all_drained : ∃ final, flowLoopMachine.exec flowLoop drainedTeardown = some final ∧
    final.owner.isDown = true ∧ AllHanded final.log := by
  refine ⟨_, rfl, rfl, ?_⟩
  exact teardown_hands_all _ _ _ flowLoop drainedTeardown _ flowLoop_start rfl drainedTeardown_guarded rfl

/-- Accept one value, then abort the loop where it waits. -/
def hastyTeardown : List LoopLabel :=
  [.poll, .notified flowChange, .advance 0, .advance 0, .suspend, .cancel, .shutdown, .abort, .joined]

/-- The series that was accepted is in no message. -/
theorem teardown_drops_batch :
    ¬ ∀ render config routes start labels final, (subscription_loop render config routes).start start →
      (subscription_loop render config routes).exec start labels = some final →
      final.owner.isDown = true → AllHanded final.log := by
  intro hall
  obtain ⟨final, hrun, hdown, hlog⟩ : ∃ final, flowLoopMachine.exec flowLoop hastyTeardown = some final ∧
      final.owner.isDown = true ∧
      final.log = [.accepted ⟨pumpEntity.channel_topic "m/pump", "pump", "flow"⟩ true] :=
    ⟨_, rfl, rfl, rfl⟩
  have hhanded := hall _ _ _ flowLoop hastyTeardown final flowLoop_start hrun hdown
  obtain ⟨message, hmem, -⟩ := hhanded [] [] _ hlog
  cases hmem

end Sample

end gateway.server_task
