import OpcuaGateway.Foundation.Mailbox
import OpcuaGateway.Foundation.Refinement
import OpcuaGateway.Gateway.ServerTask.Turns

open transition mailbox ordered_map tedge.topic tedge.mqtt mapping.value mapping.payload mapping.resolve
  gateway.config gateway.publish

namespace gateway.server_task

/-- A subscription loop with the channel that the session's callback fills. -/
structure Pipeline where
  loop : LoopState
  channel : Mailbox DataChange
  /-- The session has dropped the subscription, and the sender with it. -/
  dropped : Bool
  deriving DecidableEq

inductive PipelineLabel where
  /-- The session calls back with a value of a monitored item. -/
  | notify (change : DataChange)
  | drop
  | loop (label : LoopLabel)
  deriving DecidableEq

section Pipeline

variable (render : Rendering) (config : SubscriptionConfig) (routes : Routes)

/-- The callback does not wait: a value is dropped when the channel is full, or when the
loop has ended. The loop takes the values in their order, and sees the end of the channel
once there is no sender and no value left. -/
def pipelineStep (state : Pipeline) : PipelineLabel → Option Pipeline
  | .notify change =>
    when (state.dropped = false) { state with
      channel := state.channel.offer config.channel_capacity (!state.loop.phase.isDead) change }
  | .drop => when (state.dropped = false) { state with dropped := true }
  | .loop (.notified change) =>
    match state.channel.receive with
    | none => none
    | some (oldest, channel) =>
      if oldest = change then
        (loopStep render config routes state.loop (.notified change)).map fun loop => { state with loop, channel }
      else none
  | .loop .closed =>
    if state.dropped && state.channel.queue.isEmpty then
      (loopStep render config routes state.loop .closed).map fun loop => { state with loop }
    else none
  | .loop label => (loopStep render config routes state.loop label).map fun loop => { state with loop }

/-- Stream a server's data changes through a bounded channel into the loop. -/
def pipeline : Machine Pipeline PipelineLabel where
  start state := (subscription_loop render config routes).start state.loop ∧ state.channel = .empty ∧
    state.dropped = false
  step := pipelineStep render config routes

variable {render config routes} {state next : Pipeline}

/-- What a move of the pipeline can do. -/
theorem pipelineStep_cases {label : PipelineLabel} (hstep : pipelineStep render config routes state label = some next) :
    (∃ change, label = .notify change ∧ state.dropped = false ∧ next = { state with
      channel := state.channel.offer config.channel_capacity (!state.loop.phase.isDead) change }) ∨
    (label = .drop ∧ state.dropped = false ∧ next = { state with dropped := true }) ∨
    (∃ change channel loop, label = .loop (.notified change) ∧ state.channel.receive = some (change, channel) ∧
      loopStep render config routes state.loop (.notified change) = some loop ∧ next = { state with loop, channel }) ∨
    ∃ own loop, label = .loop own ∧ own.change = none ∧
      (own = .closed → state.dropped = true ∧ state.channel.queue = []) ∧
      loopStep render config routes state.loop own = some loop ∧ next = { state with loop } := by
  unfold pipelineStep at hstep
  split at hstep
  · obtain ⟨hdropped, rfl⟩ := when_eq_some.mp hstep
    exact Or.inl ⟨_, rfl, hdropped, rfl⟩
  · obtain ⟨hdropped, rfl⟩ := when_eq_some.mp hstep
    exact Or.inr (Or.inl ⟨rfl, hdropped, rfl⟩)
  · rename_i change
    split at hstep
    · cases hstep
    · rename_i oldest channel hreceive
      split at hstep
      · rename_i holdest
        subst holdest
        obtain ⟨loop, hloop, rfl⟩ := Option.map_eq_some_iff.mp hstep
        exact Or.inr (Or.inr (Or.inl ⟨_, _, _, rfl, hreceive, hloop, rfl⟩))
      · cases hstep
  · split at hstep
    · rename_i hend
      obtain ⟨loop, hloop, rfl⟩ := Option.map_eq_some_iff.mp hstep
      obtain ⟨hdropped, hempty⟩ := Bool.and_eq_true_iff.mp hend
      exact Or.inr (Or.inr (Or.inr ⟨_, _, rfl, rfl, fun _ => ⟨hdropped, List.isEmpty_iff.mp hempty⟩, hloop, rfl⟩))
    · cases hstep
  · rename_i label hnotified hclosed
    obtain ⟨loop, hloop, rfl⟩ := Option.map_eq_some_iff.mp hstep
    have hchange : label.change = none := by
      cases label with
      | notified change => exact absurd rfl (hnotified change)
      | _ => rfl
    exact Or.inr (Or.inr (Or.inr ⟨_, _, rfl, hchange, fun heq => absurd heq hclosed, hloop, rfl⟩))

variable (render config routes) in
/-- What the loop does, it does on its own: the channel restricts it only. -/
def loopOf : Refinement (pipeline render config routes) (subscription_loop render config routes) where
  Inv _ := True
  abs := Pipeline.loop
  seen _ label :=
    match label with
    | .loop own => some own
    | _ => none
  start := fun _ hstart => ⟨trivial, hstart.1⟩
  kept := fun _ _ _ _ _ => trivial
  hidden := by
    intro state label next _ hstep hseen
    rcases pipelineStep_cases hstep with ⟨change, rfl, -, rfl⟩ | ⟨rfl, -, rfl⟩ |
      ⟨change, channel, loop, rfl, -⟩ | ⟨own, loop, rfl, -⟩
    · rfl
    · rfl
    · cases hseen
    · cases hseen
  shown := by
    intro state label next own _ hstep hseen
    rcases pipelineStep_cases hstep with ⟨change, rfl, -, rfl⟩ | ⟨rfl, -, rfl⟩ |
      ⟨change, channel, loop, rfl, -, hloop, rfl⟩ | ⟨other, loop, rfl, -, -, hloop, rfl⟩
    · cases hseen
    · cases hseen
    · cases hseen
      exact hloop
    · cases hseen
      exact hloop

end Pipeline

section Ending

variable {render : Rendering} {config : SubscriptionConfig} {routes : Routes} {state next : LoopState}

/-- The loop is on its way out, or has returned. -/
def LoopPhase.isEnding : LoopPhase → Bool
  | .flushing _ _ .return => true
  | .returned => true
  | _ => false

theorem isEnding_flushing {index : Nat} {messages : List Publish} {after : FlushEnd} :
    (LoopPhase.flushing index messages after).isEnding = true ↔ after = .return := by
  cases after <;> simp [LoopPhase.isEnding]

theorem checkPending_not_ending : (checkPending config state).phase.isEnding = false := by
  unfold gateway.server_task.checkPending
  split <;> rfl

theorem onNotification_not_ending (change : DataChange) :
    (onNotification config routes state change).phase.isEnding = false := by
  unfold gateway.server_task.onNotification
  split
  · exact checkPending_not_ending
  · split
    · exact checkPending_not_ending
    · rfl

/-- Going on does not end the loop. -/
theorem ending_of_advance {now : DateTime} (hstep : advance render config now state = some next)
    (hend : next.phase.isEnding = true) : state.phase.isEnding = true := by
  unfold gateway.server_task.advance at hstep
  split at hstep
  · cases hstep
    cases hend
  · cases hstep
    rw [checkPending_not_ending] at hend
    cases hend
  · obtain ⟨publisher, -, hnext⟩ := Option.bind_eq_some_iff.mp hstep
    cases hnext
    cases hend
  · rename_i hphase
    cases hstep
    rw [hphase]
    exact isEnding_flushing.mpr (isEnding_flushing.mp hend)
  · rename_i hphase
    rw [hphase]
    split at hstep
    · cases hstep
      exact isEnding_flushing.mpr (isEnding_flushing.mp hend)
    · split at hstep
      · cases hstep
        cases hend
      · rfl
  · cases hstep

/-- A loop that nobody has cancelled ends with the end of its channel only. -/
theorem ending_of_step {label : LoopLabel} (hstep : loopStep render config routes state label = some next)
    (hend : next.phase.isEnding = true) (hsteady : next.owner = .steady) :
    state.owner = .steady ∧ (label = .closed ∨ state.phase.isEnding = true) := by
  cases label with
  | cancel =>
    obtain ⟨-, rfl⟩ := when_eq_some.mp hstep
    cases hsteady
  | shutdown =>
    obtain ⟨-, rfl⟩ := when_eq_some.mp hstep
    cases hsteady
  | joined =>
    obtain ⟨-, rfl⟩ := when_eq_some.mp hstep
    cases hsteady
  | disconnect =>
    obtain ⟨-, rfl⟩ := when_eq_some.mp hstep
    cases hsteady
  | poll =>
    obtain ⟨-, rfl⟩ := when_eq_some.mp hstep
    exact ⟨hsteady, Or.inr hend⟩
  | suspend =>
    obtain ⟨-, rfl⟩ := when_eq_some.mp hstep
    exact ⟨hsteady, Or.inr hend⟩
  | abort =>
    obtain ⟨-, rfl⟩ := when_eq_some.mp hstep
    cases hend
  | observeCancel =>
    rw [loopStep] at hstep
    split at hstep
    · cases hstep
    · rename_i hcancelled
      obtain ⟨-, rfl⟩ := select_eq_some hstep
      exact absurd hsteady hcancelled
  | tick =>
    obtain ⟨-, rfl⟩ := select_eq_some hstep
    cases hend
  | notified change =>
    obtain ⟨-, rfl⟩ := select_eq_some hstep
    rw [onNotification_not_ending] at hend
    cases hend
  | closed =>
    obtain ⟨-, rfl⟩ := select_eq_some hstep
    exact ⟨hsteady, Or.inl rfl⟩
  | advance now =>
    rw [loopStep] at hstep
    split at hstep
    · have howner := (advanceMove_of_advance hstep).owner
      rw [hsteady] at howner
      exact ⟨howner.symm, Or.inr (ending_of_advance hstep hend)⟩
    · cases hstep

end Ending

section Run

variable {render : Rendering} {config : SubscriptionConfig} {routes : Routes} {state next : Pipeline}

variable (render config routes) in
/-- The channel is faithful and attended, a loop that nobody has cancelled ends behind its
last value, and the publishers have taken their turns with what was received. -/
structure Conducted (state : Pipeline) : Prop where
  kept : state.channel.Kept config.channel_capacity
  attended : ∀ change, .offered change .closed ∈ state.channel.history → state.loop.phase.isDead = true
  ended : state.loop.phase.isEnding = true → state.loop.owner = .steady →
    state.dropped = true ∧ state.channel.queue = []
  inTurn : state.loop.phase ≠ .aborted → InTurn render routes (receivedIn state.channel.history) state.loop

theorem Conducted.notify (h : Conducted render config routes state) (hdropped : state.dropped = false)
    (change : DataChange) : Conducted render config routes { state with
      channel := state.channel.offer config.channel_capacity (!state.loop.phase.isDead) change } where
  kept := h.kept.offer _ change
  attended := by
    intro other hmem
    rcases Mailbox.closed_of_offer hmem with hdead | hmem
    · simpa using hdead
    · exact h.attended other hmem
  ended := by
    intro hend hsteady
    have hgone := (h.ended hend hsteady).1
    rw [hdropped] at hgone
    cases hgone
  inTurn := by
    intro halive
    have hsame : receivedIn (state.channel.offer config.channel_capacity (!state.loop.phase.isDead) change).history =
        receivedIn state.channel.history := Mailbox.receivedIn_offer _ change
    rw [hsame]
    exact h.inTurn halive

/-- A step of the loop, which takes a value out of the channel or leaves it. -/
theorem Conducted.loop (h : Conducted render config routes state) {own : LoopLabel} {loop : LoopState}
    {channel : Mailbox DataChange} (hloop : loopStep render config routes state.loop own = some loop)
    (hkept : channel.Kept config.channel_capacity)
    (hclosed : ∀ change, .offered change .closed ∈ channel.history → .offered change .closed ∈ state.channel.history)
    (hqueue : state.channel.queue = [] → channel.queue = [])
    (hend : own = .closed → state.dropped = true ∧ state.channel.queue = [])
    (hreceived : receivedIn channel.history = receivedIn state.channel.history ++ own.change.toList) :
    Conducted render config routes { state with loop, channel } where
  kept := hkept
  attended := by
    intro change hmem
    have hdead := h.attended change (hclosed change hmem)
    rw [(dead_step hdead hloop).1]
    exact hdead
  ended := by
    intro hending hsteady
    obtain ⟨hbefore, hreason⟩ := ending_of_step hloop hending hsteady
    have hover : state.dropped = true ∧ state.channel.queue = [] :=
      hreason.elim hend fun hearlier => h.ended hearlier hbefore
    exact ⟨hover.1, hqueue hover.2⟩
  inTurn := by
    intro halive
    have hbefore : state.loop.phase ≠ .aborted := by
      intro haborted
      apply halive
      rw [(dead_step (by rw [haborted]; rfl) hloop).1]
      exact haborted
    have hlabel : own ≠ .abort := by
      rintro rfl
      obtain ⟨-, rfl⟩ := when_eq_some.mp hloop
      exact halive rfl
    rw [hreceived]
    exact (h.inTurn hbefore).step hlabel hloop

theorem Conducted.step (h : Conducted render config routes state) {label : PipelineLabel}
    (hstep : pipelineStep render config routes state label = some next) : Conducted render config routes next := by
  rcases pipelineStep_cases hstep with ⟨change, -, hdropped, rfl⟩ | ⟨-, hdropped, rfl⟩ |
    ⟨change, channel, loop, -, hreceive, hloop, rfl⟩ | ⟨own, loop, -, hchange, hclosed, hloop, rfl⟩
  · exact h.notify hdropped change
  · refine ⟨h.kept, h.attended, fun hend hsteady => ⟨rfl, (h.ended hend hsteady).2⟩, h.inTurn⟩
  · have hreceived := Mailbox.receivedIn_receive hreceive
    have hkept := h.kept.receive hreceive
    obtain ⟨rest, hqueue, rfl⟩ := Mailbox.receive_eq_some.mp hreceive
    refine h.loop hloop hkept (fun other hmem => ?_) (fun hempty => ?_) (fun hend => by cases hend) hreceived
    · simpa using hmem
    · rw [hqueue] at hempty
      cases hempty
  · refine h.loop hloop h.kept (fun _ hmem => hmem) id hclosed ?_
    rw [hchange, Option.toList_none, List.append_nil]

/-- Devices of one server share no channel. -/
theorem separate_of_fresh {server : ServerConfig} {mappings : List ResolvedMapping}
    {results : List (Except StatusCode Nat)} {publishers : List Publisher}
    (h : FreshPublishers (routesOf ((targetsOf (mappings.map (AppliedDeviceType.new server))).zip results)) publishers) :
    Separate (publishers.map (·.entity)) := by
  obtain ⟨hnodup, -, hentities⟩ := h
  have hdevice : ∀ entity ∈ publishers.map (·.entity),
      ∃ device ∈ mappings.map (AppliedDeviceType.new server), device.entity = entity := by
    intro entity hmem
    obtain ⟨target, htarget, rfl⟩ := (hentities entity).mp hmem
    obtain ⟨handle, hget⟩ := (OrderedMap.mem_values_iff _).mp htarget
    obtain ⟨i, hat, -⟩ := granted_of_get hget
    obtain ⟨device, hdevice, hnode⟩ := List.mem_flatMap.mp (List.mem_of_getElem? hat)
    obtain ⟨node, -, rfl⟩ := List.mem_map.mp hnode
    exact ⟨device, hdevice, rfl⟩
  refine hnodup.imp_of_mem ?_
  rintro first second hfirst hsecond hne channel channel' hsame
  obtain ⟨device, hmem, rfl⟩ := hdevice first hfirst
  obtain ⟨other, hother, rfl⟩ := hdevice second hsecond
  have hown : OnChannel device.entity ⟨device.entity.channel_topic channel, .bytes "", false⟩ := ⟨channel, rfl⟩
  exact hne (entity_of_onChannel hmem hother hown ⟨channel', hsame⟩)

theorem conducted_start (h : (pipeline render config routes).start state)
    (hseparate : Separate (state.loop.publishers.map (·.entity))) : Conducted render config routes state := by
  obtain ⟨hloop, hchannel, hdropped⟩ := h
  have hphase := hloop.2.2.1
  refine ⟨?_, fun change hmem => ?_, fun hend _ => ?_, fun _ => ?_⟩
  · rw [hchannel]
    exact Mailbox.kept_empty config.channel_capacity
  · rw [hchannel] at hmem
    cases hmem
  · rw [hphase] at hend
    cases hend
  · rw [hchannel]
    exact inTurn_start hloop hseparate

/-- What has been received is published: the readings of each device are the values that
were routed to it, in order, and the messages handed over, with those of the batch that is
pending, say what these come to. -/
def Published (render : Rendering) (routes : Routes) (state : Pipeline) (entity : EntityTopicId) : Prop :=
  ∃ publisher ∈ state.loop.publishers, publisher.entity = entity ∧
    ∃ readings : List Reading,
      readings.map (fun reading => (reading.node, reading.data_value)) =
        (receivedIn state.channel.history).filterMap (routed routes entity) ∧
      ∀ now, Conveys render entity false readings (handedIn state.loop.log ++ (publisher.flush render now).2)

theorem Conducted.published (h : Conducted render config routes state)
    (hphase : state.loop.phase = .selecting ∨ state.loop.phase = .returned) {target : SubscribedTarget}
    (hmem : target ∈ routes.values) : Published render routes state target.entity := by
  have hbetween : state.loop.phase.Between := by
    rcases hphase with hphase | hphase
    · rw [hphase]
      exact between_selecting
    · rw [hphase]
      exact between_returned
  have halive : state.loop.phase ≠ .aborted := by
    intro haborted
    rw [haborted] at hphase
    simp at hphase
  have hturns := h.inTurn halive
  obtain ⟨publisher, hpublisher, hentity⟩ := List.mem_map.mp (hturns.served target hmem)
  obtain ⟨index, hindex⟩ := List.mem_iff_getElem?.mp hpublisher
  have htracks := hturns.tracks index publisher hindex
  rw [hbetween.remaining, LoopState.told, hbetween.inHand, List.append_nil, hentity] at htracks
  exact ⟨publisher, hpublisher, hentity, htracks.conveys⟩

theorem conducted_of_reachable (server : ServerConfig) (mappings : List ResolvedMapping)
    (results : List (Except StatusCode Nat))
    (hroutes : routes = routesOf ((targetsOf (mappings.map (AppliedDeviceType.new server))).zip results))
    (h : (pipeline render config routes).Reachable state) : Conducted render config routes state := by
  refine h.invariant (Conducted render config routes) (fun s hstart => ?_) fun _ _ _ hinv _ hstep => hinv.step hstep
  have hfresh := hstart.1.2.2.2.1
  rw [hroutes] at hfresh
  exact conducted_start hstart (separate_of_fresh hfresh)

/-- Nothing is pending in a loop that has returned. -/
theorem nothing_pending (h : (pipeline render config routes).Reachable state)
    (hphase : state.loop.phase = .returned) {publisher : Publisher} (hmem : publisher ∈ state.loop.publishers)
    (now : DateTime) : (publisher.flush render now).2 = [] := by
  have hloop : LoopInv state.loop := ((loopOf render config routes).reachable h).invariant LoopInv
    (fun _ hstart => loopInv_start hstart) fun _ _ _ hinv _ hstep => hinv.step hstep
  have hflushed := hloop.flushed
  simp only [Flushed, hphase] at hflushed
  rw [Publisher.flush, hflushed publisher hmem]
  rfl

variable (render config) in
/-- The way of a value from the session to the client. The channel is first in, first out,
and turns a value away only when it is full or the loop has ended. Whenever the loop waits
or has returned, every device's messages, completed by a flush, say what the values that
were received for it come to. A loop that nobody has cancelled returns only when every
value in the channel was received, and a loop that has returned has nothing pending. -/
theorem notifications_published (server : ServerConfig) (mappings : List ResolvedMapping)
    (results : List (Except StatusCode Nat))
    (hroutes : routes = routesOf ((targetsOf (mappings.map (AppliedDeviceType.new server))).zip results))
    (h : (pipeline render config routes).Reachable state) :
    Faithful config.channel_capacity state.channel.history ∧
      (∀ change, .offered change .closed ∈ state.channel.history → state.loop.phase.isDead = true) ∧
      (state.loop.phase = .selecting ∨ state.loop.phase = .returned →
        ∀ target ∈ routes.values, Published render routes state target.entity) ∧
      (state.loop.phase = .returned →
        (state.loop.owner = .steady → receivedIn state.channel.history = sentIn state.channel.history) ∧
        ∀ publisher ∈ state.loop.publishers, ∀ now, (publisher.flush render now).2 = []) := by
  have hconducted := conducted_of_reachable server mappings results hroutes h
  refine ⟨hconducted.kept.faithful, hconducted.attended, fun hphase target hmem => hconducted.published hphase hmem,
    fun hreturned => ⟨fun hsteady => ?_, fun publisher hmem now => nothing_pending h hreturned hmem now⟩⟩
  have hending : state.loop.phase.isEnding = true := by
    rw [hreturned]
    rfl
  obtain ⟨-, hempty⟩ := hconducted.ended hending hsteady
  have hbooks := hconducted.kept.books
  rw [hempty, List.append_nil] at hbooks
  exact hbooks.symm

end Run

section Sample

def plcServer : ServerConfig where
  id := "plc"
  name := "plc"
  url := "opc.tcp://plc:4840"
  security_policy := "None"
  user := none
  password := none
  device_types := []
  external_id := none
  topic_id_override := none

/-- A channel for one value. -/
def narrowConfig : SubscriptionConfig := { SubscriptionConfig.default with channel_capacity := 1 }

def pumpMapping : ResolvedMapping := ⟨"pump", "Pump", "i=85", [flowNode]⟩

def pumpRoutes : Routes := routesOf ((targetsOf ([pumpMapping].map (AppliedDeviceType.new plcServer))).zip [.ok 1])

def pumpPipeline : Pipeline := ⟨flowLoop, .empty, false⟩

/-- A value is published, another is refused by the channel, and the session drops the
subscription. -/
def pumpRun : List PipelineLabel :=
  [.notify flowChange, .notify flowChange, .loop .poll, .loop (.notified flowChange), .loop (.advance 0),
    .loop (.advance 0), .drop, .loop .closed, .loop (.advance 0), .loop (.advance 0), .loop (.advance 0)]

theorem notifications_published_pump : ∃ state,
    (pipeline plainRendering narrowConfig pumpRoutes).Reachable state ∧
      state.loop.phase = .returned ∧ .offered flowChange .full ∈ state.channel.history ∧
      receivedIn state.channel.history = sentIn state.channel.history ∧
      Published plainRendering pumpRoutes state pumpEntity := by
  obtain ⟨state, hrun, hphase, hsteady, hfull⟩ : ∃ state,
      (pipeline plainRendering narrowConfig pumpRoutes).exec pumpPipeline pumpRun = some state ∧
        state.loop.phase = .returned ∧ state.loop.owner = .steady ∧
        .offered flowChange .full ∈ state.channel.history := ⟨_, rfl, rfl, rfl, by decide⟩
  have hvalues : pumpRoutes.values = [⟨pumpEntity, "pump", flowNode⟩] := by decide
  have hstart : (pipeline plainRendering narrowConfig pumpRoutes).start pumpPipeline := by
    refine ⟨⟨rfl, rfl, rfl, ⟨by decide, by decide, fun entity => ?_⟩, rfl⟩, rfl, rfl⟩
    simp [hvalues, pumpPipeline, flowLoop, Publisher.new, eq_comm]
  have hreach := Machine.Reachable.exec (.start hstart) hrun
  obtain ⟨-, -, hpublished, hended⟩ :=
    notifications_published plainRendering narrowConfig plcServer [pumpMapping] [.ok 1] rfl hreach
  have hmem : ⟨pumpEntity, "pump", flowNode⟩ ∈ pumpRoutes.values := by
    rw [hvalues]
    exact List.mem_singleton_self _
  exact ⟨state, hreach, hphase, hfull, (hended hphase).1 hsteady, hpublished (Or.inr hphase) _ hmem⟩

end Sample

end gateway.server_task
