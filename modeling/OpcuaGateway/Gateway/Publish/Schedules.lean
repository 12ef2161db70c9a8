import OpcuaGateway.Foundation.Coalesce
import OpcuaGateway.Gateway.Publish.Batches

open coalesce json ordered_map tedge.topic tedge.mqtt mapping.model mapping.value mapping.payload mapping.resolve

namespace gateway.publish

/-- What the owner of a publisher calls, in some order. -/
inductive Turn where
  | accept (reading : Reading)
  | flush (now : DateTime)

def Publisher.turn (render : Rendering) (publisher : Publisher) : Turn → Publisher × List Publish
  | .accept reading => publisher.accept render reading.clock reading.node reading.data_value
  | .flush now => publisher.flush render now

/-- The publisher after some calls, with what it published over them. -/
def Publisher.runTurns (render : Rendering) (publisher : Publisher) : List Turn → Publisher × List Publish
  | [] => (publisher, [])
  | turn :: rest =>
    let (next, first) := publisher.turn render turn
    let (last, others) := runTurns render next rest
    (last, first ++ others)

def Turn.reading : Turn → Option Reading
  | .accept reading => some reading
  | .flush _ => none

/-- The values that are accepted, whenever it is flushed. -/
def acceptedReadings (turns : List Turn) : List Reading := turns.filterMap Turn.reading

/-- What a publisher remembers beyond a flush. -/
def Publisher.unbatched (self : Publisher) : Publisher := { self with batch := .empty, pending_series := 0 }

/-- The numbers that are contributed to a slot of the message of a type, in order. -/
def numbersAt (slot : Slot) (contributions : List Contribution) : List Number :=
  (contributions.filter (·.slot = slot)).filterMap (·.number)

/-- What a message says at a slot. -/
def valueAt (slot : Slot) (message : Publish) : Option Value :=
  match message.payload with
  | .json body => (body.get slot.fragment).bind (Value.get slot.series)
  | .bytes _ => none

/-- What the messages of a type say at a slot, in order. -/
def saidAt (entity : EntityTopicId) (type : String) (slot : Slot) (messages : List Publish) : List Value :=
  (onTopic (measurementTopic entity type) messages).filterMap (valueAt slot)

section Memory

variable (render : Rendering) {publisher other : Publisher}

theorem eq_of_unbatched_eq (h : publisher.unbatched = other.unbatched) : publisher.entity = other.entity ∧
    publisher.dedup_events = other.dedup_events ∧ publisher.last_event = other.last_event ∧
    publisher.last_alarm = other.last_alarm := by
  simpa [Publisher.unbatched] using h

/-- What an action publishes at once, and what is remembered of it, does not depend on
the batch. -/
theorem unbatched_acceptAction (h : publisher.unbatched = other.unbatched) (now : DateTime) (node : ResolvedNode)
    (data_value : DataValue) (action : Action) :
    (publisher.acceptAction render now node data_value action).1.unbatched =
        (other.acceptAction render now node data_value action).1.unbatched ∧
      (publisher.acceptAction render now node data_value action).2 =
        (other.acceptAction render now node data_value action).2 := by
  obtain ⟨hentity, hdedup, hevent, halarm⟩ := eq_of_unbatched_eq h
  cases action with
  | Measurement creation =>
    have hframe : ∀ p : Publisher, (p.acceptMeasurement render now creation node data_value).unbatched = p.unbatched := by
      intro p
      unfold Publisher.acceptMeasurement
      split <;> rfl
    exact ⟨((hframe publisher).trans h).trans (hframe other).symm, rfl⟩
  | Event creation =>
    simp only [Publisher.acceptAction, Publisher.acceptEvent, hentity, hdedup, hevent]
    split
    · exact ⟨h, rfl⟩
    · split
      · split
        · exact ⟨h, rfl⟩
        · simp [Publisher.unbatched, halarm]
      · exact ⟨h, rfl⟩
  | Alarm creation =>
    simp only [Publisher.acceptAction, Publisher.acceptAlarm, hentity, halarm]
    split
    · split
      · exact ⟨h, rfl⟩
      · simp [Publisher.unbatched, hdedup, hevent]
    · exact ⟨h, rfl⟩

theorem unbatched_acceptActions (h : publisher.unbatched = other.unbatched) (node : ResolvedNode) (data_value : DataValue)
    (actions : List Action) (clock : Nat → DateTime) :
    (Publisher.acceptActions render node data_value publisher actions clock).1.unbatched =
        (Publisher.acceptActions render node data_value other actions clock).1.unbatched ∧
      (Publisher.acceptActions render node data_value publisher actions clock).2 =
        (Publisher.acceptActions render node data_value other actions clock).2 := by
  induction actions generalizing publisher other clock with
  | nil => exact ⟨h, rfl⟩
  | cons action rest ih =>
    obtain ⟨hunbatched, hfirst⟩ := unbatched_acceptAction render h (clock 0) node data_value action
    obtain ⟨hlast, hothers⟩ := ih hunbatched fun i => clock (i + 1)
    refine ⟨hlast, ?_⟩
    simp only [Publisher.acceptActions, hfirst, hothers]

theorem unbatched_accept (h : publisher.unbatched = other.unbatched) (reading : Reading) :
    (publisher.accept render reading.clock reading.node reading.data_value).1.unbatched =
        (other.accept render reading.clock reading.node reading.data_value).1.unbatched ∧
      (publisher.accept render reading.clock reading.node reading.data_value).2 =
        (other.accept render reading.clock reading.node reading.data_value).2 := by
  unfold Publisher.accept
  split
  · exact ⟨h, rfl⟩
  · exact unbatched_acceptActions render h reading.node reading.data_value reading.node.actions reading.clock

end Memory

section Slots

variable {render : Rendering} {publisher : Publisher} {contributed : String → List Contribution} {type : String}
  {slot : Slot} {entity : EntityTopicId}

/-- The message of a type says the last number of each slot. -/
theorem valueAt_build (entity : EntityTopicId) (contributions : List Contribution) (now : DateTime)
    (hspared : slot.fragment ≠ "time") :
    (((builderOf render contributions).build render now).map (TedgeMqtt.publish_measurement entity type)).toList.filterMap
      (valueAt slot) = ((numbersAt slot contributions).map Value.number).getLast?.toList := by
  have hread : readSlot (builderOf render contributions).fragments slot =
      ((numbersAt slot contributions).map Value.number).getLast? := by
    rw [readSlot_builderOf, List.getLast?_map]
    rfl
  rw [← hread]
  cases hcontributions : numeric contributions with
  | nil =>
    have hcount := series_count_builderOf render contributions
    have hnew : builderOf render contributions = .new := by
      rw [← builderOf_numeric, hcontributions]
      rfl
    rw [hnew]
    rfl
  | cons oldest rest =>
    rw [build_builderOf hcontributions, Option.map_some, Option.toList_some]
    have hvalue : valueAt slot (TedgeMqtt.publish_measurement entity type
        (.object (((builderOf render contributions).fragments.mapValues fun series =>
          Value.object series.entries).insert "time" (.string (oldest.dated render))).entries)) =
        readSlot (builderOf render contributions).fragments slot := by
      change ((Value.object _).get slot.fragment).bind (Value.get slot.series) = _
      rw [get_body, if_neg hspared, Option.bind_map]
      rfl
    rw [List.filterMap_cons, hvalue]
    cases readSlot (builderOf render contributions).fragments slot <;> rfl

/-- What is announced at once is not a measurement. -/
theorem Announces.topic_ne {entity : EntityTopicId} {node : ResolvedNode} {data_value : DataValue} {action : Action}
    {message : Publish} (h : Announces render entity node data_value action message) (type : String) :
    message.topic ≠ measurementTopic entity type := by
  have hne : ∀ channel : String, channel.toList.head? ≠ some 'm' →
      entity.channel_topic channel ≠ measurementTopic entity type := by
    intro channel hhead hsame
    rw [channel_topic_inj.mp hsame, String.toList_append] at hhead
    exact hhead rfl
  cases h with
  | event now htype => exact hne _ (by simp [String.toList_append])
  | raised now htype hactive => exact hne _ (by simp [String.toList_append])
  | cleared htype hactive => exact hne _ (by simp [String.toList_append])

theorem onTopic_acceptActions (node : ResolvedNode) (data_value : DataValue) (actions : List Action)
    (clock : Nat → DateTime) (hentity : publisher.entity = entity) :
    onTopic (measurementTopic entity type)
      (Publisher.acceptActions render node data_value publisher actions clock).2 = [] := by
  induction actions generalizing publisher clock with
  | nil => rfl
  | cons action rest ih =>
    have hnext : Confined publisher (publisher.acceptAction render (clock 0) node data_value action) :=
      acceptAction_confined render (clock 0) node data_value action
    rw [Publisher.acceptActions, onTopic, List.filter_append]
    refine List.append_eq_nil_iff.mpr ⟨?_, ih (fun i => clock (i + 1)) (hnext.entity.trans hentity)⟩
    rw [List.filter_eq_nil_iff]
    intro message hmem hsame
    have hannounced := announces_of_acceptAction hmem
    rw [hentity] at hannounced
    exact hannounced.topic_ne type (of_decide_eq_true hsame)

theorem onTopic_accept (reading : Reading) : onTopic (measurementTopic publisher.entity type)
    (publisher.accept render reading.clock reading.node reading.data_value).2 = [] := by
  unfold Publisher.accept
  split
  · rfl
  · exact onTopic_acceptActions reading.node reading.data_value reading.node.actions reading.clock rfl

/-- A flush has nothing else to publish. -/
theorem onTopic_flush (now : DateTime) {topic : String} (htopic : ∀ type, topic ≠ measurementTopic publisher.entity type) :
    onTopic topic (publisher.flush render now).2 = [] := by
  rw [onTopic, List.filter_eq_nil_iff]
  intro message hmem hsame
  obtain ⟨⟨type, builder⟩, -, hbuilt⟩ := List.mem_filterMap.mp hmem
  obtain ⟨body, -, rfl⟩ := Option.map_eq_some_iff.mp hbuilt
  exact htopic type (of_decide_eq_true hsame).symm

theorem onTopic_append (topic : String) (first others : List Publish) :
    onTopic topic (first ++ others) = onTopic topic first ++ onTopic topic others := List.filter_append ..

theorem numbersAt_append (slot : Slot) (first others : List Contribution) :
    numbersAt slot (first ++ others) = numbersAt slot first ++ numbersAt slot others := by
  simp [numbersAt]

theorem saidAt_append (entity : EntityTopicId) (type : String) (slot : Slot) (first others : List Publish) :
    saidAt entity type slot (first ++ others) =
      saidAt entity type slot first ++ saidAt entity type slot others := by
  rw [saidAt, onTopic_append, List.filterMap_append]
  rfl

/-- Whenever a publisher is flushed over some calls, what it says at a slot coalesces what
was contributed to it. -/
theorem coalesces_runTurns (hspared : slot.fragment ≠ "time") (turns : List Turn) (now : DateTime)
    (hbatch : BatchOf render publisher contributed) :
    Coalesces ((numbersAt slot (contributed type ++
        (acceptedReadings turns).flatMap (Reading.contributions type))).map Value.number)
      (saidAt publisher.entity type slot (publisher.runTurns render (turns ++ [.flush now])).2) := by
  induction turns generalizing publisher contributed with
  | nil =>
    have hflush := hbatch.flush now type
    have hsaid : saidAt publisher.entity type slot (publisher.runTurns render [.flush now]).2 =
        ((numbersAt slot (contributed type)).map Value.number).getLast?.toList := by
      have hrun : (publisher.runTurns render [.flush now]).2 = (publisher.flush render now).2 := List.append_nil _
      rw [hrun, saidAt, hflush, valueAt_build publisher.entity (contributed type) now hspared]
    rw [List.nil_append, hsaid, acceptedReadings, List.filterMap_nil, List.flatMap_nil, List.append_nil]
    exact coalesces_last _
  | cons turn rest ih =>
    rw [List.cons_append, Publisher.runTurns, saidAt_append]
    cases turn with
    | accept reading =>
      have hconfined : Confined publisher (publisher.turn render (.accept reading)) :=
        accept_confined render reading.node reading.data_value reading.clock
      have hnone : saidAt publisher.entity type slot (publisher.turn render (.accept reading)).2 = [] := by
        rw [Publisher.turn, saidAt, onTopic_accept, List.filterMap_nil]
      have hrest := ih (hbatch.accept reading)
      rw [List.append_assoc] at hrest
      rw [hnone, List.nil_append, ← hconfined.entity]
      exact hrest
    | flush moment =>
      have hsaid : saidAt publisher.entity type slot (publisher.turn render (.flush moment)).2 =
          ((numbersAt slot (contributed type)).map Value.number).getLast?.toList := by
        rw [Publisher.turn, saidAt, hbatch.flush moment type,
          valueAt_build publisher.entity (contributed type) moment hspared]
      have hempty : BatchOf render (publisher.flush render moment).1 fun _ => [] := batchOf_empty rfl
      have hrest := ih hempty
      rw [List.nil_append] at hrest
      rw [hsaid, numbersAt_append, List.map_append]
      exact (coalesces_last _).append hrest

variable (render) in
/-- Whenever a publisher is flushed over some calls, everything else is published as if it
never were. -/
theorem others_runTurns {other : Publisher} (hunbatched : publisher.unbatched = other.unbatched) {topic : String}
    (htopic : ∀ type, topic ≠ measurementTopic publisher.entity type) (turns : List Turn) :
    onTopic topic (publisher.runTurns render turns).2 =
      onTopic topic (other.acceptAll render (acceptedReadings turns)).2 := by
  induction turns generalizing publisher other with
  | nil => rfl
  | cons turn rest ih =>
    cases turn with
    | accept reading =>
      obtain ⟨hnext, hfirst⟩ := unbatched_accept render hunbatched reading
      have hconfined : Confined publisher (publisher.accept render reading.clock reading.node reading.data_value) :=
        accept_confined render reading.node reading.data_value reading.clock
      have hrest := ih hnext (by rw [hconfined.entity]; exact htopic)
      have hreadings : acceptedReadings (.accept reading :: rest) = reading :: acceptedReadings rest := rfl
      rw [Publisher.runTurns, onTopic_append, hreadings, Publisher.acceptAll, onTopic_append, ← hfirst]
      exact congrArg _ hrest
    | flush now =>
      have hforgotten : (publisher.flush render now).1.unbatched = other.unbatched := hunbatched
      have hrest := ih hforgotten htopic
      rw [Publisher.runTurns, onTopic_append, Publisher.turn, onTopic_flush now htopic, List.nil_append]
      exact hrest

theorem runTurns_append (first second : List Turn) :
    publisher.runTurns render (first ++ second) =
      (((publisher.runTurns render first).1.runTurns render second).1,
        (publisher.runTurns render first).2 ++ ((publisher.runTurns render first).1.runTurns render second).2) := by
  induction first generalizing publisher with
  | nil => rfl
  | cons turn rest ih =>
    simp only [List.cons_append, Publisher.runTurns, ih, List.append_assoc]

theorem acceptedReadings_flush (turns : List Turn) (now : DateTime) :
    acceptedReadings (turns ++ [.flush now]) = acceptedReadings turns := by
  rw [acceptedReadings, List.filterMap_append]
  exact List.append_nil _

end Slots

section Conveys

/-- The messages say of a device what its readings come to: its events and alarms are those
of the readings, and at each slot they say some of the numbers that the readings contribute,
in order, and the last of them last. -/
structure Conveys (render : Rendering) (entity : EntityTopicId) (dedup_events : Bool) (readings : List Reading)
    (messages : List Publish) : Prop where
  announced : ∀ channel, (∀ type, channel ≠ "m/" ++ type) →
    onTopic (entity.channel_topic channel) messages =
      onTopic (entity.channel_topic channel) ((Publisher.new entity dedup_events).acceptAll render readings).2
  measured : ∀ type slot, slot.fragment ≠ "time" →
    Coalesces ((numbersAt slot (readings.flatMap (Reading.contributions type))).map Value.number)
      (saidAt entity type slot messages)

variable {render : Rendering} {entity : EntityTopicId} {dedup_events : Bool} {readings : List Reading}
  {messages others : List Publish}

/-- Messages on other topics do not matter. -/
theorem Conveys.congr (h : Conveys render entity dedup_events readings messages)
    (hsame : ∀ channel, onTopic (entity.channel_topic channel) others = onTopic (entity.channel_topic channel) messages) :
    Conveys render entity dedup_events readings others where
  announced := by
    intro channel hchannel
    rw [hsame]
    exact h.announced channel hchannel
  measured := by
    intro type slot hspared
    have hmeasured := h.measured type slot hspared
    rw [saidAt, measurementTopic] at hmeasured ⊢
    rw [hsame]
    exact hmeasured

variable (render entity dedup_events) in
theorem conveys_runTurns (turns : List Turn) (now : DateTime) :
    Conveys render entity dedup_events (acceptedReadings turns)
      ((Publisher.new entity dedup_events).runTurns render (turns ++ [.flush now])).2 where
  announced := by
    intro channel hchannel
    have htopic : ∀ type, entity.channel_topic channel ≠ measurementTopic entity type :=
      fun type hsame => hchannel type (channel_topic_inj.mp hsame)
    have hunbatched : (Publisher.new entity dedup_events).unbatched = (Publisher.new entity dedup_events).unbatched := rfl
    have hothers := others_runTurns render hunbatched htopic (turns ++ [Turn.flush now])
    rw [hothers, acceptedReadings_flush]
  measured := by
    intro type slot hspared
    have hempty : BatchOf render (Publisher.new entity dedup_events) fun _ => [] := batchOf_empty rfl
    exact coalesces_runTurns hspared turns now hempty

end Conveys

/-- When a publisher is flushed changes nothing of what the client takes of its events and
alarms. On each topic of measurements that the client takes, the messages say at each slot
some of the numbers that were contributed, in order, and the last of them last. The
timestamp displaces the fragment `time`. -/
theorem flushes_transparent (client : Client) (render : Rendering) (entity : EntityTopicId) (dedup_events : Bool)
    (turns : List Turn) (now : DateTime) :
    (∀ topic, (∀ type, topic ≠ measurementTopic entity type) →
      onTopic topic (client.taken ((Publisher.new entity dedup_events).runTurns render (turns ++ [.flush now])).2) =
        onTopic topic
          (client.taken ((Publisher.new entity dedup_events).acceptAll render (acceptedReadings turns)).2)) ∧
      ∀ type slot, slot.fragment ≠ "time" → client.takes (measurementTopic entity type) = true →
        Coalesces
          ((numbersAt slot ((acceptedReadings turns).flatMap (Reading.contributions type))).map Value.number)
          (saidAt entity type slot
            (client.taken ((Publisher.new entity dedup_events).runTurns render (turns ++ [.flush now])).2)) := by
  constructor
  · intro topic htopic
    have hunbatched : (Publisher.new entity dedup_events).unbatched = (Publisher.new entity dedup_events).unbatched := rfl
    have hothers := others_runTurns render hunbatched htopic (turns ++ [Turn.flush now])
    rw [onTopic_taken, onTopic_taken, hothers, acceptedReadings_flush]
  · intro type slot hspared htakes
    rw [saidAt, onTopic_taken, if_pos htakes]
    exact (conveys_runTurns render entity dedup_events turns now).measured type slot hspared

/-- Two values of a node in one batch. -/
def sampleTurns : List Turn :=
  [.accept ⟨flowNode "pump", goodValue (.Boolean true), fun _ => 0⟩,
    .accept ⟨flowNode "pump", goodValue (.Boolean false), fun _ => 1⟩]

theorem flushes_transparent_flow :
    Coalesces
      ((numbersAt ⟨"pump", "flow"⟩ ((acceptedReadings sampleTurns).flatMap (Reading.contributions "pump"))).map
        Value.number)
      (saidAt (.child_device "pump") "pump" ⟨"pump", "flow"⟩
        (Client.checking.taken
          ((Publisher.new (.child_device "pump") false).runTurns plainRendering (sampleTurns ++ [.flush 2])).2)) :=
  (flushes_transparent .checking plainRendering (.child_device "pump") false sampleTurns 2).2 "pump" ⟨"pump", "flow"⟩
    (by simp) (by decide)

end gateway.publish
