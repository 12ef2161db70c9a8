import OpcuaGateway.Gateway.Publish.Alarms

open ordered_map tedge.topic tedge.mqtt mapping.value mapping.payload mapping.resolve

namespace gateway.publish

/-- The message goes to a channel of the entity. -/
def OnChannel (entity : EntityTopicId) (message : Publish) : Prop :=
  ∃ channel, message.topic = entity.channel_topic channel

/-- The publisher stays that of its device, and its messages go to channels of it. -/
structure Confined (before : Publisher) (result : Publisher × List Publish) : Prop where
  entity : result.1.entity = before.entity
  messages : ∀ message ∈ result.2, OnChannel before.entity message

/-- A message that an action makes of a value at once, for a device. -/
inductive Announces (render : Rendering) (entity : EntityTopicId) (node : ResolvedNode) (data_value : DataValue) :
    Action → Publish → Prop
  | event {creation : mapping.model.EventCreation} {type : String} (now : DateTime) (htype : creation.type = some type) :
    Announces render entity node data_value (.Event creation)
      (TedgeMqtt.publish_event entity type (event render now creation node.node_id_str data_value))
  | raised {creation : mapping.model.AlarmCreation} {type : String} (now : DateTime) (htype : creation.type = some type)
      (hactive : data_value.value.bind as_bool = some true) :
    Announces render entity node data_value (.Alarm creation)
      (TedgeMqtt.raise_alarm entity type (alarm render now creation node.node_id_str data_value))
  | cleared {creation : mapping.model.AlarmCreation} {type : String} (htype : creation.type = some type)
      (hactive : data_value.value.bind as_bool = some false) :
    Announces render entity node data_value (.Alarm creation) (TedgeMqtt.clear_alarm entity type)

section Publisher

variable {before : Publisher}

theorem confined_nil {next : Publisher} (hentity : next.entity = before.entity) : Confined before (next, []) :=
  ⟨hentity, fun _ hmem => absurd hmem List.not_mem_nil⟩

theorem Confined.append {next last : Publisher} {first others : List Publish}
    (hfirst : Confined before (next, first)) (hothers : Confined next (last, others)) :
    Confined before (last, first ++ others) where
  entity := hothers.entity.trans hfirst.entity
  messages := by
    intro message hmem
    rcases List.mem_append.mp hmem with hmem | hmem
    · exact hfirst.messages message hmem
    · have hchannel := hothers.messages message hmem
      rwa [hfirst.entity] at hchannel

variable (render : Rendering) (now : DateTime) (node : ResolvedNode) (data_value : DataValue)

variable (before) in
/-- An event changes what is remembered of events only. -/
theorem acceptEvent_frame (creation : mapping.model.EventCreation) :
    (before.acceptEvent render now creation node data_value).1 =
      { before with last_event := (before.acceptEvent render now creation node data_value).1.last_event } := by
  unfold Publisher.acceptEvent
  split
  · rfl
  · dsimp only
    split
    · split <;> rfl
    · rfl

variable (before) in
/-- An alarm changes what is remembered of alarms only. -/
theorem acceptAlarm_frame (creation : mapping.model.AlarmCreation) :
    (before.acceptAlarm render now creation node data_value).1 =
      { before with last_alarm := (before.acceptAlarm render now creation node data_value).1.last_alarm } := by
  unfold Publisher.acceptAlarm
  split
  · dsimp only
    split <;> rfl
  · rfl

section Announces

variable {render now node data_value}

theorem Announces.onChannel {entity : EntityTopicId} {action : Action} {message : Publish}
    (h : Announces render entity node data_value action message) : OnChannel entity message := by
  cases h with
  | event now htype => exact ⟨_, rfl⟩
  | raised now htype hactive => exact ⟨_, rfl⟩
  | cleared htype hactive => exact ⟨_, rfl⟩

theorem announces_of_acceptEvent {creation : mapping.model.EventCreation} {message : Publish}
    (hmem : message ∈ (before.acceptEvent render now creation node data_value).2) :
    Announces render before.entity node data_value (.Event creation) message := by
  unfold Publisher.acceptEvent at hmem
  split at hmem
  · cases hmem
  · rename_i type htype
    dsimp only at hmem
    split at hmem
    · split at hmem
      · cases hmem
      · rw [List.mem_singleton.mp hmem]
        exact .event now htype
    · rw [List.mem_singleton.mp hmem]
      exact .event now htype

theorem announces_of_acceptAlarm {creation : mapping.model.AlarmCreation} {message : Publish}
    (hmem : message ∈ (before.acceptAlarm render now creation node data_value).2) :
    Announces render before.entity node data_value (.Alarm creation) message := by
  unfold Publisher.acceptAlarm at hmem
  split at hmem
  · rename_i type active htype hactive
    dsimp only at hmem
    split at hmem
    · cases hmem
    · rw [List.mem_singleton.mp hmem]
      cases active with
      | true => exact .raised now htype hactive
      | false => exact .cleared htype hactive
  · cases hmem

theorem announces_of_acceptAction {action : Action} {message : Publish}
    (hmem : message ∈ (before.acceptAction render now node data_value action).2) :
    Announces render before.entity node data_value action message := by
  cases action with
  | Measurement creation => cases hmem
  | Event creation => exact announces_of_acceptEvent hmem
  | Alarm creation => exact announces_of_acceptAlarm hmem

end Announces

theorem acceptMeasurement_confined (creation : mapping.model.MeasurementCreation) :
    Confined before (before.acceptMeasurement render now creation node data_value, []) := by
  unfold Publisher.acceptMeasurement
  split <;> exact confined_nil rfl

theorem acceptEvent_confined (creation : mapping.model.EventCreation) :
    Confined before (before.acceptEvent render now creation node data_value) where
  entity := by rw [acceptEvent_frame]
  messages := fun _ hmem => (announces_of_acceptEvent hmem).onChannel

theorem acceptAlarm_confined (creation : mapping.model.AlarmCreation) :
    Confined before (before.acceptAlarm render now creation node data_value) where
  entity := by rw [acceptAlarm_frame]
  messages := fun _ hmem => (announces_of_acceptAlarm hmem).onChannel

theorem acceptAction_confined (action : Action) :
    Confined before (before.acceptAction render now node data_value action) := by
  cases action with
  | Measurement creation => exact acceptMeasurement_confined render now node data_value creation
  | Event creation => exact acceptEvent_confined render now node data_value creation
  | Alarm creation => exact acceptAlarm_confined render now node data_value creation

theorem acceptActions_confined (actions : List Action) (clock : Nat → DateTime) :
    Confined before (Publisher.acceptActions render node data_value before actions clock) := by
  induction actions generalizing before clock with
  | nil => exact confined_nil rfl
  | cons action rest ih =>
    have hfirst : Confined before (before.acceptAction render (clock 0) node data_value action) :=
      acceptAction_confined render (clock 0) node data_value action
    exact hfirst.append (ih _)

/-- Whatever a value holds, a publisher speaks of its own device only. -/
theorem accept_confined (clock : Nat → DateTime) :
    Confined before (before.accept render clock node data_value) := by
  unfold Publisher.accept
  split
  · exact confined_nil rfl
  · exact acceptActions_confined render node data_value node.actions clock

theorem flush_confined : Confined before (before.flush render now) where
  entity := rfl
  messages := by
    intro message hmem
    obtain ⟨⟨type, builder⟩, -, hbuilt⟩ := List.mem_filterMap.mp hmem
    obtain ⟨body, -, rfl⟩ := Option.map_eq_some_iff.mp hbuilt
    exact ⟨_, rfl⟩

end Publisher

theorem mem_of_onTopic_eq {topic : String} {messages : List Publish} {message : Publish}
    (h : onTopic topic messages = [message]) : message ∈ messages := by
  have hmem : message ∈ onTopic topic messages := by
    rw [h]
    exact List.mem_singleton_self message
  exact (List.mem_filter.mp hmem).1

/-- The messages on a topic are taken or refused together. -/
theorem onTopic_taken (client : Client) (topic : String) (messages : List Publish) :
    onTopic topic (client.taken messages) = if client.takes topic then onTopic topic messages else [] := by
  rw [onTopic, Client.taken, List.filter_filter]
  split
  · rename_i htakes
    refine List.filter_congr fun message _ => ?_
    by_cases htopic : message.topic = topic
    · simp [htopic, htakes]
    · simp [htopic]
  · rename_i hrefuses
    refine List.filter_eq_nil_iff.mpr fun message _ => ?_
    by_cases htopic : message.topic = topic
    · simp [htopic, hrefuses]
    · simp [htopic]

/-- Messages made of the entries of a map, each on a topic of its key, are found by
looking the key up. -/
theorem onTopic_entries {V : Type} (m : OrderedMap String V) (message : String → V → Option Publish)
    (topicOf : String → String) (key : String) (hinj : ∀ other, topicOf other = topicOf key → other = key)
    (htopic : ∀ other v, ∀ published ∈ message other v, published.topic = topicOf other) :
    onTopic (topicOf key) (m.entries.filterMap fun e => message e.1 e.2) =
      ((m.get key).bind (message key)).toList := by
  rw [← m.filterMap_entries_key key (message key), onTopic, List.filter_filterMap]
  refine List.filterMap_congr fun e _ => ?_
  cases hpublished : message e.1 e.2 with
  | none =>
    by_cases hkey : e.1 = key
    · rw [if_pos hkey, ← hkey, hpublished]
      rfl
    · rw [if_neg hkey]
      rfl
  | some published =>
    have hmessage := htopic e.1 e.2 published hpublished
    by_cases hkey : e.1 = key
    · rw [if_pos hkey, ← hkey, hpublished, Option.filter_some, if_pos (by simp [hmessage])]
    · have hother : topicOf e.1 ≠ topicOf key := fun h => hkey (hinj e.1 h)
      rw [if_neg hkey, Option.filter_some, if_neg (by simpa [hmessage] using hother)]

theorem publish_units_onChannel {entity : EntityTopicId} {mapping : ResolvedMapping} {message : Publish}
    (hmem : message ∈ publish_units entity mapping) : OnChannel entity message := by
  obtain ⟨⟨type, series⟩, -, hdeclared⟩ := List.mem_filterMap.mp hmem
  obtain ⟨body, -, rfl⟩ := Option.map_eq_some_iff.mp hdeclared
  exact ⟨_, rfl⟩

end gateway.publish
