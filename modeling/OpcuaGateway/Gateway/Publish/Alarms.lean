import OpcuaGateway.Foundation.Changes
import OpcuaGateway.Gateway.Publish

open text json ordered_map readings tedge.topic tedge.mqtt mapping.value mapping.payload mapping.resolve

namespace gateway.publish

/-- The topic of a device's alarms of one type. -/
def alarmTopic (entity : EntityTopicId) (type : String) : String := entity.channel_topic ("a/" ++ type)

def onTopic (topic : String) (messages : List Publish) : List Publish :=
  messages.filter fun message => decide (message.topic = topic)

/-- A message that raises the alarm, or one that clears it. -/
def Signals (entity : EntityTopicId) (type : String) (active : Bool) (message : Publish) : Prop :=
  if active then ∃ body, message = TedgeMqtt.raise_alarm entity type body
  else message = TedgeMqtt.clear_alarm entity type

/-- The state an action reads off a good value when it carries alarms of this type. -/
def actionReading (type : String) (data_value : DataValue) : Action → Option Bool
  | .Alarm creation => if creation.type = some type then data_value.value.bind as_bool else none
  | _ => none

/-- What the alarm actions of a node read off a value, under the NodeId. -/
def nodeReadings (type : String) (node : ResolvedNode) (data_value : DataValue) (actions : List Action) :
    List (String × Bool) :=
  (actions.filterMap (actionReading type data_value)).map fun active => (node.node_id_str, active)

/-- What a publisher remembers of the alarms of one type. -/
def alarmMemory (publisher : Publisher) (type : String) (node_id : String) : Option Bool :=
  publisher.last_alarm.get (toLex (node_id, type))

/-- Messages published for some readings: the publisher remembers the readings, and
its messages about the alarm are those of the changes among them. -/
structure Follows (type : String) (before : Publisher) (seen : List (String × Bool))
    (result : Publisher × List Publish) : Prop where
  entity : result.1.entity = before.entity
  memory : alarmMemory result.1 type = latestFrom (alarmMemory before type) seen
  messages : List.Forall₂ (fun change message => Signals before.entity type change.2 message)
    (changesFrom (alarmMemory before type) seen) (onTopic (alarmTopic before.entity type) result.2)

section Publisher

variable {type : String} {before : Publisher}

theorem channel_topic_inj {entity : EntityTopicId} {channel channel' : String} :
    entity.channel_topic channel = entity.channel_topic channel' ↔ channel = channel' := by
  rw [EntityTopicId.channel_topic_eq, EntityTopicId.channel_topic_eq, String.append_right_inj,
    String.append_right_inj]

theorem alarmTopic_inj {entity : EntityTopicId} {type' : String} :
    entity.channel_topic ("a/" ++ type') = alarmTopic entity type ↔ type' = type := by
  rw [alarmTopic, channel_topic_inj, String.append_right_inj]

theorem event_topic_ne (entity : EntityTopicId) (type' : String) :
    entity.channel_topic ("e/" ++ type') ≠ alarmTopic entity type := by
  rw [alarmTopic, Ne, channel_topic_inj]
  intro h
  simpa [String.toList_append] using congrArg String.toList h

theorem measurement_topic_ne (entity : EntityTopicId) (type' : String) :
    entity.channel_topic ("m/" ++ type') ≠ alarmTopic entity type := by
  rw [alarmTopic, Ne, channel_topic_inj]
  intro h
  simpa [String.toList_append] using congrArg String.toList h

/-- Messages about anything else leave the alarm as it is. -/
theorem follows_nil {result : Publisher × List Publish} (hentity : result.1.entity = before.entity)
    (hmemory : result.1.last_alarm = before.last_alarm)
    (hmessages : ∀ message ∈ result.2, message.topic ≠ alarmTopic before.entity type) :
    Follows type before [] result where
  entity := hentity
  memory := by
    funext node_id
    simp [alarmMemory, latestFrom, hmemory]
  messages := by
    have hnone : onTopic (alarmTopic before.entity type) result.2 = [] :=
      List.filter_eq_nil_iff.mpr fun message hmem => by simpa using hmessages message hmem
    rw [hnone]
    exact .nil

theorem Follows.append {first second : List (String × Bool)} {mid last : Publisher}
    {messages others : List Publish} (hfirst : Follows type before first (mid, messages))
    (hsecond : Follows type mid second (last, others)) :
    Follows type before (first ++ second) (last, messages ++ others) where
  entity := hsecond.entity.trans hfirst.entity
  memory := by rw [hsecond.memory, hfirst.memory, latestFrom_append]
  messages := by
    have hmessages := hsecond.messages
    rw [hfirst.memory, hfirst.entity] at hmessages
    rw [changesFrom_append, onTopic, List.filter_append]
    exact List.rel_append hfirst.messages hmessages

variable (render : Rendering) (now : DateTime) (node : ResolvedNode) (data_value : DataValue)

theorem acceptMeasurement_follows (creation : mapping.model.MeasurementCreation) :
    Follows type before [] (before.acceptMeasurement render now creation node data_value, []) := by
  unfold Publisher.acceptMeasurement
  split
  · exact follows_nil rfl rfl (by simp)
  · exact follows_nil rfl rfl (by simp)

theorem acceptEvent_follows (creation : mapping.model.EventCreation) :
    Follows type before [] (before.acceptEvent render now creation node data_value) := by
  have htopic : ∀ type' body, ∀ message ∈ [TedgeMqtt.publish_event before.entity type' body],
      message.topic ≠ alarmTopic before.entity type := by
    intro type' body message hmem
    rw [List.mem_singleton.mp hmem]
    exact event_topic_ne before.entity type'
  unfold Publisher.acceptEvent
  split
  · exact follows_nil rfl rfl (by simp)
  · dsimp only
    split
    · split
      · exact follows_nil rfl rfl (by simp)
      · exact follows_nil rfl rfl (htopic _ _)
    · exact follows_nil rfl rfl (htopic _ _)

variable (before type) in
/-- The message of an alarm action tells the state that was read. -/
theorem signals_message (creation : mapping.model.AlarmCreation) (active : Bool) :
    Signals before.entity type active
      (if active then
        TedgeMqtt.raise_alarm before.entity type (alarm render now creation node.node_id_str data_value)
      else TedgeMqtt.clear_alarm before.entity type) := by
  cases active with
  | true => exact ⟨_, rfl⟩
  | false => rfl

/-- A state that is already remembered is not published again. -/
theorem follows_same {node_id : String} {active : Bool}
    (hsame : alarmMemory before type node_id = some active) :
    Follows type before [(node_id, active)] (before, []) where
  entity := rfl
  memory := by
    rw [latestFrom, latestFrom, ← hsame, Function.update_eq_self]
  messages := by
    rw [changesFrom, if_pos hsame, changesFrom]
    exact .nil

/-- A state that is not the one remembered is remembered and published. -/
theorem follows_change {node_id : String} {active : Bool} {message : Publish}
    (hchange : alarmMemory before type node_id ≠ some active)
    (hmessage : Signals before.entity type active message)
    (htopic : message.topic = alarmTopic before.entity type) :
    Follows type before [(node_id, active)]
      ({ before with last_alarm := before.last_alarm.insert (toLex (node_id, type)) active }, [message]) where
  entity := rfl
  memory := by
    funext other
    rw [latestFrom, latestFrom, alarmMemory, OrderedMap.get_insert, Function.update_apply]
    simp [alarmMemory]
  messages := by
    rw [changesFrom, if_neg hchange, changesFrom, onTopic, List.filter_cons_of_pos (by simpa using htopic)]
    exact .cons hmessage .nil

theorem Signals.topic {entity : EntityTopicId} {active : Bool} {message : Publish}
    (h : Signals entity type active message) : message.topic = alarmTopic entity type := by
  cases active with
  | true =>
    obtain ⟨body, rfl⟩ := h
    rfl
  | false =>
    obtain rfl := h
    rfl

/-- Remembering the state of an alarm of another type changes nothing here. -/
theorem follows_other {type' node_id : String} {active : Bool} {message : Publish}
    (hother : type' ≠ type) (htopic : message.topic = alarmTopic before.entity type') :
    Follows type before []
      ({ before with last_alarm := before.last_alarm.insert (toLex (node_id, type')) active }, [message]) where
  entity := rfl
  memory := by
    funext other
    rw [latestFrom, alarmMemory, alarmMemory, OrderedMap.get_insert_of_ne]
    simpa using fun _ => hother.symm
  messages := by
    have hnone : message.topic ≠ alarmTopic before.entity type := by
      rw [htopic]
      exact fun h => hother (alarmTopic_inj.mp h)
    rw [changesFrom, onTopic, List.filter_cons_of_neg (by simpa using hnone)]
    exact .nil

theorem acceptAlarm_follows (creation : mapping.model.AlarmCreation) :
    Follows type before (nodeReadings type node data_value [.Alarm creation])
      (before.acceptAlarm render now creation node data_value) := by
  unfold Publisher.acceptAlarm
  split
  · rename_i type' active htype hactive
    have hsignals := fun type => signals_message type before render now node data_value creation active
    by_cases hsame : type' = type
    · subst hsame
      have hreading : nodeReadings type' node data_value [.Alarm creation] = [(node.node_id_str, active)] := by
        simp [nodeReadings, actionReading, htype, hactive]
      rw [hreading]
      dsimp only
      split
      · rename_i hremembered
        exact follows_same hremembered
      · rename_i hchange
        exact follows_change hchange (hsignals type') (hsignals type').topic
    · have hreading : nodeReadings type node data_value [.Alarm creation] = [] := by
        simp [nodeReadings, actionReading, htype, hsame]
      rw [hreading]
      dsimp only
      split
      · exact follows_nil rfl rfl (by simp)
      · exact follows_other hsame (hsignals type').topic
  · rename_i hunread
    have hreading : nodeReadings type node data_value [.Alarm creation] = [] := by
      simp only [nodeReadings, List.map_eq_nil_iff, List.filterMap_cons, List.filterMap_nil, actionReading]
      cases hactive : data_value.value.bind as_bool with
      | none => simp
      | some active =>
        have hother : creation.type ≠ some type := fun htype => hunread type active htype hactive
        simp [hother]
    rw [hreading]
    exact follows_nil rfl rfl (by simp)

theorem acceptAction_follows (action : Action) :
    Follows type before (nodeReadings type node data_value [action])
      (before.acceptAction render now node data_value action) := by
  cases action with
  | Measurement creation => exact acceptMeasurement_follows render now node data_value creation
  | Event creation => exact acceptEvent_follows render now node data_value creation
  | Alarm creation => exact acceptAlarm_follows render now node data_value creation

theorem acceptActions_follows (actions : List Action) (clock : Nat → DateTime) :
    Follows type before (nodeReadings type node data_value actions)
      (Publisher.acceptActions render node data_value before actions clock) := by
  induction actions generalizing before clock with
  | nil => exact follows_nil rfl rfl (by simp [Publisher.acceptActions])
  | cons action rest ih =>
    have hsplit : nodeReadings type node data_value (action :: rest) =
        nodeReadings type node data_value [action] ++ nodeReadings type node data_value rest := by
      rw [nodeReadings, nodeReadings, nodeReadings, ← List.map_append, ← List.filterMap_append,
        List.singleton_append]
    rw [hsplit]
    exact (acceptAction_follows render (clock 0) node data_value action).append (ih _)

/-- The alarm readings of a value a publisher accepts. -/
def readingsOf (type : String) (node : ResolvedNode) (data_value : DataValue) : List (String × Bool) :=
  if is_bad data_value then [] else nodeReadings type node data_value node.actions

theorem accept_follows (clock : Nat → DateTime) :
    Follows type before (readingsOf type node data_value) (before.accept render clock node data_value) := by
  unfold Publisher.accept readingsOf
  split
  · exact follows_nil rfl rfl (by simp)
  · exact acceptActions_follows render node data_value node.actions clock

theorem flush_follows : Follows type before [] (before.flush render now) := by
  refine follows_nil rfl rfl fun message hmem => ?_
  obtain ⟨⟨type', builder⟩, -, hbuilt⟩ := List.mem_filterMap.mp hmem
  obtain ⟨body, -, rfl⟩ := Option.map_eq_some_iff.mp hbuilt
  exact measurement_topic_ne before.entity type'

end Publisher

section Device

/-- What happens to a device. Each of its publishers belongs to one delivery of its
nodes: the subscription or a read schedule of a session. -/
inductive DeviceEvent (ι : Type) where
  | accept (publisher : ι) (node : ResolvedNode) (data_value : DataValue) (clock : Nat → DateTime)
  | flush (publisher : ι) (now : DateTime)

variable {ι : Type} [DecidableEq ι]

abbrev Device (ι : Type) := ι → Publisher

def Device.new (entity : EntityTopicId) (dedup_events : ι → Bool) : Device ι :=
  fun i => .new entity (dedup_events i)

def Device.step (render : Rendering) (device : Device ι) : DeviceEvent ι → Device ι × List Publish
  | .accept i node data_value clock =>
    let (publisher, messages) := (device i).accept render clock node data_value
    (Function.update device i publisher, messages)
  | .flush i now =>
    let (publisher, messages) := (device i).flush render now
    (Function.update device i publisher, messages)

/-- The device after some events, with every message published on the way. -/
def Device.run (render : Rendering) (device : Device ι) : List (DeviceEvent ι) → Device ι × List Publish
  | [] => (device, [])
  | event :: rest =>
    let (next, first) := device.step render event
    let (last, others) := Device.run render next rest
    (last, first ++ others)

/-- The alarm readings of an event, under the publisher and the NodeId. -/
def eventReadings (type : String) : DeviceEvent ι → List ((ι × String) × Bool)
  | .accept i node data_value _ => (readingsOf type node data_value).map (Prod.map (Prod.mk i) id)
  | .flush _ _ => []

def alarmReadings (type : String) (events : List (DeviceEvent ι)) : List ((ι × String) × Bool) :=
  events.flatMap (eventReadings type)

def deviceMemory (device : Device ι) (type : String) (key : ι × String) : Option Bool :=
  alarmMemory (device key.1) type key.2

/-- The form of `Follows` for a device all of whose publishers publish for `entity`. -/
structure DeviceFollows (entity : EntityTopicId) (type : String) (before : Device ι)
    (seen : List ((ι × String) × Bool)) (result : Device ι × List Publish) : Prop where
  entities : ∀ i, (result.1 i).entity = entity
  memory : deviceMemory result.1 type = latestFrom (deviceMemory before type) seen
  messages : List.Forall₂ (fun change message => Signals entity type change.2 message)
    (changesFrom (deviceMemory before type) seen) (onTopic (alarmTopic entity type) result.2)

variable {entity : EntityTopicId} {type : String} {device : Device ι}

/-- What one publisher does is what the device does. -/
theorem Follows.lift (hentity : ∀ i, (device i).entity = entity) {i : ι} {seen : List (String × Bool)}
    {publisher : Publisher} {messages : List Publish}
    (h : Follows type (device i) seen (publisher, messages)) :
    DeviceFollows entity type device (seen.map (Prod.map (Prod.mk i) id))
      (Function.update device i publisher, messages) := by
  have hembed : Function.Injective (Prod.mk i : String → ι × String) := Prod.mk_right_injective i
  obtain ⟨hinside, houtside⟩ := latestFrom_map hembed (deviceMemory device type) seen
  constructor
  · intro j
    by_cases hj : j = i
    · subst hj
      simpa using h.entity.trans (hentity j)
    · simpa [Function.update_of_ne hj] using hentity j
  · funext ⟨j, node_id⟩
    by_cases hj : j = i
    · subst hj
      simp only [hinside, deviceMemory, Function.update_self]
      exact congrFun h.memory node_id
    · rw [houtside (j, node_id) fun k hk => hj (congrArg Prod.fst hk)]
      simp only [deviceMemory, Function.update_of_ne hj]
  · rw [changesFrom_map hembed, List.forall₂_map_left_iff]
    have hmessages := h.messages
    rw [hentity i] at hmessages
    exact hmessages

theorem Device.step_follows (render : Rendering) (hentity : ∀ i, (device i).entity = entity)
    (event : DeviceEvent ι) :
    DeviceFollows entity type device (eventReadings type event) (device.step render event) := by
  cases event with
  | accept i node data_value clock =>
    have haccept : Follows type (device i) _ _ := accept_follows render node data_value clock
    exact haccept.lift hentity
  | flush i now =>
    have hflush : Follows type (device i) _ _ := flush_follows render now
    exact hflush.lift hentity

theorem Device.run_follows (render : Rendering) (hentity : ∀ i, (device i).entity = entity)
    (events : List (DeviceEvent ι)) :
    DeviceFollows entity type device (alarmReadings type events) (device.run render events) := by
  induction events generalizing device with
  | nil => exact ⟨hentity, rfl, .nil⟩
  | cons event rest ih =>
    have hstep : DeviceFollows entity type device _ _ := Device.step_follows render hentity event
    have hrest := ih hstep.entities
    have hmessages := hrest.messages
    rw [hstep.memory] at hmessages
    constructor
    · exact hrest.entities
    · rw [alarmReadings, List.flatMap_cons, latestFrom_append, ← hstep.memory]
      exact hrest.memory
    · rw [alarmReadings, List.flatMap_cons, changesFrom_append, Device.run, onTopic, List.filter_append]
      exact List.rel_append hstep.messages hmessages

/-- The last message on the topic of a device's alarms of one type. -/
def lastAlarm (entity : EntityTopicId) (type : String) (messages : List Publish) : Option Publish :=
  (onTopic (alarmTopic entity type) messages).getLast?

variable (render : Rendering) (dedup_events : ι → Bool) (events : List (DeviceEvent ι))

/-- The messages of a device that starts anew are those of the changes. -/
theorem messages_follow_changes (entity : EntityTopicId) (type : String) :
    List.Forall₂ (fun change message => Signals entity type change.2 message)
      (changes (alarmReadings type events))
      (onTopic (alarmTopic entity type) ((Device.new entity dedup_events).run render events).2) := by
  have hentity : ∀ i, (Device.new entity dedup_events i).entity = entity := fun _ => rfl
  exact (Device.run_follows render hentity events).messages

/-- The last message about an alarm is that of the node whose state changed last,
and it tells that node's latest state. So the alarm is clear once no node is active
and raised while all of them are; in between the last change decides. -/
theorem last_alarm_is_last_change (entity : EntityTopicId) (type : String) :
    let seen := alarmReadings type events
    let last := lastAlarm entity type ((Device.new entity dedup_events).run render events).2
    (seen = [] ∧ last = none ∨
      ∃ key active message, (changes seen).getLast? = some (key, active) ∧ latest key seen = some active ∧
        last = some message ∧ Signals entity type active message) ∧
    (seen ≠ [] → (∀ key, latest key seen ≠ some true) → last = some (TedgeMqtt.clear_alarm entity type)) ∧
    (seen ≠ [] → (∀ key, latest key seen ≠ some false) →
      ∃ body, last = some (TedgeMqtt.raise_alarm entity type body)) := by
  intro seen last
  have hfollow := messages_follow_changes render dedup_events events entity type
  have hlast : seen ≠ [] → ∃ key active message, (changes seen).getLast? = some (key, active) ∧
      latest key seen = some active ∧ last = some message ∧ Signals entity type active message := by
    intro hseen
    obtain ⟨key, active, hchange, hlatest⟩ := exists_getLast_changes hseen
    obtain ⟨message, hmessage, hsignals⟩ := getLast_of_forall₂ hfollow hchange
    exact ⟨key, active, message, hchange, hlatest, hmessage, hsignals⟩
  refine ⟨?_, fun hseen hinactive => ?_, fun hseen hactive => ?_⟩
  · by_cases hseen : seen = []
    · refine Or.inl ⟨hseen, ?_⟩
      rw [changes_eq_nil_iff.mpr hseen, List.forall₂_nil_left_iff] at hfollow
      exact List.getLast?_eq_none_iff.mpr hfollow
    · exact Or.inr (hlast hseen)
  · obtain ⟨key, active, message, -, hlatest, hmessage, hsignals⟩ := hlast hseen
    cases active with
    | true => exact absurd hlatest (hinactive key)
    | false => exact hmessage.trans (congrArg some hsignals)
  · obtain ⟨key, active, message, -, hlatest, hmessage, hsignals⟩ := hlast hseen
    cases active with
    | true =>
      obtain ⟨body, hbody⟩ := hsignals
      exact ⟨body, hmessage.trans (congrArg some hbody)⟩
    | false => exact absurd hlatest (hactive key)

end Device

section Sample

def alarmNode (node_id : String) : ResolvedNode where
  node_id := ⟨2, .String node_id⟩
  node_id_str := node_id
  actions := [.Alarm ⟨some "level", none, none, none⟩]
  delivery := .Subscription .default

def goodValue (variant : Variant) : DataValue := ⟨some variant, some 0, none, none⟩

def plainRendering : Rendering := ⟨fun _ => "", fun _ => "", fun _ => "", id⟩

/-- One node becomes active, then another reports that it is not. -/
def silencing : List (DeviceEvent Unit) :=
  [.accept () (alarmNode "ns=2;s=a") (goodValue (.Boolean true)) fun _ => 0,
    .accept () (alarmNode "ns=2;s=b") (goodValue (.Boolean false)) fun _ => 0]

/-- The alarm is cleared although the first node is still active. -/
theorem inactive_node_silences_alarm :
    ¬ ∀ (render : Rendering) (dedup_events : Unit → Bool) (events : List (DeviceEvent Unit))
      (entity : EntityTopicId) (type : String),
      (∃ key, latest key (alarmReadings type events) = some true) →
      ∃ body, lastAlarm entity type ((Device.new entity dedup_events).run render events).2 =
        some (TedgeMqtt.raise_alarm entity type body) := by
  intro hall
  have hactive : latest ((), "ns=2;s=a") (alarmReadings "level" silencing) = some true := by decide
  obtain ⟨body, hlast⟩ := hall plainRendering (fun _ => false) silencing (.child_device "pump") "level"
    ⟨_, hactive⟩
  have hclear : lastAlarm (.child_device "pump") "level"
      ((Device.new (.child_device "pump") fun _ => false).run plainRendering silencing).2 =
      some (TedgeMqtt.clear_alarm (.child_device "pump") "level") := by decide
  rw [hclear] at hlast
  cases hlast

end Sample

end gateway.publish
