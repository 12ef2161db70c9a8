import Mathlib.Data.Set.Insert
import OpcuaGateway.Gateway.Publish.Topics

open text tedge.topic tedge.mqtt mapping.model mapping.value mapping.resolve

namespace gateway.publish

/-- The telemetry a device publishes by type. -/
inductive Kind where
  | measurement
  | measurement_meta
  | event
  | alarm
  deriving DecidableEq

/-- The topic of a kind of telemetry; an alarm is raised and cleared on the same one. -/
def Kind.topic (entity : EntityTopicId) (type : String) : Kind → String
  | .measurement => (TedgeMqtt.publish_measurement entity type .null).topic
  | .measurement_meta => (TedgeMqtt.publish_measurement_meta entity type .null).topic
  | .event => (TedgeMqtt.publish_event entity type .null).topic
  | .alarm => (TedgeMqtt.raise_alarm entity type .null).topic

/-- The channel in front of the type, and the levels behind it. -/
def Kind.channel : Kind → String
  | .measurement => "m"
  | .measurement_meta => "m"
  | .event => "e"
  | .alarm => "a"

def Kind.suffix : Kind → List String
  | .measurement_meta => ["meta"]
  | _ => []

/-- The levels of a topic that has the type as one level. -/
def Kind.topicLevels (kind : Kind) (id type : String) : List String :=
  ["te", "device", id, "", "", kind.channel, type] ++ kind.suffix

/-- The telemetry that a publisher makes of an action, by kind and type. -/
inductive Publishes : Action → Kind → String → Prop where
  | measurement {creation : MeasurementCreation} {type : String} (htype : measurement_type creation = some type) :
    Publishes (.Measurement creation) .measurement type
  | measurement_meta {creation : MeasurementCreation} {type : String}
    (htype : measurement_type creation = some type) : Publishes (.Measurement creation) .measurement_meta type
  | event {creation : EventCreation} {type : String} (htype : creation.type = some type) :
    Publishes (.Event creation) .event type
  | alarm {creation : AlarmCreation} {type : String} (htype : creation.type = some type) :
    Publishes (.Alarm creation) .alarm type

/-- The types that some authored entries publish under. -/
def Uses (entries : Set MappingEntry) (kind : Kind) (type : String) : Prop :=
  ∃ entry ∈ entries, ∃ action ∈ actions_of entry, Publishes action kind type

def Sanitized (id : String) : Prop := ∀ c ∈ id.toList, isIdChar c

/-- No topic wildcard. -/
def ValidForPublishing (topic : String) : Prop := '+' ∉ topic.toList ∧ '#' ∉ topic.toList

/-- The levels of a topic. -/
def levels (topic : String) : List (List Char) := splitAll '/' topic.toList

/-- The topics that authored entries lead to are valid, have the type as one level and
tell devices, kinds and types apart. -/
structure Unambiguous (entries : Set MappingEntry) : Prop where
  valid : ∀ id kind type, Sanitized id → Uses entries kind type →
    ValidForPublishing (kind.topic (.child_device id) type)
  one_level : ∀ id kind type, Sanitized id → Uses entries kind type →
    levels (kind.topic (.child_device id) type) =
      (kind.topicLevels id type).map String.toList
  injective : ∀ id kind type id' kind' type', Sanitized id → Sanitized id' → Uses entries kind type →
    Uses entries kind' type' → kind.topic (.child_device id) type = kind'.topic (.child_device id') type' →
    id = id' ∧ kind = kind' ∧ type = type'

/-- A type without separators and wildcards. -/
def CleanType (type : String) : Prop := '/' ∉ type.toList ∧ '+' ∉ type.toList ∧ '#' ∉ type.toList

section Topics

variable {id type : String} {kind : Kind}

theorem Kind.topic_toList (kind : Kind) (id type : String) :
    (kind.topic (.child_device id) type).toList =
      List.intercalate ['/'] ((kind.topicLevels id type).map String.toList) := by
  cases kind <;>
    simp [Kind.topic, Kind.topicLevels, Kind.channel, Kind.suffix, TedgeMqtt.publish_measurement,
      TedgeMqtt.publish_measurement_meta, TedgeMqtt.publish_event, TedgeMqtt.raise_alarm,
      EntityTopicId.channel_topic, TE_ROOT, String.toList_append, List.intercalate, List.intersperse]

theorem Sanitized.notMem {c : Char} (hid : Sanitized id) (hc : ¬ isIdChar c) : c ∉ id.toList :=
  fun hmem => hc (hid c hmem)

/-- The characters of a topic are those of its parts. -/
theorem mem_topic_iff {c : Char} (hid : Sanitized id) (hc : c ∈ ['+', '#']) :
    c ∈ (kind.topic (.child_device id) type).toList ↔ c ∈ type.toList := by
  have hnot : c ∉ id.toList := by
    refine hid.notMem ?_
    rcases List.mem_pair.mp hc with rfl | rfl <;> decide
  rw [Kind.topic_toList]
  rcases List.mem_pair.mp hc with rfl | rfl <;> cases kind <;>
    simp [Kind.topicLevels, Kind.channel, Kind.suffix, List.intercalate, List.intersperse, hnot]

/-- A topic has the type as one level exactly when the type has no separator. -/
theorem levels_eq_iff (hid : Sanitized id) :
    levels (kind.topic (.child_device id) type) = (kind.topicLevels id type).map String.toList ↔
      '/' ∉ type.toList := by
  have hnot : '/' ∉ id.toList := hid.notMem (by decide)
  rw [levels, Kind.topic_toList]
  constructor
  · intro h
    have hlength := congrArg List.length h
    rw [length_splitAll] at hlength
    have hcount : type.toList.count '/' = 0 := by
      cases kind <;>
        simpa [Kind.topicLevels, Kind.channel, Kind.suffix, List.intercalate, List.intersperse, List.count_cons,
          List.count_eq_zero.mpr hnot] using hlength
    exact List.count_eq_zero.mp hcount
  · intro htype
    refine splitAll_intercalate (by simp [Kind.topicLevels]) ?_
    cases kind <;> simp [Kind.topicLevels, Kind.channel, Kind.suffix, hnot, htype]

theorem Kind.topicLevels_inj {kind' : Kind} {id' type' : String}
    (h : kind.topicLevels id type = kind'.topicLevels id' type') : id = id' ∧ kind = kind' ∧ type = type' := by
  cases kind <;> cases kind' <;> simp_all [Kind.topicLevels, Kind.channel, Kind.suffix]

theorem sanitized_sanitize_id (input : String) : Sanitized (sanitize_id input) :=
  fun _ hmem => sanitize_id_isIdChar hmem

end Topics

section Messages

variable (render : Rendering) (now : DateTime) (publisher : Publisher) (node : ResolvedNode) (data_value : DataValue)

/-- What an action has published at once is on the topic of its kind and type. -/
theorem acceptAction_publishes (action : Action) :
    ∀ message ∈ (publisher.acceptAction render now node data_value action).2, ∃ kind type,
      Publishes action kind type ∧ message.topic = kind.topic publisher.entity type := by
  intro message hmem
  have hannounces := announces_of_acceptAction hmem
  cases hannounces with
  | event now htype => exact ⟨.event, _, .event htype, rfl⟩
  | raised now htype hactive => exact ⟨.alarm, _, .alarm htype, rfl⟩
  | cleared htype hactive => exact ⟨.alarm, _, .alarm htype, rfl⟩

end Messages

/-- Topics are unambiguous exactly when no type that is used has a separator or a
wildcard. -/
theorem unambiguous_iff (entries : Set MappingEntry) :
    Unambiguous entries ↔ ∀ kind type, Uses entries kind type → CleanType type := by
  constructor
  · intro h kind type huses
    have hpump : Sanitized "pump" := by
      intro c hmem
      exact of_decide_eq_true (List.all_eq_true.mp (by decide : "pump".toList.all (fun c => isIdChar c) = true) c hmem)
    obtain ⟨hplus, hhash⟩ := h.valid "pump" kind type hpump huses
    rw [mem_topic_iff hpump (by simp)] at hplus hhash
    exact ⟨(levels_eq_iff hpump).mp (h.one_level "pump" kind type hpump huses), hplus, hhash⟩
  · intro hclean
    have hlevels : ∀ id kind type, Sanitized id → Uses entries kind type →
        levels (kind.topic (.child_device id) type) = (kind.topicLevels id type).map String.toList :=
      fun id kind type hid huses => (levels_eq_iff hid).mpr (hclean kind type huses).1
    refine ⟨fun id kind type hid huses => ?_, hlevels, ?_⟩
    · obtain ⟨-, hplus, hhash⟩ := hclean kind type huses
      rw [ValidForPublishing, mem_topic_iff hid (by simp), mem_topic_iff hid (by simp)]
      exact ⟨hplus, hhash⟩
    · intro id kind type id' kind' type' hid hid' huses huses' hsame
      have hmap : (kind.topicLevels id type).map String.toList = (kind'.topicLevels id' type').map String.toList := by
        rw [← hlevels id kind type hid huses, ← hlevels id' kind' type' hid' huses', hsame]
      have hinj : Function.Injective String.toList := fun _ _ => String.toList_inj.mp
      exact Kind.topicLevels_inj (hinj.list_map hmap)

section Sample

/-- An entry that measures under this type. -/
def measured (type : String) : MappingEntry where
  name := none
  browse_path := ["Flow"]
  referenced_node_id := none
  measurement_creation := some ⟨some type, none, none, none, none⟩
  event_creation := none
  alarm_creation := none

theorem mem_actions_of_measured {type : String} (htype : measurement_type ⟨some type, none, none, none, none⟩ = some type) :
    Action.Measurement ⟨some type, none, none, none, none⟩ ∈ actions_of (measured type) := by
  simp [actions_of, measured, htype]

/-- Values of the type `flow/meta` replace the unit declarations of `flow`. -/
theorem measurement_on_meta_topic : ¬ ∀ entries : Set MappingEntry, Unambiguous entries := by
  intro hall
  let entries : Set MappingEntry := {measured "flow", measured "flow/meta"}
  have hmeta : Uses entries .measurement_meta "flow" :=
    ⟨_, Or.inl rfl, _, mem_actions_of_measured (by decide), .measurement_meta (by decide)⟩
  have hvalue : Uses entries .measurement "flow/meta" :=
    ⟨_, Or.inr rfl, _, mem_actions_of_measured (by decide), .measurement (by decide)⟩
  have hsame : Kind.measurement_meta.topic (.child_device "pump") "flow" =
      Kind.measurement.topic (.child_device "pump") "flow/meta" := by decide
  have hpump : Sanitized "pump" := sanitized_sanitize_id "pump"
  obtain ⟨-, hkind, -⟩ := (hall entries).injective _ _ _ _ _ _ hpump hpump hmeta hvalue hsame
  cases hkind

end Sample

end gateway.publish
