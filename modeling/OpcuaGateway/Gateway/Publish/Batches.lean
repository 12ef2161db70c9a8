import OpcuaGateway.Gateway.Publish.Topics
import OpcuaGateway.Mapping.Payload.Slots

open json ordered_map tedge.topic tedge.mqtt mapping.model mapping.value mapping.payload mapping.resolve

namespace gateway.publish

/-- A value as a measurement action meets it, with the clock at that moment. -/
structure Contribution where
  creation : MeasurementCreation
  node_id : String
  data_value : DataValue
  now : DateTime
  deriving DecidableEq

namespace Contribution

def slot (self : Contribution) : Slot := slotOf self.creation self.node_id

def number (self : Contribution) : Option Number := MeasurementBuilder.numberOf self.data_value

def statics (self : Contribution) : List String := self.creation.static_fragments.getD []

/-- The fragment and the static fragments are others than the timestamp. -/
def SparesTime (self : Contribution) : Prop :=
  nonBlank self.creation.fragment_name ≠ some "time" ∧ "time" ∉ self.statics

variable (render : Rendering)

def dated (self : Contribution) : String := timestamp render self.now self.data_value

def addTo (builder : MeasurementBuilder) (self : Contribution) : MeasurementBuilder :=
  (builder.add render self.now self.creation self.node_id self.data_value).1

variable {self : Contribution} {builder : MeasurementBuilder}

theorem addTo_of_none (h : self.number = none) : self.addTo render builder = builder := by
  rw [number] at h
  rw [addTo, MeasurementBuilder.add, h]

/-- What a number does to a message. -/
theorem addTo_of_some {number : Number} (h : self.number = some number) :
    (self.addTo render builder).series_count = builder.series_count + 1 ∧
      (self.addTo render builder).time = builder.time.or (some (self.dated render)) ∧
      (self.addTo render builder).fragments = add_static_fragments .empty
        (MeasurementBuilder.insertSeries builder.fragments self.slot.fragment self.slot.series number)
        self.creation.static_fragments := by
  rw [Contribution.number] at h
  rw [addTo, MeasurementBuilder.add, h]
  exact ⟨rfl, rfl, rfl⟩

end Contribution

/-- The contributions that can be read as a number. -/
def numeric (contributions : List Contribution) : List Contribution :=
  contributions.filter fun contribution => contribution.number.isSome

/-- The last number that was contributed to a slot. -/
def lastNumber (contributions : List Contribution) (slot : Slot) : Option Number :=
  ((contributions.filter (·.slot = slot)).filterMap (·.number)).getLast?

section Builder

variable {before : List Contribution} {last : Contribution}

theorem numeric_concat_none (h : last.number = none) : numeric (before ++ [last]) = numeric before := by
  simp [numeric, h]

theorem numeric_concat_some {number : Number} (h : last.number = some number) :
    numeric (before ++ [last]) = numeric before ++ [last] := by
  simp [numeric, h]

variable (render : Rendering)

/-- The message that some contributions make. -/
def builderOf (contributions : List Contribution) : MeasurementBuilder :=
  contributions.foldl (Contribution.addTo render) .new

theorem builderOf_concat : builderOf render (before ++ [last]) = last.addTo render (builderOf render before) :=
  List.foldl_concat ..

/-- What is not a number changes nothing. -/
theorem builderOf_numeric (contributions : List Contribution) :
    builderOf render (numeric contributions) = builderOf render contributions := by
  induction contributions using List.reverseRecOn with
  | nil => rfl
  | append_singleton before last ih =>
    cases hnumber : last.number with
    | none => rw [numeric_concat_none hnumber, builderOf_concat, Contribution.addTo_of_none render hnumber, ih]
    | some number => rw [numeric_concat_some hnumber, builderOf_concat, builderOf_concat, ih]

theorem series_count_builderOf (contributions : List Contribution) :
    (builderOf render contributions).series_count = (numeric contributions).length := by
  induction contributions using List.reverseRecOn with
  | nil => rfl
  | append_singleton before last ih =>
    rw [builderOf_concat]
    cases hnumber : last.number with
    | none => rw [numeric_concat_none hnumber, Contribution.addTo_of_none render hnumber, ih]
    | some number =>
      rw [numeric_concat_some hnumber, (Contribution.addTo_of_some render hnumber).1, ih, List.length_append]
      rfl

/-- The last number of a slot stays. -/
theorem readSlot_builderOf (contributions : List Contribution) (slot : Slot) :
    readSlot (builderOf render contributions).fragments slot = (lastNumber contributions slot).map .number := by
  induction contributions using List.reverseRecOn with
  | nil => rfl
  | append_singleton before last ih =>
    rw [builderOf_concat, Contribution.addTo, readSlot_add, ih, lastNumber, lastNumber, List.filter_append,
      List.filterMap_append]
    by_cases hslot : slot = slotOf last.creation last.node_id
    · have htake : [last].filter (·.slot = slot) = [last] := by simp [Contribution.slot, hslot]
      rw [if_pos hslot, htake]
      cases hnumber : MeasurementBuilder.numberOf last.data_value <;>
        simp [Contribution.number, hnumber]
    · have hskip : [last].filter (·.slot = slot) = [] := by simp [Contribution.slot, Ne.symm hslot]
      rw [if_neg hslot, hskip, List.filterMap_nil, List.append_nil]

/-- The first number dates the message. -/
theorem time_builderOf (contributions : List Contribution) :
    (builderOf render contributions).time = (numeric contributions).head?.map (·.dated render) := by
  induction contributions using List.reverseRecOn with
  | nil => rfl
  | append_singleton before last ih =>
    rw [builderOf_concat]
    cases hnumber : last.number with
    | none => rw [numeric_concat_none hnumber, Contribution.addTo_of_none render hnumber, ih]
    | some number =>
      rw [numeric_concat_some hnumber, (Contribution.addTo_of_some render hnumber).2.1, ih, List.head?_append,
        Option.map_or]
      rfl

/-- A message has a fragment of every static one, and keeps those it has. -/
theorem isSome_get_add_static_fragments (fragments : Fragments) (statics : Option (List String)) (fragment : String) :
    ((add_static_fragments .empty fragments statics).get fragment).isSome =
      ((fragments.get fragment).isSome || decide (fragment ∈ statics.getD [])) := by
  unfold add_static_fragments
  generalize statics.getD [] = names
  induction names generalizing fragments with
  | nil => simp
  | cons name rest ih =>
    rw [List.foldl_cons, ih, OrderedMap.get_orInsert]
    by_cases hname : fragment = name
    · simp [hname]
    · simp [hname]

/-- A message has the fragments of its series and the static ones, and no others. -/
theorem isSome_get_builderOf (contributions : List Contribution) (fragment : String) :
    ((builderOf render contributions).fragments.get fragment).isSome = true ↔
      ∃ contribution ∈ numeric contributions, contribution.slot.fragment = fragment ∨
        fragment ∈ contribution.statics := by
  induction contributions using List.reverseRecOn with
  | nil => simp [builderOf, MeasurementBuilder.new, numeric]
  | append_singleton before last ih =>
    rw [builderOf_concat]
    cases hnumber : last.number with
    | none => rw [numeric_concat_none hnumber, Contribution.addTo_of_none render hnumber, ih]
    | some number =>
      rw [numeric_concat_some hnumber, (Contribution.addTo_of_some render hnumber).2.2, isSome_get_add_static_fragments,
        MeasurementBuilder.insertSeries, OrderedMap.get_insert]
      simp only [List.mem_append, List.mem_singleton, or_and_right, exists_or, exists_eq_left, ← ih]
      by_cases hfragment : fragment = last.slot.fragment
      · simp [hfragment]
      · simp [hfragment, Ne.symm hfragment, Contribution.statics]

end Builder

/-- One value that a publisher is given, with the clock as its actions read it. -/
structure Reading where
  node : ResolvedNode
  data_value : DataValue
  clock : Nat → DateTime

/-- The publisher after some values, with what it published for them. -/
def Publisher.acceptAll (render : Rendering) (publisher : Publisher) : List Reading → Publisher × List Publish
  | [] => (publisher, [])
  | reading :: rest =>
    let (next, first) := publisher.accept render reading.clock reading.node reading.data_value
    let (last, others) := acceptAll render next rest
    (last, first ++ others)

/-- What an action contributes to the message of a type. -/
def contributionOf (type : String) (node : ResolvedNode) (data_value : DataValue) (now : DateTime) :
    Action → Option Contribution
  | .Measurement creation =>
    if measurement_type creation = some type then some ⟨creation, node.node_id_str, data_value, now⟩ else none
  | _ => none

def actionContributions (type : String) (node : ResolvedNode) (data_value : DataValue) :
    List Action → (Nat → DateTime) → List Contribution
  | [], _ => []
  | action :: rest, clock =>
    (contributionOf type node data_value (clock 0) action).toList ++
      actionContributions type node data_value rest fun i => clock (i + 1)

/-- What a value contributes to the message of a type; nothing if it is bad. -/
def Reading.contributions (type : String) (self : Reading) : List Contribution :=
  if is_bad self.data_value then []
  else actionContributions type self.node self.data_value self.node.actions self.clock

/-- What is accepted into the message of a type. -/
def accepted (type : String) (readings : List Reading) : List Contribution :=
  numeric (readings.flatMap (Reading.contributions type))

/-- The batch holds the messages of what was contributed to each type. -/
def BatchOf (render : Rendering) (publisher : Publisher) (contributed : String → List Contribution) : Prop :=
  ∀ type, publisher.batch.get type =
    if contributed type = [] then none else some (builderOf render (contributed type))

section Publisher

variable {render : Rendering} {publisher : Publisher} {contributed : String → List Contribution}

theorem BatchOf.congr {next : Publisher} (h : BatchOf render publisher contributed)
    (hbatch : next.batch = publisher.batch) {contributed' : String → List Contribution}
    (hcontributed : ∀ type, contributed' type = contributed type) : BatchOf render next contributed' := by
  intro type
  rw [hbatch, hcontributed]
  exact h type

theorem batchOf_empty (hbatch : publisher.batch = .empty) : BatchOf render publisher fun _ => [] := by
  intro type
  rw [hbatch]
  rfl

/-- An action adds what it contributes to the message of its type. -/
theorem BatchOf.acceptAction (h : BatchOf render publisher contributed) (node : ResolvedNode)
    (data_value : DataValue) (now : DateTime) (action : Action) :
    BatchOf render (publisher.acceptAction render now node data_value action).1
      fun type => contributed type ++ (contributionOf type node data_value now action).toList := by
  cases action with
  | Event creation =>
    have hbatch := congrArg Publisher.batch (acceptEvent_frame publisher render now node data_value creation)
    exact h.congr hbatch fun type => List.append_nil _
  | Alarm creation =>
    have hbatch := congrArg Publisher.batch (acceptAlarm_frame publisher render now node data_value creation)
    exact h.congr hbatch fun type => List.append_nil _
  | Measurement creation =>
    change BatchOf render (publisher.acceptMeasurement render now creation node data_value) _
    unfold Publisher.acceptMeasurement
    cases htype : measurement_type creation with
    | none => exact h.congr rfl fun type => by simp [contributionOf, htype]
    | some own =>
      intro type
      dsimp only
      rw [OrderedMap.get_insert]
      by_cases hsame : type = own
      · subst hsame
        have hbefore : (publisher.batch.get type).getD .new = builderOf render (contributed type) := by
          rw [h type]
          split
          · rename_i hnone
            rw [hnone]
            rfl
          · rfl
        rw [if_pos rfl, hbefore]
        simp [contributionOf, htype, builderOf_concat, Contribution.addTo]
      · rw [if_neg hsame, h type]
        simp [contributionOf, htype, Ne.symm hsame]

theorem BatchOf.acceptActions (h : BatchOf render publisher contributed) (node : ResolvedNode)
    (data_value : DataValue) (actions : List Action) (clock : Nat → DateTime) :
    BatchOf render (Publisher.acceptActions render node data_value publisher actions clock).1
      fun type => contributed type ++ actionContributions type node data_value actions clock := by
  induction actions generalizing publisher contributed clock with
  | nil => exact h.congr rfl fun type => List.append_nil _
  | cons action rest ih =>
    have hnext := ih (h.acceptAction node data_value (clock 0) action) fun i => clock (i + 1)
    exact hnext.congr rfl fun type => (List.append_assoc ..).symm

theorem BatchOf.accept (h : BatchOf render publisher contributed) (reading : Reading) :
    BatchOf render (publisher.accept render reading.clock reading.node reading.data_value).1
      fun type => contributed type ++ reading.contributions type := by
  unfold Publisher.accept Reading.contributions
  split
  · exact h.congr rfl fun type => List.append_nil _
  · exact h.acceptActions reading.node reading.data_value reading.node.actions reading.clock

theorem BatchOf.acceptAll (h : BatchOf render publisher contributed) (readings : List Reading) :
    BatchOf render (publisher.acceptAll render readings).1
      fun type => contributed type ++ readings.flatMap (Reading.contributions type) := by
  induction readings generalizing publisher contributed with
  | nil => exact h.congr rfl fun type => List.append_nil _
  | cons reading rest ih =>
    exact (ih (h.accept reading)).congr rfl fun type => (List.append_assoc ..).symm

theorem acceptAll_entity (readings : List Reading) :
    (publisher.acceptAll render readings).1.entity = publisher.entity := by
  induction readings generalizing publisher with
  | nil => rfl
  | cons reading rest ih =>
    exact ih.trans (accept_confined render reading.node reading.data_value reading.clock).entity

def measurementTopic (entity : EntityTopicId) (type : String) : String := entity.channel_topic ("m/" ++ type)

/-- A flush makes one message of the numbers that were contributed to a type. -/
theorem BatchOf.flush (h : BatchOf render publisher contributed) (now : DateTime) (type : String) :
    onTopic (measurementTopic publisher.entity type) (publisher.flush render now).2 =
      (((builderOf render (contributed type)).build render now).map
        (TedgeMqtt.publish_measurement publisher.entity type)).toList := by
  refine (onTopic_entries publisher.batch
    (fun type builder => (builder.build render now).map (TedgeMqtt.publish_measurement publisher.entity type))
    (measurementTopic publisher.entity) type ?_ ?_).trans ?_
  · intro other hsame
    simpa [measurementTopic, channel_topic_inj, String.append_right_inj] using hsame
  · intro other builder published hpublished
    obtain ⟨body, -, rfl⟩ := Option.map_eq_some_iff.mp hpublished
    rfl
  · rw [h type]
    split
    · rename_i hnone
      rw [hnone]
      rfl
    · rfl

end Publisher

/-- What the second of two flushes publishes when some values are accepted between them. -/
def secondFlush (render : Rendering) (before : Publisher) (first second : DateTime) (readings : List Reading) :
    List Publish :=
  ((((before.flush render first).1.acceptAll render readings).1).flush render second).2

/-- A message has the last number of every series, every static fragment and the
timestamp of the first number. -/
structure Complete (render : Rendering) (contributions : List Contribution) (body : Value) : Prop where
  series : ∀ contribution ∈ contributions, ∃ number, lastNumber contributions contribution.slot = some number ∧
    (body.get contribution.slot.fragment).bind (Value.get contribution.slot.series) = some (.number number)
  statics : ∀ contribution ∈ contributions, ∀ fragment ∈ contribution.statics, ∃ members,
    body.get fragment = some (.object members)
  time : body.get "time" = contributions.head?.map fun first => .string (first.dated render)

/-- The value is good and a number. -/
def Reading.isNumeric (self : Reading) : Bool :=
  !is_bad self.data_value && (MeasurementBuilder.numberOf self.data_value).isSome

/-- What the client takes of the second of two flushes for a type. -/
def flushed (client : Client) (render : Rendering) (before : Publisher) (first second : DateTime)
    (readings : List Reading) (type : String) : List Publish :=
  onTopic (measurementTopic before.entity type) (client.taken (secondFlush render before first second readings))

/-- Between two flushes the numbers of a type, and nothing else, make one complete message. -/
structure LosesNothing (client : Client) (render : Rendering) (before : Publisher) (first second : DateTime)
    (readings : List Reading) (type : String) : Prop where
  none_accepted : accepted type readings = [] → flushed client render before first second readings type = []
  some_accepted : accepted type readings ≠ [] → ∃ body,
    flushed client render before first second readings type =
      [TedgeMqtt.publish_measurement before.entity type body] ∧ Complete render (accepted type readings) body
  unread : flushed client render before first second readings type =
    flushed client render before first second (readings.filter Reading.isNumeric) type

/-- No number of the type is given a fragment that has the name of the timestamp, and
the client takes the topic of the type once there is a number. -/
def Lossless (client : Client) (entity : EntityTopicId) (contributions : List Contribution) (type : String) : Prop :=
  ∀ contribution ∈ contributions,
    contribution.SparesTime ∧ client.takes (measurementTopic entity type) = true

section Lossless

variable {render : Rendering} {before : Publisher} {first second : DateTime} {readings : List Reading}
  {type : String}

variable (render before first second readings type) in
theorem onTopic_secondFlush : onTopic (measurementTopic before.entity type)
    (secondFlush render before first second readings) =
      (((builderOf render (accepted type readings)).build render second).map
        (TedgeMqtt.publish_measurement before.entity type)).toList := by
  have hstart : BatchOf render (before.flush render first).1 fun _ => [] := batchOf_empty rfl
  have hflush := (hstart.acceptAll readings).flush second type
  rw [acceptAll_entity] at hflush
  rw [accepted, builderOf_numeric]
  exact hflush

/-- What a value contributes is that value. -/
theorem data_value_of_mem_contributions {reading : Reading} {contribution : Contribution}
    (hmem : contribution ∈ reading.contributions type) :
    contribution.data_value = reading.data_value ∧ is_bad reading.data_value = false := by
  unfold Reading.contributions at hmem
  split at hmem
  · cases hmem
  · rename_i hgood
    refine ⟨?_, by simpa using hgood⟩
    generalize reading.node.actions = actions at hmem
    generalize reading.clock = clock at hmem
    induction actions generalizing clock with
    | nil => cases hmem
    | cons action rest ih =>
      rcases List.mem_append.mp hmem with hfirst | hrest
      · unfold contributionOf at hfirst
        split at hfirst
        · split at hfirst
          · rw [List.mem_singleton.mp hfirst]
          · cases hfirst
        · cases hfirst
      · exact ih _ hrest

theorem accepted_filter : accepted type (readings.filter Reading.isNumeric) = accepted type readings := by
  unfold accepted numeric
  rw [List.filter_flatMap, List.filter_flatMap]
  induction readings with
  | nil => rfl
  | cons reading rest ih =>
    rw [List.flatMap_cons]
    by_cases hnumeric : reading.isNumeric = true
    · rw [List.filter_cons_of_pos hnumeric, List.flatMap_cons, ih]
    · have hnone : (reading.contributions type).filter (fun contribution => contribution.number.isSome) = [] := by
        rw [List.filter_eq_nil_iff]
        intro contribution hmem hnumber
        obtain ⟨hvalue, hgood⟩ := data_value_of_mem_contributions hmem
        refine hnumeric ?_
        rw [Contribution.number, hvalue] at hnumber
        simp [Reading.isNumeric, hgood, hnumber]
      rw [List.filter_cons_of_neg hnumeric, hnone, List.nil_append, ih]

theorem fragmentName_eq_time_iff {creation : MeasurementCreation} {node_id : String} :
    creation.fragmentName node_id = "time" ↔ nonBlank creation.fragment_name = some "time" := by
  rw [MeasurementCreation.fragmentName]
  cases nonBlank creation.fragment_name with
  | none =>
    have hne : "measurement_" ++ simplify node_id ≠ "time" := by
      intro h
      simpa [String.toList_append] using congrArg String.toList h
    simp [hne]
  | some name => simp

theorem exists_lastNumber {contributions : List Contribution} {contribution : Contribution}
    (hmem : contribution ∈ numeric contributions) :
    ∃ number, lastNumber (numeric contributions) contribution.slot = some number := by
  obtain ⟨-, hnumber⟩ := List.mem_filter.mp hmem
  obtain ⟨number, hnumber⟩ := Option.isSome_iff_exists.mp hnumber
  refine Option.isSome_iff_exists.mp ?_
  rw [lastNumber, List.getLast?_isSome]
  exact List.ne_nil_of_mem (List.mem_filterMap.mpr ⟨contribution, List.mem_filter.mpr ⟨hmem, by simp⟩, hnumber⟩)

/-- A message that some numbers make. -/
theorem build_builderOf {contributions : List Contribution} {oldest : Contribution} {rest : List Contribution}
    (hcontributions : numeric contributions = oldest :: rest) :
    (builderOf render contributions).build render second =
      some (.object (((builderOf render contributions).fragments.mapValues fun series =>
        Value.object series.entries).insert "time" (.string (oldest.dated render))).entries) := by
  have hcount := series_count_builderOf render contributions
  have htime := time_builderOf render contributions
  rw [hcontributions] at hcount htime
  rw [MeasurementBuilder.build, if_neg (by simp [hcount]), htime]
  rfl

theorem get_body (fragments : Fragments) (time : String) (fragment : String) :
    (Value.object ((fragments.mapValues fun series => Value.object series.entries).insert "time"
      (.string time)).entries).get fragment =
      if fragment = "time" then some (.string time)
      else (fragments.get fragment).map fun series => .object series.entries := by
  refine (OrderedMap.get_insert _ _ _ _).trans ?_
  rw [OrderedMap.get_mapValues]

/-- The message is complete exactly when no number is given a fragment that has the
name of the timestamp. -/
theorem complete_iff (render : Rendering) {contributions : List Contribution} {oldest : Contribution} {rest : List Contribution}
    (hcontributions : numeric contributions = oldest :: rest) :
    Complete render (numeric contributions) (.object (((builderOf render contributions).fragments.mapValues
      fun series => Value.object series.entries).insert "time" (.string (oldest.dated render))).entries) ↔
      ∀ contribution ∈ numeric contributions, contribution.SparesTime := by
  constructor
  · intro h contribution hmem
    refine ⟨fun hfragment => ?_, fun hstatic => ?_⟩
    · obtain ⟨number, -, hseries⟩ := h.series contribution hmem
      have htime : contribution.slot.fragment = "time" := fragmentName_eq_time_iff.mpr hfragment
      rw [get_body, if_pos htime] at hseries
      cases hseries
    · obtain ⟨members, hobject⟩ := h.statics contribution hmem "time" hstatic
      rw [get_body, if_pos rfl] at hobject
      cases hobject
  · intro hspared
    refine ⟨fun contribution hmem => ?_, fun contribution hmem fragment hstatic => ?_, ?_⟩
    · obtain ⟨number, hlast⟩ := exists_lastNumber hmem
      have hfragment : contribution.slot.fragment ≠ "time" :=
        fun h => (hspared contribution hmem).1 (fragmentName_eq_time_iff.mp h)
      refine ⟨number, hlast, ?_⟩
      have hread := readSlot_builderOf render (numeric contributions) contribution.slot
      rw [builderOf_numeric, hlast, readSlot] at hread
      rw [get_body, if_neg hfragment, Option.bind_map]
      exact hread
    · have hfragment : fragment ≠ "time" := fun h => (hspared contribution hmem).2 (h ▸ hstatic)
      have hpresent := (isSome_get_builderOf render contributions fragment).mpr ⟨contribution, hmem, Or.inr hstatic⟩
      obtain ⟨members, hmembers⟩ := Option.isSome_iff_exists.mp hpresent
      rw [get_body, if_neg hfragment, hmembers]
      exact ⟨_, rfl⟩
    · rw [get_body, if_pos rfl, hcontributions]
      rfl

variable {client : Client}

variable (render before first second readings type client) in
/-- The one message for a type is taken or refused with its topic. -/
theorem flushed_eq : flushed client render before first second readings type =
    if client.takes (measurementTopic before.entity type) then
      (((builderOf render (accepted type readings)).build render second).map
        (TedgeMqtt.publish_measurement before.entity type)).toList
    else [] := by
  rw [flushed, onTopic_taken, onTopic_secondFlush]

theorem LosesNothing.lossless (h : LosesNothing client render before first second readings type) :
    Lossless client before.entity (accepted type readings) type := by
  cases haccepted : accepted type readings with
  | nil => simp [Lossless]
  | cons oldest rest =>
    have hmessages := flushed_eq render before first second readings type client
    rw [accepted, builderOf_numeric, build_builderOf haccepted] at hmessages
    obtain ⟨body, hbody, hcomplete⟩ := h.some_accepted (by simp [haccepted])
    rw [hbody] at hmessages
    split at hmessages
    · rename_i htakes
      have hsame := congrArg Publish.payload (List.cons.inj hmessages).1
      rw [Payload.json.inj hsame] at hcomplete
      rw [← haccepted]
      exact fun contribution hmem => ⟨(complete_iff render haccepted).mp hcomplete contribution hmem, htakes⟩
    · cases hmessages

end Lossless

/-- A batch loses nothing of a type exactly when no number that is accepted for it has
a fragment or a static fragment called `time`, and its topic is none that the client
refuses. -/
theorem batch_loses_nothing_iff (client : Client) (render : Rendering) (before : Publisher) (first second : DateTime)
    (readings : List Reading) (type : String) :
    LosesNothing client render before first second readings type ↔
      Lossless client before.entity (accepted type readings) type := by
  refine ⟨LosesNothing.lossless, fun hlossless => ?_⟩
  have hmessages := flushed_eq render before first second readings type client
  refine ⟨fun hnone => ?_, fun hsome => ?_, ?_⟩
  · rw [hmessages, hnone]
    exact ite_self []
  · obtain ⟨oldest, rest, haccepted⟩ := List.exists_cons_of_ne_nil hsome
    have htakes := (hlossless oldest (by simp [haccepted])).2
    rw [if_pos htakes, accepted, builderOf_numeric, build_builderOf haccepted] at hmessages
    have hspared : ∀ contribution ∈ accepted type readings, contribution.SparesTime :=
      fun contribution hmem => (hlossless contribution hmem).1
    exact ⟨_, hmessages, (complete_iff render haccepted).mpr hspared⟩
  · rw [flushed_eq, flushed_eq, accepted_filter]

section Sample

/-- A node that measures under this fragment. -/
def flowNode (fragment : String) : ResolvedNode where
  node_id := ⟨2, .String "Flow"⟩
  node_id_str := "ns=2;s=Flow"
  actions := [.Measurement ⟨some "pump", some "flow", some fragment, none, none⟩]
  delivery := .Subscription .default

/-- The timestamp takes the place of a fragment called `time`. -/
theorem time_fragment_displaced :
    ¬ ∀ (render : Rendering) (before : Publisher) (first second : DateTime) (readings : List Reading) (type : String),
      LosesNothing .checking render before first second readings type := by
  intro hall
  let reading : Reading := ⟨flowNode "time", goodValue (.Boolean true), fun _ => 0⟩
  have hlossless := hall plainRendering (.new (.child_device "pump") true) 0 0 [reading] "pump"
  have hmem : (⟨⟨some "pump", some "flow", some "time", none, none⟩, "ns=2;s=Flow", goodValue (.Boolean true), 0⟩ :
      Contribution) ∈ accepted "pump" [reading] := by decide
  exact (hlossless.lossless _ hmem).1.1 (by decide)

end Sample

end gateway.publish
