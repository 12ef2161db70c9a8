import OpcuaGateway.Gateway.Publish.Batches

open json ordered_map readings tedge.topic tedge.mqtt mapping.model mapping.value mapping.payload mapping.resolve

namespace gateway.publish

/-- What a publisher is called for. -/
inductive Call where
  | accept (reading : Reading)
  | flush (now : DateTime)

/-- The call is about another node than that of this NodeId, or about a bad value. -/
def Call.Spares (node_id : String) : Call → Prop
  | .accept reading => reading.node.node_id_str ≠ node_id ∨ is_bad reading.data_value = true
  | .flush _ => True

def Publisher.handle (render : Rendering) (publisher : Publisher) : Call → Publisher × List Publish
  | .accept reading => publisher.accept render reading.clock reading.node reading.data_value
  | .flush now => publisher.flush render now

/-- The publisher after some calls. -/
def Publisher.handleAll (render : Rendering) (publisher : Publisher) (calls : List Call) : Publisher :=
  calls.foldl (fun publisher call => (publisher.handle render call).1) publisher

/-- The publisher as it comes to the action of this index. -/
def Publisher.before (render : Rendering) (publisher : Publisher) (reading : Reading) (j : Nat) : Publisher :=
  (Publisher.acceptActions render reading.node reading.data_value publisher (reading.node.actions.take j)
    reading.clock).1

/-- What a publisher publishes for one action of a value it accepts. -/
def Publisher.messagesOf (render : Rendering) (publisher : Publisher) (reading : Reading) (j : Nat) : List Publish :=
  match reading.node.actions[j]? with
  | none => []
  | some action =>
    ((publisher.before render reading j).acceptAction render (reading.clock j) reading.node reading.data_value action).2

/-- A publisher publishes what it publishes for the actions of a value, in order. -/
theorem accept_messages (render : Rendering) (publisher : Publisher) {reading : Reading}
    (hgood : is_bad reading.data_value = false) :
    (publisher.accept render reading.clock reading.node reading.data_value).2 =
      (List.range reading.node.actions.length).flatMap (publisher.messagesOf render reading) := by
  rw [Publisher.accept, if_neg (by simp [hgood])]
  unfold Publisher.messagesOf Publisher.before
  generalize reading.node.actions = actions
  generalize reading.clock = clock
  induction actions generalizing publisher clock with
  | nil => rfl
  | cons action rest ih =>
    rw [List.length_cons, List.range_succ_eq_map, List.flatMap_cons, List.flatMap_map]
    exact congrArg (_ ++ ·) (ih _ _)

/-- The next good value of a node, after calls that are about anything else. -/
structure Round (node_id : String) where
  interlude : List Call
  spares : ∀ call ∈ interlude, call.Spares node_id
  data_value : DataValue
  good : is_bad data_value = false
  clock : Nat → DateTime

section Memory

variable {publisher : Publisher}

/-- The text an action writes when it is an event of this type. -/
def textOf (render : Rendering) (type : String) (data_value : DataValue) : Action → Option String
  | .Event creation => if creation.type = some type then some (eventText render creation data_value) else none
  | .Measurement _ => none
  | .Alarm _ => none

/-- The texts that the event actions of one type write for a value. -/
def texts (render : Rendering) (type : String) (data_value : DataValue) (actions : List Action) : List String :=
  actions.filterMap (textOf render type data_value)

/-- What a publisher remembers of the events of a node. -/
def eventMemory (publisher : Publisher) (node_id type : String) : Option String :=
  publisher.last_event.get (toLex (node_id, type))

/-- A publisher that suppresses events, with the text it remembers under a key. -/
structure Remembers (publisher : Publisher) (node_id type : String) (text : Option String) : Prop where
  dedup : publisher.dedup_events = true
  memory : eventMemory publisher node_id type = text

variable {node_id type : String} {text : Option String}

theorem Remembers.congr {next : Publisher} (h : Remembers publisher node_id type text)
    (hdedup : next.dedup_events = publisher.dedup_events) (hlast : next.last_event = publisher.last_event) :
    Remembers next node_id type text := by
  refine ⟨hdedup.trans h.dedup, ?_⟩
  rw [eventMemory, hlast]
  exact h.memory

variable (render : Rendering) (node : ResolvedNode) (data_value : DataValue) (now : DateTime)

/-- The publisher once it has published a text. -/
def Publisher.remember (publisher : Publisher) (node_id type text : String) : Publisher :=
  { publisher with last_event := publisher.last_event.insert (toLex (node_id, type)) text }

/-- An event action: its text is published unless it is the one remembered. -/
theorem acceptEvent_eq {creation : EventCreation} {own : String} (hdedup : publisher.dedup_events = true)
    (htype : creation.type = some own) :
    publisher.acceptEvent render now creation node data_value =
      if eventMemory publisher node.node_id_str own = some (eventText render creation data_value) then (publisher, [])
      else (publisher.remember node.node_id_str own (eventText render creation data_value),
        [TedgeMqtt.publish_event publisher.entity own (event render now creation node.node_id_str data_value)]) := by
  unfold Publisher.acceptEvent
  rw [htype]
  dsimp only
  rw [if_pos hdedup, event_text]
  rfl

theorem Remembers.acceptEvent (h : Remembers publisher node_id type text) (creation : EventCreation) :
    Remembers (publisher.acceptEvent render now creation node data_value).1 node_id type
      (if node.node_id_str = node_id ∧ creation.type = some type then some (eventText render creation data_value)
        else text) := by
  cases htype : creation.type with
  | none =>
    have hsame : publisher.acceptEvent render now creation node data_value = (publisher, []) := by
      rw [Publisher.acceptEvent, htype]
    rw [hsame, if_neg (by simp)]
    exact h
  | some own =>
    rw [acceptEvent_eq render node data_value now h.dedup htype]
    have hkey : (toLex (node_id, type) : NodeType) = toLex (node.node_id_str, own) ↔
        node.node_id_str = node_id ∧ some own = some type := by
      rw [toLex_inj, Prod.mk.injEq, Option.some.injEq, eq_comm, @eq_comm _ type own]
    by_cases hown : node.node_id_str = node_id ∧ some own = some type
    · rw [if_pos hown]
      split
      · rename_i hremembered
        refine ⟨h.dedup, ?_⟩
        rw [eventMemory, hkey.mpr hown]
        exact hremembered
      · refine ⟨h.dedup, ?_⟩
        rw [eventMemory, hkey.mpr hown]
        exact OrderedMap.get_insert_self ..
    · rw [if_neg hown]
      split
      · exact h
      · have hother : (toLex (node_id, type) : NodeType) ≠ toLex (node.node_id_str, own) :=
          fun hsame => hown (hkey.mp hsame)
        exact ⟨h.dedup, (OrderedMap.get_insert_of_ne _ hother _).trans h.memory⟩

/-- After an action the text it wrote is remembered under its node and type. -/
theorem Remembers.acceptAction (h : Remembers publisher node_id type text) (action : Action) :
    Remembers (publisher.acceptAction render now node data_value action).1 node_id type
      (if node.node_id_str = node_id then (textOf render type data_value action).or text else text) := by
  cases action with
  | Measurement creation =>
    rw [textOf, Option.none_or, ite_self]
    change Remembers (publisher.acceptMeasurement render now creation node data_value) node_id type text
    unfold Publisher.acceptMeasurement
    split
    · exact h
    · exact h.congr rfl rfl
  | Alarm creation =>
    have hframe := acceptAlarm_frame publisher render now node data_value creation
    have hdedup := congrArg Publisher.dedup_events hframe
    have hlast := congrArg Publisher.last_event hframe
    rw [textOf, Option.none_or, ite_self]
    exact h.congr hdedup hlast
  | Event creation =>
    have hevent := h.acceptEvent render node data_value now creation
    by_cases hnode : node.node_id_str = node_id
    · by_cases htype : creation.type = some type
      · rw [if_pos ⟨hnode, htype⟩] at hevent
        rw [if_pos hnode, textOf, if_pos htype]
        exact hevent
      · rw [if_neg (fun hboth => htype hboth.2)] at hevent
        rw [if_pos hnode, textOf, if_neg htype]
        exact hevent
    · rw [if_neg (fun hboth => hnode hboth.1)] at hevent
      rw [if_neg hnode]
      exact hevent

/-- After a value the last text that its actions wrote is remembered. -/
theorem Remembers.acceptActions (h : Remembers publisher node_id type text) (actions : List Action)
    (clock : Nat → DateTime) :
    Remembers (Publisher.acceptActions render node data_value publisher actions clock).1 node_id type
      (if node.node_id_str = node_id then (texts render type data_value actions).getLast?.or text else text) := by
  induction actions generalizing publisher text clock with
  | nil =>
    rw [texts, List.filterMap_nil, List.getLast?_nil, Option.none_or, ite_self]
    exact h
  | cons action rest ih =>
    have hrest := ih (h.acceptAction render node data_value (clock 0) action) fun i => clock (i + 1)
    have htexts : texts render type data_value (action :: rest) =
        (textOf render type data_value action).toList ++ texts render type data_value rest := by
      rw [texts, List.filterMap_cons]
      cases textOf render type data_value action <;> rfl
    by_cases hnode : node.node_id_str = node_id
    · rw [if_pos hnode, if_pos hnode] at hrest
      rw [if_pos hnode, htexts, List.getLast?_append, Option.or_assoc]
      cases htext : textOf render type data_value action with
      | none => rwa [htext] at hrest
      | some own => rwa [htext] at hrest
    · rw [if_neg hnode, if_neg hnode] at hrest
      rw [if_neg hnode]
      exact hrest

/-- A call about anything else leaves what is remembered of a node. -/
theorem Remembers.handle (h : Remembers publisher node_id type text) {call : Call} (hspares : call.Spares node_id) :
    Remembers (publisher.handle render call).1 node_id type text := by
  cases call with
  | flush now => exact h.congr rfl rfl
  | accept reading =>
    change Remembers (publisher.accept render reading.clock reading.node reading.data_value).1 node_id type text
    unfold Publisher.accept
    split
    · exact h
    · rename_i hgood
      have hother : reading.node.node_id_str ≠ node_id := hspares.resolve_right hgood
      have haccepted := h.acceptActions render reading.node reading.data_value reading.node.actions
        reading.clock
      rwa [if_neg hother] at haccepted

theorem Remembers.handleAll (h : Remembers publisher node_id type text) {calls : List Call}
    (hspares : ∀ call ∈ calls, call.Spares node_id) :
    Remembers (publisher.handleAll render calls) node_id type text := by
  induction calls generalizing publisher with
  | nil => exact h
  | cons call rest ih =>
    have hcall := h.handle render (hspares call List.mem_cons_self)
    exact ih hcall fun other hmem => hspares other (List.mem_cons_of_mem _ hmem)

end Memory

section Rounds

variable (render : Rendering) (entity : EntityTopicId) (node : ResolvedNode)

def Round.reading {node : ResolvedNode} (round : Round node.node_id_str) : Reading :=
  ⟨node, round.data_value, round.clock⟩

def Round.calls {node : ResolvedNode} (round : Round node.node_id_str) : List Call :=
  round.interlude ++ [.accept round.reading]

variable {node}

/-- A new publisher that suppresses events, after some rounds and what precedes the
value of another one. -/
def reached (rounds : List (Round node.node_id_str)) (round : Round node.node_id_str) : Publisher :=
  (Publisher.new entity true).handleAll render (rounds.flatMap Round.calls ++ round.interlude)

/-- The texts of one type that the rounds of a node write. -/
def stream (type : String) (rounds : List (Round node.node_id_str)) : List String :=
  rounds.flatMap fun round => texts render type round.data_value node.actions

variable {type : String}

theorem handleAll_append (publisher : Publisher) (first second : List Call) :
    publisher.handleAll render (first ++ second) = (publisher.handleAll render first).handleAll render second :=
  List.foldl_append

theorem Remembers.handleRound (round : Round node.node_id_str) {publisher : Publisher} {text : Option String}
    (h : Remembers publisher node.node_id_str type text) :
    Remembers (publisher.handleAll render round.calls) node.node_id_str type
      ((texts render type round.data_value node.actions).getLast?.or text) := by
  have hinterlude := h.handleAll render round.spares
  have haccepted := hinterlude.acceptActions render node round.data_value node.actions round.clock
  rw [if_pos rfl] at haccepted
  rw [Round.calls, handleAll_append]
  change Remembers (Publisher.accept render round.clock _ node round.data_value).1 _ _ _
  rw [Publisher.accept, if_neg (by simp [round.good])]
  exact haccepted

/-- A publisher remembers the last text of the rounds it has been through. -/
theorem Remembers.handleRounds (rounds : List (Round node.node_id_str)) {publisher : Publisher} {text : Option String}
    (h : Remembers publisher node.node_id_str type text) :
    Remembers (publisher.handleAll render (rounds.flatMap Round.calls)) node.node_id_str type
      ((stream render type rounds).getLast?.or text) := by
  induction rounds generalizing publisher text with
  | nil => exact h
  | cons first rest ih =>
    rw [List.flatMap_cons, handleAll_append, stream, List.flatMap_cons, List.getLast?_append, Option.or_assoc]
    exact ih (h.handleRound render first)

theorem reached_remembers (type : String) (rounds : List (Round node.node_id_str)) (round : Round node.node_id_str) :
    Remembers (reached render entity rounds round) node.node_id_str type (stream render type rounds).getLast? := by
  have hnew : Remembers (.new entity true) node.node_id_str type none := ⟨rfl, rfl⟩
  have hrounds := hnew.handleRounds render rounds
  rw [Option.or_none] at hrounds
  rw [reached, handleAll_append]
  exact hrounds.handleAll render round.spares

theorem before_remembers (type : String) (rounds : List (Round node.node_id_str)) (round : Round node.node_id_str)
    (j : Nat) :
    Remembers ((reached render entity rounds round).before render round.reading j) node.node_id_str type
      (stream render type rounds ++ texts render type round.data_value (node.actions.take j)).getLast? := by
  have hbefore := (reached_remembers render entity type rounds round).acceptActions render node round.data_value
    (node.actions.take j) round.clock
  rw [if_pos rfl, ← List.getLast?_append] at hbefore
  exact hbefore

/-- The client is called for the action of this index. -/
def IsAnnounced (rounds : List (Round node.node_id_str)) (round : Round node.node_id_str) (j : Nat) : Prop :=
  (reached render entity rounds round).messagesOf render round.reading j ≠ []

/-- The client is called for an event exactly when its text is not the one written
before it. -/
theorem isAnnounced_iff {rounds : List (Round node.node_id_str)} {round : Round node.node_id_str} {j : Nat}
    {creation : EventCreation} (haction : node.actions[j]? = some (.Event creation)) :
    IsAnnounced render entity rounds round j ↔ ∃ own, creation.type = some own ∧
      (stream render own rounds ++ texts render own round.data_value (node.actions.take j)).getLast? ≠
        some (eventText render creation round.data_value) := by
  have hmessages : (reached render entity rounds round).messagesOf render round.reading j =
      (((reached render entity rounds round).before render round.reading j).acceptEvent render (round.clock j)
        creation node round.data_value).2 := by
    rw [Publisher.messagesOf]
    change (match node.actions[j]? with | none => _ | some action => _) = _
    rw [haction]
    rfl
  rw [IsAnnounced, hmessages]
  cases htype : creation.type with
  | none =>
    rw [Publisher.acceptEvent, htype]
    simp
  | some own =>
    have hbefore := before_remembers render entity own rounds round j
    rw [acceptEvent_eq render node round.data_value (round.clock j) hbefore.dedup htype, hbefore.memory]
    simp only [Option.some.injEq, exists_eq_left']
    split
    · rename_i hsame
      exact iff_of_false (fun hnot => hnot rfl) fun hnot => hnot hsame
    · rename_i hother
      exact iff_of_true (List.cons_ne_nil _ _) hother

end Rounds

/-- The value of a round is the first one or differs from the one before. -/
def Changed {node_id : String} (before : List (Round node_id)) (round : Round node_id) : Prop :=
  ∀ previous ∈ before.getLast?, previous.data_value.value ≠ round.data_value.value

/-- The client is called for every event action at exactly the values that are a change. -/
def AnnouncesChanges (render : Rendering) (entity : EntityTopicId) {node : ResolvedNode}
    (rounds : List (Round node.node_id_str)) : Prop :=
  ∀ before round after, rounds = before ++ round :: after →
    ∀ j creation, node.actions[j]? = some (.Event creation) →
      (IsAnnounced render entity before round j ↔ Changed before round)

/-- The types of the event actions of a node. -/
def eventTypes (actions : List Action) : List String :=
  actions.filterMap fun
    | .Event creation => creation.type
    | .Measurement _ => none
    | .Alarm _ => none

/-- The texts of a node tell its values apart: neighbouring texts of a type differ
within a value and where the value changes. Where a value is repeated the types of
the event actions differ, and every event has a type. -/
structure TellsValues (render : Rendering) {node : ResolvedNode} (rounds : List (Round node.node_id_str)) :
    Prop where
  typed : rounds ≠ [] → ∀ creation, .Event creation ∈ node.actions → creation.type ≠ none
  within : ∀ round ∈ rounds, ∀ type, (texts render type round.data_value node.actions).IsChain (· ≠ ·)
  changed : ∀ first second, [first, second] <:+: rounds → first.data_value.value ≠ second.data_value.value →
    ∀ type, ∀ text ∈ (texts render type first.data_value node.actions).getLast?,
      text ∉ (texts render type second.data_value node.actions).head?
  repeated : ∀ first second, [first, second] <:+: rounds → first.data_value.value = second.data_value.value →
    (eventTypes node.actions).Nodup

section Exact

variable {render : Rendering} {entity : EntityTopicId} {node : ResolvedNode} {rounds : List (Round node.node_id_str)}

variable (render) in
/-- Every event of a type writes a text. -/
theorem length_texts (type : String) (data_value : DataValue) (actions : List Action) :
    (texts render type data_value actions).length = (eventTypes actions).count type := by
  unfold texts eventTypes
  induction actions with
  | nil => rfl
  | cons action rest ih =>
    rw [List.filterMap_cons, List.filterMap_cons]
    cases action with
    | Measurement creation => exact ih
    | Alarm creation => exact ih
    | Event creation =>
      simp only [textOf]
      cases creation.type with
      | none => exact ih
      | some own =>
        by_cases htype : own = type
        · subst htype
          simp [ih]
        · simp [htype, ih]

/-- The texts of a value are those of any equal value. -/
theorem texts_congr {first second : DataValue} (hsame : first.value = second.value) (type : String)
    (actions : List Action) : texts render type first actions = texts render type second actions := by
  have htext : textOf render type first = textOf render type second := by
    funext action
    cases action <;> simp [textOf, eventText, hsame]
  rw [texts, htext, texts]

variable {before : List (Round node.node_id_str)} {round : Round node.node_id_str} {type : String}

/-- The events of a type are published exactly where their text is not the one
written before it. -/
theorem forall_isAnnounced_iff (published : Prop) :
    (∀ j creation, node.actions[j]? = some (.Event creation) → creation.type = some type →
      (IsAnnounced render entity before round j ↔ published)) ↔
      ∀ xs text ys, texts render type round.data_value node.actions = xs ++ text :: ys →
        ((stream render type before ++ xs).getLast? ≠ some text ↔ published) := by
  rw [texts, ← forall_filterMap_split_iff]
  constructor
  · intro h j action text haction htext
    cases action with
    | Measurement creation => cases htext
    | Alarm creation => cases htext
    | Event creation =>
      rw [textOf] at htext
      split at htext
      · rename_i htype
        cases htext
        rw [← h j creation haction htype, isAnnounced_iff render entity haction]
        simp [htype, texts]
      · cases htext
  · intro h j creation haction htype
    have htext : textOf render type round.data_value (.Event creation) =
        some (eventText render creation round.data_value) := by rw [textOf, if_pos htype]
    rw [← h j _ _ haction htext, isAnnounced_iff render entity haction]
    simp [htype, texts]

theorem changed_concat_iff {node_id : String} {init : List (Round node_id)} {previous round : Round node_id} :
    Changed (init ++ [previous]) round ↔ previous.data_value.value ≠ round.data_value.value := by
  simp [Changed]

theorem AnnouncesChanges.split {after : List (Round node.node_id_str)} (h : AnnouncesChanges render entity rounds)
    (hrounds : rounds = before ++ round :: after) (type : String) {xs ys : List String} {text : String}
    (htexts : texts render type round.data_value node.actions = xs ++ text :: ys) :
    (stream render type before ++ xs).getLast? ≠ some text ↔ Changed before round :=
  (forall_isAnnounced_iff _).mp (fun j creation haction _ => h before round after hrounds j creation haction)
    xs text ys htexts

/-- Where every event is published the texts differ from the ones written before them. -/
theorem AnnouncesChanges.ofChanged {after : List (Round node.node_id_str)} (h : AnnouncesChanges render entity rounds)
    (hrounds : rounds = before ++ round :: after) (hchanged : Changed before round) (type : String) :
    (texts render type round.data_value node.actions).IsChain (· ≠ ·) ∧
      ∀ text ∈ (stream render type before).getLast?,
        text ∉ (texts render type round.data_value node.actions).head? :=
  forall_ne_last_iff.mp fun _ _ _ htexts => (h.split hrounds type htexts).mpr hchanged

/-- The texts of a repeated value are those of the value it repeats, so those of every
value go back to a change. -/
theorem AnnouncesChanges.isChain {after : List (Round node.node_id_str)} (h : AnnouncesChanges render entity rounds)
    (hrounds : rounds = before ++ round :: after) (type : String) :
    (texts render type round.data_value node.actions).IsChain (· ≠ ·) := by
  induction before using List.reverseRecOn generalizing round after with
  | nil =>
    have hchanged : Changed [] round := fun previous hmem => by cases hmem
    exact (h.ofChanged hrounds hchanged type).1
  | append_singleton init previous ih =>
    by_cases hsame : previous.data_value.value = round.data_value.value
    · rw [List.append_assoc] at hrounds
      rw [← texts_congr hsame]
      exact ih hrounds
    · exact (h.ofChanged hrounds (changed_concat_iff.mpr hsame) type).1

theorem AnnouncesChanges.tellsValues (h : AnnouncesChanges render entity rounds) : TellsValues render rounds where
  typed := by
    intro hrounds creation hmem htype
    obtain ⟨round, after, hrounds⟩ := List.exists_cons_of_ne_nil hrounds
    obtain ⟨j, haction⟩ := List.getElem?_of_mem hmem
    have hpublished := (h [] round after hrounds j creation haction).mpr fun previous hnone => by cases hnone
    obtain ⟨own, hown, -⟩ := (isAnnounced_iff render entity haction).mp hpublished
    rw [htype] at hown
    cases hown
  within := by
    intro round hmem type
    obtain ⟨before, after, hrounds⟩ := List.append_of_mem hmem
    exact h.isChain hrounds type
  changed := by
    rintro first second ⟨init, after, hrounds⟩ hdiffer type text hlast
    have hsplit : rounds = (init ++ [first]) ++ second :: after := by
      rw [← hrounds]
      simp
    refine (h.ofChanged hsplit (changed_concat_iff.mpr hdiffer) type).2 text ?_
    rw [stream, List.flatMap_append, List.flatMap_singleton, List.getLast?_append, Option.mem_def, hlast]
    rfl
  repeated := by
    rintro first second ⟨init, after, hrounds⟩ hsame
    have hsplit : rounds = (init ++ [first]) ++ second :: after := by
      rw [← hrounds]
      simp
    have hunchanged : ¬ Changed (init ++ [first]) second := fun hchanged => changed_concat_iff.mp hchanged hsame
    rw [List.nodup_iff_count_le_one]
    intro type
    rw [← length_texts render type second.data_value]
    have hrepeats : ∀ xs text ys, texts render type second.data_value node.actions = xs ++ text :: ys →
        (stream render type (init ++ [first]) ++ xs).getLast? = some text := by
      intro xs text ys htexts
      by_contra hne
      exact hunchanged ((h.split hsplit type htexts).mp hne)
    exact length_le_one_of_forall_eq_last (h.isChain hsplit type) hrepeats

theorem getLast?_stream_concat {init : List (Round node.node_id_str)} {previous : Round node.node_id_str} :
    (stream render type (init ++ [previous])).getLast? =
      (texts render type previous.data_value node.actions).getLast? := by
  rw [stream, List.flatMap_append, List.flatMap_singleton, List.getLast?_append]
  cases hprevious : (texts render type previous.data_value node.actions).getLast? with
  | some text => rfl
  | none =>
    -- Without events of this type no value has ever written a text.
    have hnone := List.getLast?_eq_none_iff.mp hprevious
    have hcount := length_texts render type previous.data_value node.actions
    rw [hnone] at hcount
    rw [Option.none_or, List.getLast?_eq_none_iff, List.flatMap_eq_nil_iff]
    intro other _
    rw [← List.length_eq_zero_iff, length_texts, ← hcount]
    rfl

/-- Texts that tell the values apart are published where the value changes only. -/
theorem TellsValues.split {after : List (Round node.node_id_str)} (h : TellsValues render rounds)
    (hrounds : rounds = before ++ round :: after) (type : String) {xs ys : List String} {text : String}
    (htexts : texts render type round.data_value node.actions = xs ++ text :: ys) :
    (stream render type before ++ xs).getLast? ≠ some text ↔ Changed before round := by
  have hchain := h.within round (by simp [hrounds]) type
  cases before using List.reverseRecOn with
  | nil =>
    have hfirst := forall_ne_last_iff.mpr ⟨hchain, fun y (hy : y ∈ ([] : List String).getLast?) => by cases hy⟩
    exact iff_of_true (hfirst xs text ys htexts) fun previous hmem => by cases hmem
  | append_singleton init previous =>
    have hinfix : [previous, round] <:+: rounds := ⟨init, after, by simp [hrounds]⟩
    rw [changed_concat_iff]
    by_cases hsame : previous.data_value.value = round.data_value.value
    · refine iff_of_false (fun hne => hne ?_) fun hdiffer => hdiffer hsame
      have hone := List.nodup_iff_count_le_one.mp (h.repeated previous round hinfix hsame) type
      rw [← length_texts render type round.data_value, htexts, List.length_append,
        List.length_cons] at hone
      have hxs : xs = [] := List.length_eq_zero_iff.mp (by omega)
      have hys : ys = [] := List.length_eq_zero_iff.mp (by omega)
      rw [hxs, List.append_nil, getLast?_stream_concat, texts_congr hsame, htexts, hxs, hys]
      rfl
    · refine iff_of_true (forall_ne_last_iff.mpr ⟨hchain, ?_⟩ xs text ys htexts) hsame
      rw [getLast?_stream_concat]
      exact h.changed previous round hinfix hsame type

end Exact

/-- The client is called as the value changes exactly when the texts tell the values
apart. -/
theorem announcesChanges_iff (render : Rendering) (entity : EntityTopicId) {node : ResolvedNode}
    (rounds : List (Round node.node_id_str)) : AnnouncesChanges render entity rounds ↔ TellsValues render rounds := by
  refine ⟨AnnouncesChanges.tellsValues, fun h before round after hrounds j creation haction => ?_⟩
  have htyped := h.typed (by simp [hrounds]) creation (List.mem_of_getElem? haction)
  obtain ⟨type, htype⟩ := Option.ne_none_iff_exists'.mp htyped
  refine (forall_isAnnounced_iff (Changed before round)).mpr ?_ j creation haction htype
  exact fun xs text ys htexts => h.split hrounds type htexts

def eventTopic (entity : EntityTopicId) (type : String) : String := entity.channel_topic ("e/" ++ type)

section Taken

variable (client : Client) (render : Rendering) (entity : EntityTopicId) {node : ResolvedNode}

/-- The client takes what is published for the action of this index. -/
def IsPublished (rounds : List (Round node.node_id_str)) (round : Round node.node_id_str) (j : Nat) : Prop :=
  client.taken ((reached render entity rounds round).messagesOf render round.reading j) ≠ []

/-- Every event action is published at exactly the values that are a change. -/
def FollowsValue (rounds : List (Round node.node_id_str)) : Prop :=
  ∀ before round after, rounds = before ++ round :: after →
    ∀ j creation, node.actions[j]? = some (.Event creation) →
      (IsPublished client render entity before round j ↔ Changed before round)

/-- The client refuses no type of an event that has a value to speak of. -/
def TakesEvents (rounds : List (Round node.node_id_str)) : Prop :=
  rounds ≠ [] → ∀ creation type, .Event creation ∈ node.actions → creation.type = some type →
    client.takes (eventTopic entity type) = true

variable {client render entity} {rounds before : List (Round node.node_id_str)} {round : Round node.node_id_str}
  {j : Nat} {creation : EventCreation}

theorem handleAll_entity (publisher : Publisher) (calls : List Call) :
    (publisher.handleAll render calls).entity = publisher.entity := by
  induction calls generalizing publisher with
  | nil => rfl
  | cons call rest ih =>
    refine (ih _).trans ?_
    cases call with
    | flush now => rfl
    | accept reading => exact (accept_confined render reading.node reading.data_value reading.clock).entity

/-- What is published for an event goes to the topic of its type. -/
theorem topic_of_mem_messagesOf (haction : node.actions[j]? = some (.Event creation)) {message : Publish}
    (hmem : message ∈ (reached render entity before round).messagesOf render round.reading j) :
    ∃ type, creation.type = some type ∧ message.topic = eventTopic entity type := by
  have hentity : ((reached render entity before round).before render round.reading j).entity = entity := by
    refine (acceptActions_confined render node round.data_value _ round.clock).entity.trans ?_
    exact handleAll_entity _ _
  have hat : round.reading.node.actions[j]? = some (.Event creation) := haction
  simp only [Publisher.messagesOf, hat] at hmem
  cases announces_of_acceptAction hmem with
  | event now htype => exact ⟨_, htype, congrArg (eventTopic · _) hentity⟩

/-- Publishing takes the call and a client that takes it. -/
theorem isPublished_iff (haction : node.actions[j]? = some (.Event creation)) :
    IsPublished client render entity before round j ↔
      IsAnnounced render entity before round j ∧
        ∀ type, creation.type = some type → client.takes (eventTopic entity type) = true := by
  have htopic : ∀ message ∈ (reached render entity before round).messagesOf render round.reading j,
      ∃ type, creation.type = some type ∧ message.topic = eventTopic entity type :=
    fun message hmem => topic_of_mem_messagesOf haction hmem
  constructor
  · intro hpublished
    obtain ⟨message, hmem⟩ := List.exists_mem_of_ne_nil _ hpublished
    obtain ⟨hmem, htakes⟩ := Client.mem_taken.mp hmem
    obtain ⟨own, hown, hsame⟩ := htopic message hmem
    refine ⟨List.ne_nil_of_mem hmem, fun type htype => ?_⟩
    rw [hown] at htype
    cases htype
    rwa [hsame] at htakes
  · rintro ⟨hannounced, htakes⟩
    obtain ⟨message, hmem⟩ := List.exists_mem_of_ne_nil _ hannounced
    obtain ⟨own, hown, hsame⟩ := htopic message hmem
    exact List.ne_nil_of_mem (Client.mem_taken.mpr ⟨hmem, hsame ▸ htakes own hown⟩)

/-- The first value is a change, so a refused event misses it. -/
theorem FollowsValue.takesEvents (h : FollowsValue client render entity rounds) : TakesEvents client entity rounds := by
  intro hrounds creation type hmem htype
  obtain ⟨round, after, hrounds⟩ := List.exists_cons_of_ne_nil hrounds
  obtain ⟨j, haction⟩ := List.getElem?_of_mem hmem
  have hpublished := (h [] round after hrounds j creation haction).mpr fun previous hnone => by cases hnone
  exact ((isPublished_iff haction).mp hpublished).2 type htype

/-- Where no event is refused, to be called is to publish. -/
theorem TakesEvents.followsValue_iff (h : TakesEvents client entity rounds) :
    FollowsValue client render entity rounds ↔ AnnouncesChanges render entity rounds := by
  have hsame : ∀ before round after, rounds = before ++ round :: after →
      ∀ j creation, node.actions[j]? = some (.Event creation) →
        (IsPublished client render entity before round j ↔ IsAnnounced render entity before round j) := by
    intro before round after hrounds j creation haction
    rw [isPublished_iff haction, and_iff_left]
    exact fun type => h (by simp [hrounds]) creation type (List.mem_of_getElem? haction)
  constructor
  · intro hfollows before round after hrounds j creation haction
    rw [← hsame before round after hrounds j creation haction]
    exact hfollows before round after hrounds j creation haction
  · intro hannounces before round after hrounds j creation haction
    rw [hsame before round after hrounds j creation haction]
    exact hannounces before round after hrounds j creation haction

end Taken

section Sample

/-- A node whose event has a text of its own. -/
def modeNode : ResolvedNode where
  node_id := ⟨2, .String "Mode"⟩
  node_id_str := "ns=2;s=Mode"
  actions := [.Event ⟨some "mode", some "mode changed", none⟩]
  delivery := .CyclicRead 1000 (binary64.ofInt 0)

def modeRound (on : Bool) : Round modeNode.node_id_str where
  interlude := []
  spares := by simp
  data_value := goodValue (.Boolean on)
  good := rfl
  clock := fun _ => 0

end Sample

end gateway.publish
