import OpcuaGateway.Gateway.Publish.Schedules
import OpcuaGateway.Gateway.ServerTask.ReadLoop
import OpcuaGateway.Gateway.ServerTask.Routing

open transition ordered_map tedge.topic tedge.mqtt mapping.value mapping.payload mapping.resolve
  gateway.config gateway.publish

namespace gateway.server_task

section Work

/-- The work of a turn of a publisher: it accepts a value for a node, or is flushed. -/
def turnWork : Option (ResolvedNode × DataValue) → List CycleWork
  | some entry => valueWork entry
  | none => [.flush]

variable {render : Rendering} {publisher : Publisher}

/-- Turns, done piece by piece, are turns of the publisher. -/
theorem performAll_turns {turns : List (Option (ResolvedNode × DataValue))} {done : List (CycleWork × DateTime)}
    (hdone : done.map Prod.fst = turns.flatMap turnWork) :
    ∃ taken : List publish.Turn,
      (acceptedReadings taken).map (fun reading => (reading.node, reading.data_value)) = turns.filterMap id ∧
      performAll render publisher done = publisher.runTurns render taken := by
  induction turns generalizing publisher done with
  | nil =>
    obtain rfl := List.map_eq_nil_iff.mp hdone
    exact ⟨[], rfl, rfl⟩
  | cons turn rest ih =>
    rw [List.flatMap_cons] at hdone
    obtain ⟨first, others, rfl, hfirst, hothers⟩ := List.map_eq_append_iff.mp hdone
    obtain ⟨taken, hvalues, hrest⟩ := @ih (performAll render publisher first).1 others hothers
    cases turn with
    | none =>
      obtain ⟨⟨work, now⟩, last, rfl, hflush, hlast⟩ := List.map_eq_cons_iff.mp hfirst
      obtain rfl := List.map_eq_nil_iff.mp hlast
      subst hflush
      have hperformed : performAll render publisher [(.flush, now)] = publisher.flush render now :=
        Prod.ext rfl (List.append_nil _)
      refine ⟨.flush now :: taken, ?_, ?_⟩
      · rw [List.filterMap_cons_none rfl]
        exact hvalues
      · rw [performAll_append, hrest, hperformed]
        rfl
    | some entry =>
      obtain ⟨readings, hreadings, hperformed⟩ := @performAll_values render publisher [entry] first 
        (by rw [hfirst, List.flatMap_singleton]; rfl)
      obtain ⟨reading, hsingle, hentry⟩ : ∃ reading, readings = [reading] ∧
          (reading.node, reading.data_value) = entry := by
        obtain ⟨reading, last, rfl, hentry, hlast⟩ := List.map_eq_cons_iff.mp hreadings
        obtain rfl := List.map_eq_nil_iff.mp hlast
        exact ⟨reading, rfl, hentry⟩
      subst hsingle
      have haccepted : performAll render publisher first =
          publisher.accept render reading.clock reading.node reading.data_value := by
        rw [hperformed]
        exact Prod.ext rfl (List.append_nil _)
      refine ⟨.accept reading :: taken, ?_, ?_⟩
      · change _ = entry :: rest.filterMap id
        rw [← hvalues, ← hentry]
        rfl
      · rw [performAll_append, hrest, haccepted]
        rfl

end Work

section Tracks

variable (render : Rendering) (entity : EntityTopicId)

/-- A publisher has taken turns with these values, up to the work that remains, and said
on the channels of its device what it published over them. -/
def Tracks (values : List (ResolvedNode × DataValue)) (remaining : List CycleWork) (publisher : Publisher)
    (messages : List Publish) : Prop :=
  ∃ (turns : List (Option (ResolvedNode × DataValue))) (done : List (CycleWork × DateTime)),
    turns.filterMap id = values ∧ done.map Prod.fst ++ remaining = turns.flatMap turnWork ∧
      publisher = (performAll render (.new entity false) done).1 ∧
      ∀ channel, onTopic (entity.channel_topic channel) messages =
        onTopic (entity.channel_topic channel) (performAll render (.new entity false) done).2

theorem tracks_new : Tracks render entity [] [] (.new entity false) [] :=
  ⟨[], [], rfl, rfl, rfl, fun _ => rfl⟩

variable {render entity} {values : List (ResolvedNode × DataValue)} {remaining : List CycleWork} {next : CycleWork}
  {publisher : Publisher} {messages foreign : List Publish}

/-- The next turn. -/
theorem Tracks.turn (h : Tracks render entity values [] publisher messages)
    (turn : Option (ResolvedNode × DataValue)) :
    Tracks render entity (values ++ turn.toList) (turnWork turn) publisher messages := by
  obtain ⟨turns, done, hvalues, hdone, hpublisher, hmessages⟩ := h
  rw [List.append_nil] at hdone
  refine ⟨turns ++ [turn], done, ?_, ?_, hpublisher, hmessages⟩
  · rw [List.filterMap_append, hvalues]
    cases turn <;> rfl
  · rw [List.flatMap_append, hdone, List.flatMap_singleton]

/-- The next piece of work. -/
theorem Tracks.perform (h : Tracks render entity values (next :: remaining) publisher messages) (now : DateTime) :
    Tracks render entity values remaining (next.perform render now publisher).1
      (messages ++ (next.perform render now publisher).2) := by
  obtain ⟨turns, done, hvalues, hdone, rfl, hmessages⟩ := h
  refine ⟨turns, done ++ [(next, now)], hvalues, ?_, ?_, fun channel => ?_⟩
  · rw [← hdone, List.map_append, List.append_assoc]
    rfl
  · rw [performAll_concat]
  · rw [performAll_concat, onTopic_append, onTopic_append, hmessages channel]

theorem Tracks.flush (h : Tracks render entity values [] publisher messages) (now : DateTime) :
    Tracks render entity values [] (publisher.flush render now).1 (messages ++ (publisher.flush render now).2) := by
  have hturn := h.turn none
  rw [Option.toList_none, List.append_nil] at hturn
  exact hturn.perform now

/-- What others say, on channels of theirs, does not matter. -/
theorem Tracks.frame (h : Tracks render entity values remaining publisher messages)
    (hforeign : ∀ message ∈ foreign, ∀ channel, message.topic ≠ entity.channel_topic channel) :
    Tracks render entity values remaining publisher (messages ++ foreign) := by
  obtain ⟨turns, done, hvalues, hdone, hpublisher, hmessages⟩ := h
  refine ⟨turns, done, hvalues, hdone, hpublisher, fun channel => ?_⟩
  have hnone : onTopic (entity.channel_topic channel) foreign = [] := by
    rw [onTopic, List.filter_eq_nil_iff]
    intro message hmem hsame
    exact hforeign message hmem channel (of_decide_eq_true hsame)
  rw [onTopic_append, hnone, List.append_nil]
  exact hmessages channel

/-- Between two turns, a flush would complete what its readings come to. -/
theorem Tracks.conveys (h : Tracks render entity values [] publisher messages) :
    ∃ readings : List Reading, readings.map (fun reading => (reading.node, reading.data_value)) = values ∧
      ∀ now, Conveys render entity false readings (messages ++ (publisher.flush render now).2) := by
  obtain ⟨turns, done, hvalues, hdone, hpublisher, hmessages⟩ := h
  rw [List.append_nil] at hdone
  obtain ⟨taken, htaken, hperformed⟩ := @performAll_turns render (.new entity false) turns done hdone
  rw [hperformed] at hpublisher hmessages
  refine ⟨acceptedReadings taken, htaken.trans hvalues, fun now => ?_⟩
  have hconveys := conveys_runTurns render entity false taken now
  refine hconveys.congr fun channel => ?_
  have hflush : (publisher.runTurns render [.flush now]).2 = (publisher.flush render now).2 := List.append_nil _
  rw [onTopic_append, hmessages channel, runTurns_append, ← hpublisher, hflush, onTopic_append]

end Tracks

section Loop

/-- What a notification means to a device: a value of one of its nodes. -/
def routed (routes : Routes) (entity : EntityTopicId) (change : DataChange) : Option (ResolvedNode × DataValue) :=
  (routes.get change.client_handle).bind fun target =>
    if target.entity = entity then some (target.node, change.value) else none

/-- What is left to do of the value that a publisher accepts. -/
def LoopPhase.remaining (index : Nat) : LoopPhase → List CycleWork
  | .accepting other node data_value actions _ => if other = index then actions.map (.act node data_value) else []
  | _ => []

def LogEvent.message : LogEvent → Option Publish
  | .handed message => some message
  | .accepted _ _ => none

/-- The messages that were handed to the client, oldest first. -/
def handedIn (log : List LogEvent) : List Publish := (log.filterMap LogEvent.message).reverse

/-- The messages that were handed over or are about to be. -/
def LoopState.told (state : LoopState) : List Publish := handedIn state.log ++ state.phase.inHand

/-- Devices that share no channel. -/
def Separate (entities : List EntityTopicId) : Prop :=
  entities.Pairwise fun entity other => ∀ channel channel', entity.channel_topic channel ≠ other.channel_topic channel'

theorem Separate.topic_ne {publishers : List Publisher} (h : Separate (publishers.map (·.entity))) {i j : Nat}
    {first second : Publisher} (hfirst : publishers[i]? = some first) (hsecond : publishers[j]? = some second)
    (hne : i ≠ j) (channel channel' : String) :
    first.entity.channel_topic channel ≠ second.entity.channel_topic channel' := by
  obtain ⟨hi, rfl⟩ := List.getElem?_eq_some_iff.mp hfirst
  obtain ⟨hj, rfl⟩ := List.getElem?_eq_some_iff.mp hsecond
  have hordered := List.pairwise_iff_getElem.mp (List.pairwise_map.mp h)
  by_cases hlt : i < j
  · exact hordered i j hi hj hlt channel channel'
  · have hgt : j < i := by omega
    exact (hordered j i hj hi hgt channel' channel).symm

/-- Every device has its publisher, and every publisher has taken its turns with the
notifications that were routed to its device. -/
structure InTurn (render : Rendering) (routes : Routes) (seen : List DataChange) (state : LoopState) : Prop where
  separate : Separate (state.publishers.map (·.entity))
  served : ∀ target ∈ routes.values, target.entity ∈ state.publishers.map (·.entity)
  tracks : ∀ index publisher, state.publishers[index]? = some publisher →
    Tracks render publisher.entity (seen.filterMap (routed routes publisher.entity)) (state.phase.remaining index)
      publisher state.told

variable {render : Rendering} {config : SubscriptionConfig} {routes : Routes} {seen : List DataChange}
  {state next : LoopState}

/-- A step that no publisher has a part in. -/
theorem InTurn.congr (h : InTurn render routes seen state) (hpublishers : next.publishers = state.publishers)
    (hremaining : ∀ index, next.phase.remaining index = state.phase.remaining index)
    (htold : next.told = state.told) : InTurn render routes seen next where
  separate := by
    rw [hpublishers]
    exact h.separate
  served := by
    rw [hpublishers]
    exact h.served
  tracks := by
    intro index publisher hpublisher
    rw [hpublishers] at hpublisher
    rw [hremaining, htold]
    exact h.tracks index publisher hpublisher

/-- A publisher stays that of its device. -/
theorem entities_set {publishers : List Publisher} {index : Nat} {publisher : Publisher}
    {result : Publisher × List Publish} (hpublisher : publishers[index]? = some publisher)
    (hconfined : Confined publisher result) :
    (publishers.set index result.1).map (·.entity) = publishers.map (·.entity) := by
  rw [List.map_set, hconfined.entity]
  apply List.ext_getElem?
  intro i
  rw [List.getElem?_set]
  split
  · rename_i heq
    subst heq
    have hbound := (List.getElem?_eq_some_iff.mp hpublisher).1
    rw [List.length_map, if_pos hbound, List.getElem?_map, hpublisher]
    rfl
  · rfl

/-- A step of one publisher, which speaks of its own device only. -/
theorem InTurn.own (h : InTurn render routes seen state) {index : Nat} {publisher : Publisher}
    {result : Publisher × List Publish} (hpublisher : state.publishers[index]? = some publisher)
    (hconfined : Confined publisher result) (hpublishers : next.publishers = state.publishers.set index result.1)
    (htold : next.told = state.told ++ result.2)
    (hothers : ∀ i, i ≠ index → next.phase.remaining i = state.phase.remaining i)
    (hown : Tracks render publisher.entity (seen.filterMap (routed routes publisher.entity))
      (next.phase.remaining index) result.1 (state.told ++ result.2)) : InTurn render routes seen next where
  separate := by
    rw [hpublishers, entities_set hpublisher hconfined]
    exact h.separate
  served := by
    rw [hpublishers, entities_set hpublisher hconfined]
    exact h.served
  tracks := by
    intro i other hother
    rw [htold]
    rw [hpublishers] at hother
    by_cases heq : i = index
    · subst heq
      have hbound := (List.getElem?_eq_some_iff.mp hpublisher).1
      rw [List.getElem?_set_self hbound] at hother
      cases hother
      rw [hconfined.entity]
      exact hown
    · rw [List.getElem?_set_ne (Ne.symm heq)] at hother
      rw [hothers i heq]
      apply (h.tracks i other hother).frame
      intro message hmem channel hsame
      obtain ⟨channel', htopic⟩ := hconfined.messages message hmem
      rw [htopic] at hsame
      exact h.separate.topic_ne hpublisher hother (Ne.symm heq) channel' channel hsame

/-- No publisher is at work and no message is in hand. -/
structure LoopPhase.Between (phase : LoopPhase) : Prop where
  remaining : ∀ index, phase.remaining index = []
  inHand : phase.inHand = []

theorem between_selecting : LoopPhase.selecting.Between := ⟨fun _ => rfl, rfl⟩

theorem between_returned : LoopPhase.returned.Between := ⟨fun _ => rfl, rfl⟩

theorem between_flushing (index : Nat) (after : FlushEnd) : (LoopPhase.flushing index [] after).Between :=
  ⟨fun _ => rfl, rfl⟩

theorem between_accepting (index : Nat) (node : ResolvedNode) (data_value : DataValue) :
    (LoopPhase.accepting index node data_value [] []).Between where
  remaining := by
    intro other
    rw [LoopPhase.remaining]
    split <;> rfl
  inHand := rfl

theorem InTurn.setPhase (h : InTurn render routes seen state) (hbefore : state.phase.Between) {phase : LoopPhase}
    (hphase : phase.Between) : InTurn render routes seen { state with phase } := by
  refine h.congr rfl (fun index => ?_) ?_
  · rw [hbefore.remaining, hphase.remaining]
  · rw [LoopState.told, LoopState.told, hbefore.inHand, hphase.inHand]

theorem InTurn.startFlush (h : InTurn render routes seen state) (hbefore : state.phase.Between) (after : FlushEnd) :
    InTurn render routes seen (startFlush state after) := h.setPhase hbefore (between_flushing 0 after)

theorem InTurn.checkPending (h : InTurn render routes seen state) (hbefore : state.phase.Between) :
    InTurn render routes seen (checkPending config state) := by
  unfold gateway.server_task.checkPending
  split
  · exact h.startFlush hbefore _
  · exact h.setPhase hbefore between_selecting

/-- A notification for none of the loop's devices. -/
theorem InTurn.unrouted (h : InTurn render routes seen state) {change : DataChange}
    (hnone : ∀ publisher ∈ state.publishers, routed routes publisher.entity change = none) :
    InTurn render routes (seen ++ [change]) state where
  separate := h.separate
  served := h.served
  tracks := by
    intro index publisher hpublisher
    rw [List.filterMap_append, List.filterMap_cons_none (hnone publisher (List.mem_of_getElem? hpublisher)),
      List.filterMap_nil, List.append_nil]
    exact h.tracks index publisher hpublisher

/-- A notification is the next turn of the publisher of its item's device. -/
theorem InTurn.onNotification (h : InTurn render routes seen state) (hphase : state.phase = .selecting)
    (change : DataChange) : InTurn render routes (seen ++ [change]) (onNotification config routes state change) := by
  have hbefore : state.phase.Between := by
    rw [hphase]
    exact between_selecting
  unfold gateway.server_task.onNotification
  split
  · rename_i hget
    have hunrouted := h.unrouted (fun publisher _ => by rw [routed, hget]; rfl : ∀ publisher ∈ state.publishers,
      routed routes publisher.entity change = none)
    exact hunrouted.checkPending hbefore
  · rename_i target hget
    have hrouted : ∀ entity, routed routes entity change =
        if target.entity = entity then some (target.node, change.value) else none := by
      intro entity
      rw [routed, hget]
      rfl
    split
    · rename_i hnone
      have hunrouted := h.unrouted fun publisher hmem => by
        have hother := List.findIdx?_eq_none_iff.mp hnone publisher hmem
        rw [hrouted, if_neg (Ne.symm (of_decide_eq_false hother))]
      exact hunrouted.checkPending hbefore
    · rename_i own hown
      obtain ⟨hbound, hfound, -⟩ := List.findIdx?_eq_some_iff_getElem.mp hown
      have hpublisher : state.publishers[own]? = some state.publishers[own] := List.getElem?_eq_getElem hbound
      have hentity : state.publishers[own].entity = target.entity := of_decide_eq_true hfound
      refine ⟨h.separate, h.served, fun index publisher hother => ?_⟩
      have htracks := h.tracks index publisher hother
      rw [hbefore.remaining] at htracks
      have htold : LoopState.told { state with
          phase := .accepting own target.node change.value
            (if is_bad change.value then [] else target.node.actions) [] } = state.told := by
        rw [LoopState.told, LoopState.told, hbefore.inHand]
        rfl
      rw [htold, List.filterMap_append, LoopPhase.remaining]
      by_cases heq : own = index
      · subst heq
        obtain rfl := Option.some.inj (hpublisher.symm.trans hother)
        have hvalue : [change].filterMap (routed routes state.publishers[own].entity) = [(target.node, change.value)] := by
          rw [List.filterMap_cons_some (by rw [hrouted, if_pos hentity.symm])]
          rfl
        have hturn := htracks.turn (some (target.node, change.value))
        rw [if_pos rfl, hvalue]
        rw [turnWork, valueWork] at hturn
        split
        · rename_i hbad
          rw [if_pos hbad] at hturn
          exact hturn
        · rename_i hgood
          rw [if_neg hgood] at hturn
          exact hturn
      · have hne : target.entity ≠ publisher.entity := by
          intro hsame
          apply h.separate.topic_ne hpublisher hother heq "" ""
          rw [hentity, hsame]
        rw [if_neg heq, List.filterMap_cons_none (by rw [hrouted, if_neg hne]), List.filterMap_nil, List.append_nil]
        exact htracks

theorem handedIn_handed (message : Publish) (log : List LogEvent) :
    handedIn (.handed message :: log) = handedIn log ++ [message] := List.reverse_cons

theorem handedIn_accepted (series : Option Series) (early : Bool) (log : List LogEvent) :
    handedIn ((series.map fun series => LogEvent.accepted series early).toList ++ log) = handedIn log := by
  cases series <;> rfl

/-- Handing over the first message in hand. -/
theorem InTurn.hand (h : InTurn render routes seen state) {message : Publish} {messages : List Publish}
    (hinHand : state.phase.inHand = message :: messages) {phase : LoopPhase} (hrest : phase.inHand = messages)
    (hremaining : ∀ index, phase.remaining index = state.phase.remaining index) :
    InTurn render routes seen { state with phase, log := .handed message :: state.log } := by
  refine h.congr rfl hremaining ?_
  rw [LoopState.told, LoopState.told, handedIn_handed, hinHand, hrest, List.append_assoc]
  rfl

theorem InTurn.advance (h : InTurn render routes seen state) {now : DateTime}
    (hmove : AdvanceMove render config now state next) : InTurn render routes seen next := by
  cases hmove with
  | handAccepted hphase => exact h.hand (by rw [hphase]; rfl) rfl fun index => by rw [hphase]; rfl
  | checkPending hphase =>
    have hbefore : state.phase.Between := by
      rw [hphase]
      exact between_accepting _ _ _
    exact h.checkPending hbefore
  | @accept index node data_value action actions publisher hphase hpublisher =>
    have hconfined : Confined publisher (publisher.acceptAction render now node data_value action) :=
      acceptAction_confined render now node data_value action
    have htracks := h.tracks index publisher hpublisher
    rw [hphase, LoopPhase.remaining, if_pos rfl, List.map_cons] at htracks
    have hnone : state.phase.inHand = [] := by
      rw [hphase]
      rfl
    refine h.own hpublisher hconfined rfl ?_ (fun i hne => ?_) ?_
    · rw [LoopState.told, LoopState.told, handedIn_accepted, hnone, List.append_nil]
      rfl
    · rw [hphase, LoopPhase.remaining, LoopPhase.remaining, if_neg (Ne.symm hne), if_neg (Ne.symm hne)]
    · rw [LoopPhase.remaining, if_pos rfl]
      exact htracks.perform now
  | handFlushed hphase => exact h.hand (by rw [hphase]; rfl) rfl fun index => by rw [hphase]; rfl
  | @flushNext index after publisher hphase hpublisher =>
    have hconfined : Confined publisher (publisher.flush render now) := flush_confined render now
    have hbefore : state.phase.Between := by
      rw [hphase]
      exact between_flushing index after
    have htracks := h.tracks index publisher hpublisher
    rw [hbefore.remaining] at htracks
    refine h.own hpublisher hconfined rfl ?_ (fun i _ => ?_) (htracks.flush now)
    · rw [LoopState.told, LoopState.told, hbefore.inHand, List.append_nil]
      rfl
    · rw [hbefore.remaining]
      rfl
  | endFlush hphase hend hnext =>
    have hbefore : state.phase.Between := by
      rw [hphase]
      exact between_flushing _ _
    rcases hnext with rfl | rfl
    · exact h.setPhase hbefore between_selecting
    · exact h.setPhase hbefore between_returned

/-- Every step but an abort keeps the publishers at their turns. -/
theorem InTurn.step (h : InTurn render routes seen state) {label : LoopLabel} (hlabel : label ≠ .abort)
    (hstep : loopStep render config routes state label = some next) :
    InTurn render routes (seen ++ label.change.toList) next := by
  cases hchange : label.change with
  | some change =>
    obtain rfl : label = .notified change := by
      cases label with
      | notified other =>
        cases hchange
        rfl
      | _ => cases hchange
    obtain ⟨hphase, rfl⟩ := select_eq_some hstep
    exact h.onNotification hphase change
  | none =>
    rw [Option.toList_none, List.append_nil]
    rcases loopStep_cases hstep with ⟨owner, polled, rfl, -⟩ | ⟨habort, -⟩ | ⟨-, hphase, hselect⟩ | ⟨now, -, hadvance⟩
    · exact h.congr rfl (fun _ => rfl) rfl
    · exact absurd habort hlabel
    · have hbefore : state.phase.Between := by
        rw [hphase]
        exact between_selecting
      rcases hselect with ⟨after, rfl⟩ | ⟨change, rfl, -⟩
      · exact h.startFlush hbefore after
      · cases hchange
    · exact h.advance hadvance

/-- The publishers of a loop that is spawned have taken no turn yet. -/
theorem inTurn_start (h : (subscription_loop render config routes).start state)
    (hseparate : Separate (state.publishers.map (·.entity))) : InTurn render routes [] state where
  separate := hseparate
  served := fun target hmem => (h.2.2.2.1.2.2 target.entity).mpr ⟨target, hmem, rfl⟩
  tracks := by
    obtain ⟨-, -, hphase, ⟨-, hfresh, -⟩, hlog⟩ := h
    intro index publisher hpublisher
    have hnew := hfresh publisher (List.mem_of_getElem? hpublisher)
    have hnone : state.told = [] := by
      rw [LoopState.told, hlog, hphase]
      rfl
    rw [hphase, hnone, hnew]
    exact tracks_new render publisher.entity

end Loop

end gateway.server_task
