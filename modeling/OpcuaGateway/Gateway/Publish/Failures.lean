import OpcuaGateway.Foundation.Ledger
import OpcuaGateway.Foundation.Transition
import OpcuaGateway.Gateway.Publish.Suppression

open ordered_map tedge.topic tedge.mqtt mapping.model mapping.value mapping.payload mapping.resolve ledger

namespace gateway.publish

/-- What a publisher may remember something about. -/
inductive Subject where
  | event (key : NodeType)
  | alarm (key : NodeType)
  deriving DecidableEq

/-- The text of an event, or whether an alarm is active. -/
inductive Content where
  | text (text : String)
  | active (active : Bool)
  deriving DecidableEq

namespace Publisher

/-- Both memories as one. -/
def memory (self : Publisher) : Subject → Option Content
  | .event key => (self.last_event.get key).map .text
  | .alarm key => (self.last_alarm.get key).map .active

/-- The alarms are always remembered, the events only to suppress repeated ones. -/
def keeps (self : Publisher) : Subject → Bool
  | .event _ => self.dedup_events
  | .alarm _ => true

end Publisher

/-- One action of a value being carried out, and whether the client accepts what is
published for it. -/
structure Publishing where
  node : ResolvedNode
  data_value : DataValue
  action : Action
  now : DateTime
  succeeds : Bool

namespace Publishing

variable (render : Rendering) (publisher : Publisher)

/-- What the action has to say about the value. -/
def attempt (self : Publishing) : Option (Attempt Subject Content) :=
  match self.action with
  | .Measurement _ => none
  | .Event creation =>
    creation.type.map fun type =>
      ⟨.event (toLex (self.node.node_id_str, type)), .text (eventText render creation self.data_value), self.succeeds⟩
  | .Alarm creation =>
    creation.type.bind fun type => (self.data_value.value.bind as_bool).map fun active =>
      ⟨.alarm (toLex (self.node.node_id_str, type)), .active active, self.succeeds⟩

/-- The publisher does not see whether it succeeds. -/
def carryOut (self : Publishing) : Publisher × List Publish :=
  publisher.acceptAction render self.now self.node self.data_value self.action

/-- The client is called for this action. -/
def Attempted (self : Publishing) : Prop := (self.carryOut render publisher).2 ≠ []

instance (self : Publishing) : Decidable (self.Attempted render publisher) := by
  unfold Attempted
  infer_instance

/-- It is remembered as the new text or state of its node and type, but the client
refuses it. -/
structure Fails (self : Publishing) : Prop where
  transition : ∃ attempt ∈ self.attempt render, IsTransition publisher.keeps publisher.memory attempt
  refused : self.succeeds = false

end Publishing

/-- A publisher after one action: what it remembers, and whether it has called the client. -/
structure Carried (before : Publisher) (attempt : Option (Attempt Subject Content))
    (result : Publisher × List Publish) : Prop where
  dedup_events : result.1.dedup_events = before.dedup_events
  memory : result.1.memory = attempt.elim before.memory (remember before.keeps before.memory)
  attempted : result.2 ≠ [] ↔ ∃ own ∈ attempt, Sends before.keeps before.memory own

section Carry

variable {publisher : Publisher} (render : Rendering) (now : DateTime) (node : ResolvedNode)
  (data_value : DataValue)

theorem carried_none {next : Publisher} (hdedup : next.dedup_events = publisher.dedup_events)
    (hevents : next.last_event = publisher.last_event) (halarms : next.last_alarm = publisher.last_alarm) :
    Carried publisher none (next, []) where
  dedup_events := hdedup
  memory := by
    funext subject
    cases subject <;> simp [Publisher.memory, hevents, halarms]
  attempted := by simp

/-- Remembering a text under a key. -/
theorem memory_remember_event (key : NodeType) (text : String) (succeeds : Bool) (h : publisher.dedup_events = true) :
    ({ publisher with last_event := publisher.last_event.insert key text } : Publisher).memory =
      remember publisher.keeps publisher.memory ⟨.event key, .text text, succeeds⟩ := by
  have hkept : publisher.keeps (.event key) = true := h
  funext subject
  rw [remember, if_pos hkept, Function.update_apply]
  cases subject with
  | alarm other => simp [Publisher.memory]
  | event other =>
    rw [Publisher.memory, OrderedMap.get_insert]
    by_cases hsame : other = key
    · simp [hsame]
    · simp [hsame, Publisher.memory]

theorem memory_remember_alarm (key : NodeType) (active succeeds : Bool) :
    ({ publisher with last_alarm := publisher.last_alarm.insert key active } : Publisher).memory =
      remember publisher.keeps publisher.memory ⟨.alarm key, .active active, succeeds⟩ := by
  have hkept : publisher.keeps (.alarm key) = true := rfl
  funext subject
  rw [remember, if_pos hkept, Function.update_apply]
  cases subject with
  | event other => simp [Publisher.memory]
  | alarm other =>
    rw [Publisher.memory, OrderedMap.get_insert]
    by_cases hsame : other = key
    · simp [hsame]
    · simp [hsame, Publisher.memory]

variable {own : Attempt Subject Content} {message : Publish}

theorem carried_repeat (hkept : publisher.keeps own.key = true) (hsame : publisher.memory own.key = some own.value) :
    Carried publisher (some own) (publisher, []) := by
  have hskip : ¬ Sends publisher.keeps publisher.memory own := fun hsends => hsends hkept hsame
  refine ⟨rfl, ?_, ?_⟩
  · rw [Option.elim_some, remember_of_not_sends hskip]
  · simp [hskip]

theorem carried_new {next : Publisher} (hdedup : next.dedup_events = publisher.dedup_events)
    (hmemory : next.memory = remember publisher.keeps publisher.memory own)
    (hnew : publisher.memory own.key ≠ some own.value) : Carried publisher (some own) (next, [message]) := by
  have hsends : Sends publisher.keeps publisher.memory own := fun _ => hnew
  refine ⟨hdedup, hmemory, ?_⟩
  simp [hsends]

theorem carried_unkept (hkeeps : publisher.keeps own.key = false) :
    Carried publisher (some own) (publisher, [message]) := by
  refine ⟨rfl, ?_, ?_⟩
  · rw [Option.elim_some, remember_of_unkept hkeeps]
  · simp [sends_of_unkept hkeeps]

theorem acceptEvent_carried (creation : EventCreation) (succeeds : Bool) :
    Carried publisher (Publishing.attempt render ⟨node, data_value, .Event creation, now, succeeds⟩)
      (publisher.acceptEvent render now creation node data_value) := by
  have hattempt : Publishing.attempt render ⟨node, data_value, .Event creation, now, succeeds⟩ =
      creation.type.map fun type =>
        ⟨.event (toLex (node.node_id_str, type)), .text (eventText render creation data_value), succeeds⟩ := rfl
  rw [hattempt]
  cases htype : creation.type with
  | none =>
    have hsame : publisher.acceptEvent render now creation node data_value = (publisher, []) := by
      rw [Publisher.acceptEvent, htype]
    rw [hsame]
    exact carried_none rfl rfl rfl
  | some own =>
    rw [Option.map_some]
    cases hdedup : publisher.dedup_events with
    | false =>
      have hsame : publisher.acceptEvent render now creation node data_value =
          (publisher, [TedgeMqtt.publish_event publisher.entity own
            (event render now creation node.node_id_str data_value)]) := by
        rw [Publisher.acceptEvent, htype]
        simp [hdedup]
      rw [hsame]
      exact carried_unkept hdedup
    | true =>
      rw [acceptEvent_eq render node data_value now hdedup htype]
      split
      · rename_i hremembered
        refine carried_repeat hdedup ?_
        rw [Publisher.memory]
        exact congrArg (Option.map Content.text) hremembered
      · rename_i hchange
        refine carried_new rfl (memory_remember_event _ _ succeeds hdedup) fun hsame => hchange ?_
        obtain ⟨text, htext, hcontent⟩ := Option.map_eq_some_iff.mp hsame
        cases hcontent
        exact htext

theorem acceptAlarm_carried (creation : AlarmCreation) (succeeds : Bool) :
    Carried publisher (Publishing.attempt render ⟨node, data_value, .Alarm creation, now, succeeds⟩)
      (publisher.acceptAlarm render now creation node data_value) := by
  have hattempt : Publishing.attempt render ⟨node, data_value, .Alarm creation, now, succeeds⟩ =
      creation.type.bind fun type => (data_value.value.bind as_bool).map fun active =>
        ⟨.alarm (toLex (node.node_id_str, type)), .active active, succeeds⟩ := rfl
  rw [hattempt, Publisher.acceptAlarm]
  cases htype : creation.type with
  | none => exact carried_none rfl rfl rfl
  | some own =>
    rw [Option.bind_some]
    cases hactive : data_value.value.bind as_bool with
    | none => exact carried_none rfl rfl rfl
    | some active =>
      rw [Option.map_some]
      dsimp only
      split
      · rename_i hremembered
        refine carried_repeat rfl ?_
        exact congrArg (Option.map Content.active) hremembered
      · rename_i hchange
        refine carried_new rfl (memory_remember_alarm _ active succeeds) fun hsame => hchange ?_
        obtain ⟨state, hstate, hcontent⟩ := Option.map_eq_some_iff.mp hsame
        cases hcontent
        exact hstate

end Carry

/-- What an action makes of a publisher is what an attempt makes of a memory. -/
theorem carryOut_carried (render : Rendering) (publisher : Publisher) (publishing : Publishing) :
    Carried publisher (publishing.attempt render) (publishing.carryOut render publisher) := by
  obtain ⟨node, data_value, action, now, succeeds⟩ := publishing
  cases action with
  | Measurement creation =>
    change Carried publisher none (publisher.acceptMeasurement render now creation node data_value, [])
    unfold Publisher.acceptMeasurement
    split
    · exact carried_none rfl rfl rfl
    · exact carried_none rfl rfl rfl
  | Event creation => exact acceptEvent_carried render now node data_value creation succeeds
  | Alarm creation => exact acceptAlarm_carried render now node data_value creation succeeds

namespace Publishing

variable {render : Rendering} {publisher : Publisher} (self : Publishing) {own : Attempt Subject Content}

theorem succeeds_of_attempt (h : self.attempt render = some own) : own.succeeds = self.succeeds := by
  obtain ⟨node, data_value, action, now, succeeds⟩ := self
  cases action with
  | Measurement creation => cases h
  | Event creation =>
    obtain ⟨type, -, rfl⟩ := Option.map_eq_some_iff.mp h
    rfl
  | Alarm creation =>
    obtain ⟨type, -, h⟩ := Option.bind_eq_some_iff.mp h
    obtain ⟨active, -, rfl⟩ := Option.map_eq_some_iff.mp h
    rfl

theorem attempted_iff (h : self.attempt render = some own) :
    self.Attempted render publisher ↔ Sends publisher.keeps publisher.memory own := by
  rw [Attempted, (carryOut_carried render publisher self).attempted, h]
  simp

theorem fails_iff (h : self.attempt render = some own) :
    self.Fails render publisher ↔ IsTransition publisher.keeps publisher.memory own ∧ self.succeeds = false := by
  constructor
  · rintro ⟨⟨other, hother, htransition⟩, hrefused⟩
    rw [h] at hother
    cases hother
    exact ⟨htransition, hrefused⟩
  · exact fun hboth => ⟨⟨own, h, hboth.1⟩, hboth.2⟩

theorem not_fails_of_none (h : self.attempt render = none) : ¬ self.Fails render publisher := by
  rintro ⟨⟨own, hown, -⟩, -⟩
  rw [h] at hown
  cases hown

end Publishing

/-- What a publisher does at a time. -/
inductive Step where
  | action (publishing : Publishing)
  | flush (now : DateTime)

def Publisher.advance (render : Rendering) (publisher : Publisher) : Step → Publisher
  | .action publishing => (publishing.carryOut render publisher).1
  | .flush now => (publisher.flush render now).1

namespace Step

/-- The step has nothing to say under the key of this publishing. -/
def Spares (render : Rendering) (publishing : Publishing) : Step → Prop
  | .action other => ∀ own ∈ publishing.attempt render, ∀ theirs ∈ other.attempt render, theirs.key ≠ own.key
  | .flush _ => True

def Fails (render : Rendering) (publisher : Publisher) : Step → Prop
  | .action publishing => publishing.Fails render publisher
  | .flush _ => False

end Step

/-- If it fails, the memory is left as it was, and the same value is published when it
is delivered again, whatever is published under other keys in between. -/
def LeavesPending (render : Rendering) (publisher : Publisher) (publishing : Publishing) : Prop :=
  publishing.Attempted render publisher → publishing.succeeds = false →
    (publishing.carryOut render publisher).1.memory = publisher.memory ∧
      ∀ (between : List Step) (now : DateTime) (succeeds : Bool),
        (∀ taken ∈ between, taken.Spares render publishing) →
          Publishing.Attempted render
            (between.foldl (Publisher.advance render) (publishing.carryOut render publisher).1)
            { publishing with now, succeeds }

section Pending

variable {render : Rendering} {publisher : Publisher}

theorem keeps_congr {next : Publisher} (h : next.dedup_events = publisher.dedup_events) :
    next.keeps = publisher.keeps := by
  funext subject
  cases subject with
  | event key => exact h
  | alarm key => rfl

theorem dedup_events_advance (step : Step) :
    (publisher.advance render step).dedup_events = publisher.dedup_events := by
  cases step with
  | action publishing => exact (carryOut_carried render publisher publishing).dedup_events
  | flush now => rfl

theorem dedup_events_foldl_advance (steps : List Step) :
    (steps.foldl (Publisher.advance render) publisher).dedup_events = publisher.dedup_events := by
  induction steps generalizing publisher with
  | nil => rfl
  | cons step rest ih => exact ih.trans (dedup_events_advance step)

/-- A value that is delivered again has the same to say. -/
theorem attempt_again (publishing : Publishing) (now : DateTime) (succeeds : Bool) :
    Publishing.attempt render { publishing with now, succeeds } =
      (publishing.attempt render).map fun own => { own with succeeds } := by
  obtain ⟨node, data_value, action, _, _⟩ := publishing
  cases action with
  | Measurement creation => rfl
  | Event creation =>
    simp only [Publishing.attempt, Option.map_map]
    rfl
  | Alarm creation =>
    simp only [Publishing.attempt]
    cases creation.type with
    | none => rfl
    | some type => cases data_value.value.bind as_bool <;> rfl

/-- A failure leaves the value pending exactly where it is not taken for the new text
or state. -/
theorem leavesPending_iff (publishing : Publishing) :
    LeavesPending render publisher publishing ↔ ¬ publishing.Fails render publisher := by
  have hcarried := carryOut_carried render publisher publishing
  have hmemory := hcarried.memory
  constructor
  · rintro hpending ⟨⟨own, hown, htransition⟩, hrefused⟩
    have hattempted : publishing.Attempted render publisher :=
      hcarried.attempted.mpr ⟨own, hown, htransition.sends⟩
    have hkept := (hpending hattempted hrefused).1
    rw [hmemory, Option.mem_def.mp hown, Option.elim_some] at hkept
    exact remember_eq_iff.mp hkept htransition
  · intro hnot hattempted hrefused
    obtain ⟨own, hown, hsends⟩ := hcarried.attempted.mp hattempted
    have hunkept : publisher.keeps own.key = false :=
      hsends.unkept fun htransition => hnot ⟨⟨own, hown, htransition⟩, hrefused⟩
    refine ⟨?_, fun between now succeeds _ => ?_⟩
    · rw [hmemory, Option.mem_def.mp hown, Option.elim_some, remember_of_unkept hunkept]
    · have hkeeps : (between.foldl (Publisher.advance render) (publishing.carryOut render publisher).1).keeps =
          publisher.keeps :=
        keeps_congr ((dedup_events_foldl_advance between).trans hcarried.dedup_events)
      refine (carryOut_carried render _ _).attempted.mpr ⟨{ own with succeeds }, ?_, ?_⟩
      · rw [attempt_again, Option.mem_def.mp hown]
        rfl
      · rw [hkeeps]
        exact sends_of_unkept hunkept

end Pending

/-- A publisher next to what the client has accepted last under every key. -/
structure Tracked where
  publisher : Publisher
  published : Subject → Option Content

namespace Tracked

def new (entity : EntityTopicId) (dedup_events : Bool) : Tracked := ⟨.new entity dedup_events, fun _ => none⟩

def step (render : Rendering) (self : Tracked) : Step → Tracked
  | .action publishing =>
    { publisher := (publishing.carryOut render self.publisher).1
      published :=
        if publishing.Attempted render self.publisher ∧ publishing.succeeds = true then
          (publishing.attempt render).elim self.published (record self.published)
        else self.published }
  | .flush now => { self with publisher := (self.publisher.flush render now).1 }

/-- What is remembered is what has been published last. -/
def InSync (self : Tracked) : Prop := ledger.InSync self.publisher.keeps self.publisher.memory self.published

theorem inSync_new (entity : EntityTopicId) (dedup_events : Bool) : (new entity dedup_events).InSync := by
  intro subject _
  cases subject <;> rfl

variable {render : Rendering} {self : Tracked}

/-- A step keeps the memory right exactly if it does not fail. -/
theorem inSync_step_iff (h : self.InSync) (taken : Step) :
    (self.step render taken).InSync ↔ ¬ taken.Fails render self.publisher := by
  cases taken with
  | flush now => exact iff_of_true h not_false
  | action publishing =>
    have hcarried := carryOut_carried render self.publisher publishing
    have hafter : (self.step render (.action publishing)).InSync ↔
        ledger.InSync self.publisher.keeps
          ((publishing.attempt render).elim self.publisher.memory
            (remember self.publisher.keeps self.publisher.memory))
          (self.step render (.action publishing)).published := by
      rw [← hcarried.memory, ← keeps_congr hcarried.dedup_events]
      rfl
    rw [hafter, Tracked.step]
    change _ ↔ ¬ publishing.Fails render self.publisher
    cases hattempt : publishing.attempt render with
    | none =>
      simp only [Option.elim_none, ite_self]
      exact iff_of_true h (publishing.not_fails_of_none hattempt)
    | some own =>
      have hsucceeds := publishing.succeeds_of_attempt hattempt
      simp only [Option.elim_some]
      rw [publishing.fails_iff hattempt, ← hsucceeds]
      apply ledger.InSync.step_iff h
      rw [publishing.attempted_iff hattempt]

theorem publisher_foldl_step (steps : List Step) :
    (steps.foldl (step render) self).publisher = steps.foldl (Publisher.advance render) self.publisher := by
  induction steps generalizing self with
  | nil => rfl
  | cons first rest ih =>
    have hfirst : (self.step render first).publisher = self.publisher.advance render first := by
      cases first <;> rfl
    rw [List.foldl_cons, List.foldl_cons, ih, hfirst]

end Tracked

/-- A call of a publisher, and whether the client accepts what is published for the
action of each index. -/
structure Delivery where
  call : Call
  succeeds : Nat → Bool

def Delivery.steps : Delivery → List Step
  | ⟨.flush now, _⟩ => [.flush now]
  | ⟨.accept reading, succeeds⟩ =>
    if is_bad reading.data_value then []
    else
      reading.node.actions.mapIdx fun j action =>
        .action ⟨reading.node, reading.data_value, action, reading.clock j, succeeds j⟩

section Deliveries

variable (render : Rendering)

theorem foldl_advance_actions (node : ResolvedNode) (data_value : DataValue) (publisher : Publisher)
    (actions : List Action) (clock : Nat → DateTime) (succeeds : Nat → Bool) :
    (actions.mapIdx fun j action => Step.action ⟨node, data_value, action, clock j, succeeds j⟩).foldl
        (Publisher.advance render) publisher =
      (Publisher.acceptActions render node data_value publisher actions clock).1 := by
  induction actions generalizing publisher clock succeeds with
  | nil => rfl
  | cons action rest ih =>
    rw [List.mapIdx_cons, List.foldl_cons]
    exact ih _ (fun i => clock (i + 1)) fun i => succeeds (i + 1)

/-- The steps of a delivery come to the call. -/
theorem foldl_advance_steps (publisher : Publisher) (delivery : Delivery) :
    delivery.steps.foldl (Publisher.advance render) publisher = (publisher.handle render delivery.call).1 := by
  obtain ⟨call, succeeds⟩ := delivery
  cases call with
  | flush now => rfl
  | accept reading =>
    rw [Delivery.steps, Publisher.handle, Publisher.accept]
    split
    · rfl
    · exact foldl_advance_actions render _ _ publisher _ _ _

theorem foldl_advance_deliveries (publisher : Publisher) (deliveries : List Delivery) :
    (deliveries.flatMap Delivery.steps).foldl (Publisher.advance render) publisher =
      publisher.handleAll render (deliveries.map Delivery.call) := by
  induction deliveries generalizing publisher with
  | nil => rfl
  | cons first rest ih =>
    rw [List.flatMap_cons, List.foldl_append, foldl_advance_steps, ih]
    rfl

end Deliveries

/-- In any state a refused value stays pending, and along any run the memory is what
has been published last, exactly while no value is refused that is taken for the new
text or state under its key. -/
theorem failed_publish_pending_iff (render : Rendering) :
    (∀ (publisher : Publisher) (publishing : Publishing),
      LeavesPending render publisher publishing ↔ ¬ publishing.Fails render publisher) ∧
    ∀ (entity : EntityTopicId) (dedup_events : Bool) (deliveries : List Delivery),
      ((deliveries.flatMap Delivery.steps).foldl (Tracked.step render) (.new entity dedup_events)).publisher =
        (Publisher.new entity dedup_events).handleAll render (deliveries.map Delivery.call) ∧
      ((∀ seen, seen <+: deliveries.flatMap Delivery.steps →
          (seen.foldl (Tracked.step render) (.new entity dedup_events)).InSync) ↔
        ∀ seen taken, seen ++ [taken] <+: deliveries.flatMap Delivery.steps →
          ¬ taken.Fails render (seen.foldl (Publisher.advance render) (.new entity dedup_events))) := by
  refine ⟨fun publisher => leavesPending_iff, fun entity dedup_events deliveries => ⟨?_, ?_⟩⟩
  · rw [Tracked.publisher_foldl_step]
    exact foldl_advance_deliveries render _ deliveries
  · have hstep : ∀ (self : Tracked) (taken : Step), self.InSync →
        ((self.step render taken).InSync ↔ ¬ taken.Fails render self.publisher) :=
      fun self taken h => Tracked.inSync_step_iff h taken
    have hrun := transition.foldl_inv_iff hstep (Tracked.inSync_new entity dedup_events)
      (deliveries.flatMap Delivery.steps)
    simp only [Tracked.publisher_foldl_step] at hrun
    exact hrun

section Sample

/-- An alarm that becomes active. Its type holds a wildcard, and the client refuses
to publish on such a topic. -/
def refusedRaise : Publishing where
  node := { alarmNode "ns=2;s=a" with actions := [.Alarm ⟨some "level#", none, none, none⟩] }
  data_value := goodValue (.Boolean true)
  action := .Alarm ⟨some "level#", none, none, none⟩
  now := 0
  succeeds := false

/-- An alarm that could not be raised is not raised when the same value comes again. -/
theorem refused_raise_forgotten :
    ¬ ∀ (render : Rendering) (publisher : Publisher) (publishing : Publishing),
      LeavesPending render publisher publishing := by
  intro hall
  have hpending := hall plainRendering (.new (.child_device "pump") false) refusedRaise (by decide) rfl
  have hagain := hpending.2 [] 1 true fun step hmem => absurd hmem List.not_mem_nil
  exact absurd hagain (by decide)

end Sample

end gateway.publish
