import OpcuaGateway.Tedge.EventLoop

open tedge.mqtt transition

namespace tedge.event_loop

variable {config : MqttConfig} {incomingCapacity : Nat} {subscriptions : List String}
  {initial : List Publish}

/-- What a step can do to the position of the event loop and to the request
queue. Only the loop's own polling takes requests out. -/
inductive QueueMove (config : MqttConfig) (subscriptions : List String) (s next : State) :
    Label → Prop
  | startup (request : Request) (hroom : hasRoom config s) (hphase : next.phase = s.phase)
      (hqueue : next.queue = s.queue ++ [request]) : QueueMove config subscriptions s next .startup
  | publish (call : Call) (request : Request) (hroom : hasRoom config s)
      (hphase : next.phase = s.phase) (hqueue : next.queue = s.queue ++ [request]) :
      QueueMove config subscriptions s next (.publish call)
  | connAck (hpolling : s.phase = .polling) (hphase : next.phase = afterSubscribe subscriptions)
      (hqueue : next.queue = s.queue) : QueueMove config subscriptions s next .connAck
  | subscribe (topic : String) (rest : List String) (hsource : s.phase = .subscribing (topic :: rest))
      (hroom : hasRoom config s) (hphase : next.phase = afterSubscribe rest)
      (hqueue : next.queue = s.queue ++ [.subscribe topic]) :
      QueueMove config subscriptions s next .subscribe
  | keep (l : Label) (hphase : next.phase = s.phase) (hqueue : next.queue = s.queue) :
      QueueMove config subscriptions s next l
  | poll (l : Label) (hidle : s.phase = .polling ∨ s.phase = .sleeping)
      (hphase : next.phase = .polling ∨ next.phase = .sleeping ∨ next.phase = .stopped)
      (hqueue : next.queue.length ≤ s.queue.length) : QueueMove config subscriptions s next l

theorem step_queueMove {s next : State} {l : Label}
    (hstep : step config incomingCapacity subscriptions s l = some next) :
    QueueMove config subscriptions s next l := by
  cases steps_of_step hstep with
  | startup _ hroom => exact .startup _ hroom rfl rfl
  | publish call _ hroom => exact .publish call _ hroom rfl rfl
  | connAck hpolling _ => exact .connAck hpolling rfl rfl
  | subscribe hphase hroom => exact .subscribe _ _ hphase hroom rfl rfl
  | resend => exact .keep _ (transmit_phase _ _) (transmit_queue _ _)
  | send _ hqueue hpolling _ =>
    refine .poll _ (Or.inl hpolling) (Or.inl ?_) ?_
    · rw [transmit_phase, hpolling]
    · rw [transmit_queue, hqueue]
      simp
  | receive => exact .keep _ rfl rfl
  | ack => exact .keep _ rfl rfl
  | incomingPublish message => exact .keep _ rfl rfl
  | handle => exact .keep _ rfl rfl
  | otherEvent => exact .keep _ rfl rfl
  | lost drained hpolling _ => exact .poll _ (Or.inl hpolling) (Or.inr (Or.inl rfl)) (by simp)
  | connectFailed hpolling _ => exact .poll _ (Or.inl hpolling) (Or.inr (Or.inl rfl)) le_rfl
  | wake hsleeping => exact .poll _ (Or.inr hsleeping) (Or.inl rfl) le_rfl
  | cancel hidle => exact .poll _ hidle (Or.inr (Or.inr rfl)) le_rfl

theorem afterSubscribe_eq_subscribing {rest rest' : List String}
    (h : afterSubscribe rest = .subscribing rest') : rest' = rest := by
  unfold afterSubscribe at h
  split at h
  · cases h
  · cases h
    rfl

/-- The event-loop task itself waits for a free slot of the queue that only its
own polling drains. -/
def LoopWaits (config : MqttConfig) (s : State) : Prop :=
  ∃ topic rest, s.phase = .subscribing (topic :: rest) ∧ ¬ hasRoom config s

/-- No task makes progress on a queue whose consumer waits for a slot of it: after
any step the event loop still waits and the queue is unchanged. -/
theorem LoopWaits.step {s next : State} {l : Label} (hwaits : LoopWaits config s)
    (hstep : step config incomingCapacity subscriptions s l = some next) :
    LoopWaits config next ∧ next.queue = s.queue := by
  obtain ⟨topic, rest, hphase, hfull⟩ := hwaits
  cases step_queueMove hstep with
  | startup _ hroom => exact absurd hroom hfull
  | publish _ _ hroom => exact absurd hroom hfull
  | connAck hpolling =>
    rw [hphase] at hpolling
    cases hpolling
  | subscribe _ _ _ hroom => exact absurd hroom hfull
  | keep _ hsame hqueue => exact ⟨⟨topic, rest, hsame.trans hphase, by rwa [hasRoom, hqueue]⟩, hqueue⟩
  | poll _ hidle =>
    rw [hphase] at hidle
    rcases hidle with h | h <;> cases h

/-- Once the event loop waits for its own queue it does so in every later state,
a cancellation included, and no queued request is ever delivered. -/
theorem LoopWaits.forever {s final : State} {ls : List Label} (hwaits : LoopWaits config s)
    (hrun : (machine config incomingCapacity subscriptions initial).exec s ls = some final) :
    LoopWaits config final ∧ final.queue = s.queue := by
  refine Machine.exec_preserves (fun t => LoopWaits config t ∧ t.queue = s.queue) ?_
    ⟨hwaits, rfl⟩ hrun
  intro t l next ⟨ht, hqueue⟩ hstep
  obtain ⟨hnext, hsame⟩ := ht.step hstep
  exact ⟨hnext, hsame.trans hqueue⟩

/-- Publishing tasks can fill the queue completely while the broker is away. -/
theorem exists_full_queue {m : Machine State Label}
    (hm : m = machine config incomingCapacity subscriptions initial) (free : Nat) {s : State}
    (hreach : m.Reachable s) (hpolling : s.phase = .polling) (haway : s.connected = false)
    (hfree : s.queue.length + free = config.capacity) :
    ∃ full, m.Reachable full ∧ full.phase = .polling ∧ full.connected = false ∧
      full.queue.length = config.capacity := by
  induction free generalizing s with
  | zero => exact ⟨s, hreach, hpolling, haway, by simpa using hfree⟩
  | succ free ih =>
    have hroom : hasRoom config s := by
      unfold hasRoom
      omega
    cases hstartup : s.startup with
    | cons message rest =>
      have hstep : m.step s .startup =
          some { s with startup := rest, queue := s.queue ++ [.publish message] } := by
        subst hm
        simp only [machine, step, hstartup]
        exact if_pos hroom
      refine ih (Machine.ReachableUnder.step hreach trivial hstep) hpolling haway ?_
      simp only [List.length_append, List.length_singleton]
      omega
    | nil =>
      have hstep : m.step s (.publish (.publish_smartrest "" "")) =
          some { s with queue := s.queue ++ [.publish (TedgeMqtt.publish_smartrest "" "")] } := by
        subst hm
        exact if_pos ⟨hstartup, hroom⟩
      refine ih (Machine.ReachableUnder.step hreach trivial hstep) hpolling haway ?_
      simp only [List.length_append, List.length_singleton]
      omega

/-- A reconnect finds room in the queue for every topic to subscribe, and no other
task takes that room before they are queued. -/
def RoomForSubscriptions (config : MqttConfig) (subscriptions : List String) (s : State) :
    Label → Prop
  | .connAck => s.queue.length + subscriptions.length ≤ config.capacity
  | .startup | .publish _ =>
    ∀ rest, s.phase = .subscribing rest → s.queue.length + rest.length < config.capacity
  | _ => True

/-- The topics the event loop still has to subscribe fit into the queue. -/
def SubscriptionsFit (config : MqttConfig) (s : State) : Prop :=
  ∀ rest, s.phase = .subscribing rest → s.queue.length + rest.length ≤ config.capacity

theorem SubscriptionsFit.step {s next : State} {l : Label} (hfit : SubscriptionsFit config s)
    (hguard : RoomForSubscriptions config subscriptions s l)
    (hstep : step config incomingCapacity subscriptions s l = some next) :
    SubscriptionsFit config next := by
  intro rest hrest
  cases step_queueMove hstep with
  | startup _ _ hphase hqueue =>
    have := hguard rest (hphase.symm.trans hrest)
    rw [hqueue, List.length_append, List.length_singleton]
    omega
  | publish _ _ _ hphase hqueue =>
    have := hguard rest (hphase.symm.trans hrest)
    rw [hqueue, List.length_append, List.length_singleton]
    omega
  | connAck _ hphase hqueue =>
    rw [afterSubscribe_eq_subscribing (hphase.symm.trans hrest), hqueue]
    exact hguard
  | subscribe topic more hsource _ hphase hqueue =>
    have := hfit _ hsource
    rw [afterSubscribe_eq_subscribing (hphase.symm.trans hrest), hqueue, List.length_append,
      List.length_singleton]
    rw [List.length_cons] at this
    omega
  | keep _ hphase hqueue =>
    rw [hqueue]
    exact hfit rest (hphase.symm.trans hrest)
  | poll _ _ hphase =>
    rw [hrest] at hphase
    rcases hphase with h | h | h <;> cases h

/-- While every reconnect finds room for its subscriptions, the event loop never
waits for its own queue. -/
theorem not_loopWaits_of_room {s : State}
    (h : (machine config incomingCapacity subscriptions initial).ReachableUnder
      (RoomForSubscriptions config subscriptions) s) : ¬ LoopWaits config s := by
  have hfit : SubscriptionsFit config s := by
    refine h.invariant (SubscriptionsFit config) (fun t ht rest hrest => ?_) (fun t l next ht hg hs => ht.step hg hs)
    rw [ht.phase] at hrest
    cases hrest
  rintro ⟨topic, rest, hphase, hfull⟩
  have := hfit _ hphase
  rw [List.length_cons] at this
  exact hfull (by unfold hasRoom; omega)

/-- Without topics to subscribe the event loop never queues requests of its own. -/
theorem not_subscribing {s : State}
    (h : (machine config incomingCapacity [] initial).Reachable s) :
    ∀ rest, s.phase ≠ .subscribing rest := by
  refine h.invariant (fun t => ∀ rest, t.phase ≠ .subscribing rest) ?_ ?_
  · intro t ht rest hrest
    rw [ht.phase] at hrest
    cases hrest
  · intro t l next ht _ hstep rest hrest
    cases step_queueMove hstep with
    | startup _ _ hphase => exact ht rest (hphase.symm.trans hrest)
    | publish _ _ _ hphase => exact ht rest (hphase.symm.trans hrest)
    | connAck _ hphase => cases hphase.symm.trans hrest
    | subscribe _ _ hsource => exact ht _ hsource
    | keep _ hphase => exact ht rest (hphase.symm.trans hrest)
    | poll _ _ hphase =>
      rw [hrest] at hphase
      rcases hphase with h | h | h <;> cases h

/-- The event loop is free of the self-deadlock in every run, whatever the
capacity of the queue and the publishes of the other tasks, exactly when it has no
topic to subscribe. With topics to subscribe it is free of it in the runs in which
every reconnect finds room for them. -/
theorem run_event_loop_never_waits_iff (config : MqttConfig) (incomingCapacity : Nat)
    (subscriptions : List String) (initial : List Publish) :
    ((∀ s, (machine config incomingCapacity subscriptions initial).Reachable s →
        ¬ LoopWaits config s) ↔ subscriptions = []) ∧
      ∀ s, (machine config incomingCapacity subscriptions initial).ReachableUnder
        (RoomForSubscriptions config subscriptions) s → ¬ LoopWaits config s := by
  refine ⟨⟨fun hfree => ?_, ?_⟩, fun s => not_loopWaits_of_room⟩
  · cases subscriptions with
    | nil => rfl
    | cons topic rest =>
      exfalso
      let first : State := ⟨.polling, false, initial, [], [], [], [], fun _ => none⟩
      have hfirst : (machine config incomingCapacity (topic :: rest) initial).Reachable first :=
        .start ⟨rfl, rfl, rfl, rfl, rfl, rfl, rfl⟩
      obtain ⟨full, hreach, hpolling, haway, hfull⟩ :=
        exists_full_queue rfl config.capacity hfirst rfl rfl (Nat.zero_add _)
      have hconnected : (machine config incomingCapacity (topic :: rest) initial).step full .connAck =
          some { full with connected := true, phase := afterSubscribe (topic :: rest) } :=
        if_pos ⟨hpolling, haway⟩
      refine hfree _ (Machine.ReachableUnder.step hreach trivial hconnected) ⟨topic, rest, rfl, ?_⟩
      simp [hasRoom, hfull]
  · rintro rfl s hreach ⟨topic, rest, hphase, -⟩
    exact not_subscribing hreach _ hphase

/-- A queue of one slot. -/
def singleSlot : MqttConfig := ⟨"127.0.0.1", 1883, "c8y-opcua-gateway", 1, 60, "opcua-gateway"⟩

/-- The service registration takes the only slot before the first connection, so
the event loop waits for it in its subscription. -/
theorem run_event_loop_waits_on_single_slot :
    ¬ ∀ s, (machine singleSlot 64 [C8Y_OPERATION_TOPIC]
        [(TedgeMqtt.new singleSlot).register_service]).Reachable s → ¬ LoopWaits singleSlot s := by
  intro hfree
  let registration := (TedgeMqtt.new singleSlot).register_service
  let final : State := ⟨.subscribing [C8Y_OPERATION_TOPIC], true, [], [.publish registration], [], [], [],
    fun _ => none⟩
  let first : State := ⟨.polling, false, [registration], [], [], [], [], fun _ => none⟩
  have hfirst : (machine singleSlot 64 [C8Y_OPERATION_TOPIC] [registration]).Reachable first :=
    .start ⟨rfl, rfl, rfl, rfl, rfl, rfl, rfl⟩
  have hrun : (machine singleSlot 64 [C8Y_OPERATION_TOPIC] [registration]).exec first
      [.startup, .connAck] = some final := rfl
  have hreach : (machine singleSlot 64 [C8Y_OPERATION_TOPIC] [registration]).Reachable final :=
    hfirst.exec hrun
  exact hfree final hreach ⟨C8Y_OPERATION_TOPIC, [], rfl, by decide⟩

end tedge.event_loop
