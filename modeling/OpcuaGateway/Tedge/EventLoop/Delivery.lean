import OpcuaGateway.Tedge.EventLoop

open tedge.topic tedge.mqtt transition

namespace tedge.event_loop

variable {config : MqttConfig} {incomingCapacity : Nat} {subscriptions : List String}

/-- The broker has still to process this message. -/
def ToBeProcessed (s : State) (message : Publish) : Prop :=
  message ∈ s.startup ∨ .publish message ∈ s.queue ∨ .publish message ∈ s.pending ∨
    (message, false) ∈ s.unacked

/-- The message has been or will be queued and its acknowledgement is missing. -/
def Outstanding (s : State) (message : Publish) : Prop :=
  message ∈ s.startup ∨ .publish message ∈ s.queue ∨ .publish message ∈ s.pending ∨
    ∃ processed, (message, processed) ∈ s.unacked

theorem ToBeProcessed.outstanding {s : State} {message : Publish} (h : ToBeProcessed s message) :
    Outstanding s message := by
  rcases h with h | h | h | h
  · exact Or.inl h
  · exact Or.inr (Or.inl h)
  · exact Or.inr (Or.inr (Or.inl h))
  · exact Or.inr (Or.inr (Or.inr ⟨_, h⟩))

/-- The broker takes the oldest message it has not processed and marks it. -/
theorem receiveNext_eq_some {retained retained' : String → Option Payload}
    {unacked unacked' : List (Publish × Bool)}
    (h : receiveNext retained unacked = some (unacked', retained')) :
    ∃ before message after, unacked = before ++ (message, false) :: after ∧
      (∀ sent ∈ before, sent.2 = true) ∧ unacked' = before ++ (message, true) :: after ∧
      retained' = store retained message := by
  induction unacked generalizing unacked' with
  | nil => cases h
  | cons sent rest ih =>
    obtain ⟨message, processed⟩ := sent
    cases processed with
    | false =>
      cases h
      exact ⟨[], message, rest, rfl, by simp, rfl, rfl⟩
    | true =>
      obtain ⟨⟨rest', retained₁⟩, hrest, heq⟩ := Option.map_eq_some_iff.mp h
      cases heq
      obtain ⟨before, next, after, hsplit, hall, hmarked, hstore⟩ := ih hrest
      refine ⟨(message, true) :: before, next, after, by simp [hsplit], ?_, by simp [hmarked], hstore⟩
      intro sent hsent
      rcases List.mem_cons.mp hsent with rfl | hsent
      · rfl
      · exact hall sent hsent

/-- What a step can do to the messages on their way to the broker and to what the
broker retains: messages only move on or are newly published, the broker processes
one of them, or the connection ends and the will takes effect. -/
inductive DeliveryMove (config : MqttConfig) (s next : State) : Label → Prop
  | move (l : Label) (hlabel : ∀ drained, l ≠ .lost drained)
      (hnew : ∀ p, Outstanding next p → Outstanding s p ∨ ∃ call : Call, p = call.message)
      (hkept : ∀ p, ToBeProcessed s p → ToBeProcessed next p)
      (hretained : next.retained = s.retained) : DeliveryMove config s next l
  | receive (message : Publish) (hsent : (message, false) ∈ s.unacked)
      (hnew : ∀ p, Outstanding next p → Outstanding s p)
      (hkept : ∀ p, ToBeProcessed s p → p = message ∨ ToBeProcessed next p)
      (hretained : next.retained = store s.retained message) : DeliveryMove config s next .receive
  | lost (drained : Nat) (hnew : ∀ p, Outstanding next p → Outstanding s p)
      (hkept : ∀ p, Outstanding s p → ToBeProcessed next p)
      (hretained : next.retained = store s.retained (TedgeMqtt.last_will config)) :
      DeliveryMove config s next (.lost drained)
  | stop (hphase : next.phase = .stopped) (hconnected : next.connected = false)
      (hnew : ∀ p, Outstanding next p → Outstanding s p)
      (hretained : next.retained = s.retained ∨
        next.retained = store s.retained (TedgeMqtt.last_will config)) :
      DeliveryMove config s next .cancel

/-- A step that leaves all messages where they are. -/
theorem DeliveryMove.stay {s next : State} (l : Label) (hlabel : ∀ drained, l ≠ .lost drained)
    (hstartup : next.startup = s.startup) (hqueue : next.queue = s.queue)
    (hpending : next.pending = s.pending)
    (hunacked : next.unacked = s.unacked) (hretained : next.retained = s.retained) :
    DeliveryMove config s next l := by
  refine .move l hlabel (fun p hp => Or.inl ?_) (fun p hp => ?_) hretained
  · rwa [Outstanding, hstartup, hqueue, hpending, hunacked] at hp
  · rwa [ToBeProcessed, hstartup, hqueue, hpending, hunacked]

theorem step_deliveryMove {s next : State} {l : Label}
    (hstep : step config incomingCapacity subscriptions s l = some next) :
    DeliveryMove config s next l := by
  cases steps_of_step hstep with
  | startup hstartup _ =>
    refine .move _ nofun (fun p hp => Or.inl ?_) (fun p hp => ?_) rfl
    · simp only [Outstanding, hstartup, List.mem_append, List.mem_cons] at hp ⊢
      grind
    · simp only [ToBeProcessed, hstartup, List.mem_append, List.mem_cons] at hp ⊢
      grind
  | publish call =>
    refine .move _ nofun (fun p hp => ?_) (fun p hp => ?_) rfl
    · simp only [Outstanding, List.mem_append, List.mem_singleton, Request.publish.injEq] at hp ⊢
      grind
    · simp only [ToBeProcessed, List.mem_append] at hp ⊢
      grind
  | connAck => exact .stay _ nofun rfl rfl rfl rfl rfl
  | subscribe =>
    refine .move _ nofun (fun p hp => Or.inl ?_) (fun p hp => ?_) rfl
    · simpa [Outstanding] using hp
    · simpa [ToBeProcessed] using hp
  | @resend request rest hpending _ _ =>
    cases request <;> refine .move _ nofun (fun p hp => Or.inl ?_) (fun p hp => ?_) rfl <;>
      simp only [Outstanding, ToBeProcessed, transmit, hpending, List.mem_append,
        List.mem_cons] at hp ⊢ <;> grind
  | @send request rest hpending hqueue _ _ =>
    cases request <;> refine .move _ nofun (fun p hp => Or.inl ?_) (fun p hp => ?_) rfl <;>
      simp only [Outstanding, ToBeProcessed, transmit, hpending, hqueue, List.mem_append,
        List.mem_cons] at hp ⊢ <;> grind
  | receive _ hreceive =>
    obtain ⟨before, message, after, hsplit, hall, rfl, rfl⟩ := receiveNext_eq_some hreceive
    refine .receive message (by simp [hsplit]) (fun p hp => ?_) (fun p hp => ?_) rfl
    · simp only [Outstanding, hsplit, List.mem_append, List.mem_cons] at hp ⊢
      grind
    · simp only [ToBeProcessed, hsplit, List.mem_append, List.mem_cons] at hp ⊢
      grind
  | ack hunacked =>
    refine .move _ nofun (fun p hp => Or.inl ?_) (fun p hp => ?_) rfl
    · simp only [Outstanding, hunacked, List.mem_cons] at hp ⊢
      grind
    · simp only [ToBeProcessed, hunacked, List.mem_cons] at hp ⊢
      grind
  | incomingPublish message => exact .stay _ nofun rfl rfl rfl rfl rfl
  | handle => exact .stay _ nofun rfl rfl rfl rfl rfl
  | otherEvent => exact .stay _ nofun rfl rfl rfl rfl rfl
  | lost drained =>
    have hsplit : s.queue = s.queue.take drained ++ s.queue.drop drained :=
      (List.take_append_drop drained s.queue).symm
    refine .lost drained (fun p hp => ?_) (fun p hp => ?_) rfl
    · simp only [Outstanding, List.mem_append, List.mem_map] at hp ⊢
      rw [hsplit, List.mem_append]
      grind
    · simp only [Outstanding, ToBeProcessed, List.mem_append, List.mem_map] at hp ⊢
      rw [hsplit, List.mem_append] at hp
      grind
  | connectFailed => exact .stay _ nofun rfl rfl rfl rfl rfl
  | wake => exact .stay _ nofun rfl rfl rfl rfl rfl
  | cancel =>
    refine .stop rfl rfl (fun p hp => hp) ?_
    cases hconnected : s.connected with
    | false => exact Or.inl (by simp)
    | true => exact Or.inr (by simp)

/-- A stopped event loop stays stopped and offline. -/
theorem stopped_step {s next : State} {l : Label}
    (hstep : step config incomingCapacity subscriptions s l = some next)
    (hphase : s.phase = .stopped) (hoffline : s.connected = false) :
    next.phase = .stopped ∧ next.connected = false := by
  -- Whatever needs a running loop or a connection is out of the question.
  cases steps_of_step hstep with
  | startup => exact ⟨hphase, hoffline⟩
  | publish call => exact ⟨hphase, hoffline⟩
  | handle => exact ⟨hphase, hoffline⟩
  | subscribe hsubscribing => cases hphase.symm.trans hsubscribing
  | receive honline => cases hoffline.symm.trans honline
  | connAck hpolling => cases hphase.symm.trans hpolling
  | resend _ hpolling => cases hphase.symm.trans hpolling
  | send _ _ hpolling => cases hphase.symm.trans hpolling
  | ack _ hpolling => cases hphase.symm.trans hpolling
  | incomingPublish _ hpolling => cases hphase.symm.trans hpolling
  | otherEvent hpolling => cases hphase.symm.trans hpolling
  | lost _ hpolling => cases hphase.symm.trans hpolling
  | connectFailed hpolling => cases hphase.symm.trans hpolling
  | wake hsleeping => cases hphase.symm.trans hsleeping
  | cancel => exact ⟨rfl, rfl⟩

end tedge.event_loop
