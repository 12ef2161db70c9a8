import OpcuaGateway.Gateway.Main
import OpcuaGateway.Tedge.EventLoop.Delivery

open tedge.topic tedge.mqtt tedge.event_loop gateway.config transition

namespace gateway.main

variable {config : Config} {pid unix_time : Nat} {version : String}

/-- The topic that carries the health of the service. -/
def healthTopic (config : Config) : String := (TedgeMqtt.last_will config.mqtt).topic

theorem healthTopic_eq (config : Config) : healthTopic config =
    (EntityTopicId.main_service config.mqtt.service_name).registration_topic ++ "/status/health" :=
  EntityTopicId.channel_topic_eq _ _

theorem healthUp_topic : (healthUp config pid unix_time).topic = healthTopic config := rfl

/-- Device channels carry no health of the service. -/
theorem device_channel_ne (device : DeviceId) (channel : String) :
    device.entity.channel_topic channel ≠ healthTopic config := by
  rw [EntityTopicId.channel_topic_eq, healthTopic_eq]
  exact EntityTopicId.device_topic_ne_service_topic device.clean _ _ _

theorem device_registration_ne (device : DeviceId) :
    device.entity.registration_topic ≠ healthTopic config := by
  rw [healthTopic_eq, ← String.append_empty (s := device.entity.registration_topic)]
  exact EntityTopicId.device_topic_ne_service_topic device.clean _ _ _

theorem smartrest_topic_ne (external_id : String) : smartrest_topic external_id ≠ healthTopic config := by
  intro h
  have hlist := congrArg String.toList h
  simp only [healthTopic_eq, EntityTopicId.registration_topic, smartrest_topic, TE_ROOT,
    String.toList_append] at hlist
  simp at hlist

/-- No task but the startup publishes on the health topic. -/
theorem call_topic_ne (call : Call) : call.message.topic ≠ healthTopic config := by
  cases call with
  | register_child_device device => exact device_registration_ne device
  | publish_smartrest external_id => exact smartrest_topic_ne external_id
  | publish_twin device | clear_twin device | publish_measurement device
  | publish_measurement_meta device | publish_event device | raise_alarm device | clear_alarm device =>
    exact device_channel_ne device _

theorem call_message_ne (call : Call) : call.message ≠ healthUp config pid unix_time := by
  intro h
  have htopic : call.message.topic = healthTopic config := by rw [h, healthUp_topic]
  exact call_topic_ne call htopic

theorem register_service_topic_ne :
    (TedgeMqtt.new config.mqtt).register_service.topic ≠ healthTopic config := by
  intro h
  have hlength := congrArg String.length (h.trans (healthTopic_eq config))
  simp only [TedgeMqtt.register_service, TedgeMqtt.new, String.length_append] at hlength
  have hsuffix : "/status/health".length = 14 := by decide
  omega

/-- The startup publishes on the health topic once. -/
theorem startupPublishes_topic {message : Publish}
    (hmem : message ∈ startupPublishes config pid unix_time version)
    (htopic : message.topic = healthTopic config) : message = healthUp config pid unix_time := by
  rw [startupPublishes, List.mem_append] at hmem
  rcases hmem with hmem | hmem
  · rcases List.mem_cons.mp hmem with rfl | hmem
    · exact absurd htopic register_service_topic_ne
    · exact List.mem_singleton.mp hmem
  · obtain ⟨device, hentity⟩ : ∃ device : DeviceId, gateway_device.entity config.gateway = device.entity :=
      ⟨.sanitized config.gateway.id, by simp only [gateway_device.entity, DeviceId.entity, DeviceId.sanitized]⟩
    split at hmem
    · rw [gateway_device.register, hentity] at hmem
      rcases List.mem_cons.mp hmem with rfl | hmem
      · exact absurd htopic (device_registration_ne device)
      · obtain ⟨fragment, -, rfl⟩ := List.mem_map.mp hmem
        exact absurd htopic (device_channel_ne device _)
    · cases hmem

theorem healthUp_payload_ne_down :
    (healthUp config pid unix_time).payload ≠ (TedgeMqtt.last_will config.mqtt).payload := by
  intro h
  have htrees := congrArg (json.Value.get "status") (Payload.json.inj h)
  simp [json.Value.get_ofMembers, ordered_map.OrderedMap.ofList,
    ordered_map.OrderedMap.get_insert] at htrees

theorem store_healthUp (retained : String → Option Payload) :
    store retained (healthUp config pid unix_time) (healthTopic config) =
      some (healthUp config pid unix_time).payload := by
  have hpayload : (healthUp config pid unix_time).payload ≠ .bytes "" := nofun
  rw [store, if_pos (by rfl), healthUp_topic, Function.update_self, if_neg hpayload]

theorem store_last_will (retained : String → Option Payload) :
    store retained (TedgeMqtt.last_will config.mqtt) (healthTopic config) =
      some (TedgeMqtt.last_will config.mqtt).payload := by
  have hpayload : (TedgeMqtt.last_will config.mqtt).payload ≠ .bytes "" := nofun
  rw [store, if_pos (by rfl), healthTopic, Function.update_self, if_neg hpayload]

theorem store_of_topic_ne {retained : String → Option Payload} {message : Publish} {topic : String}
    (htopic : message.topic ≠ topic) : store retained message topic = retained topic := by
  rw [store]
  split
  · exact Function.update_of_ne htopic.symm _ _
  · rfl

/-- The event loop is connected and has nothing left to deliver. -/
structure Settled (s : State) : Prop where
  connected : s.connected = true
  startup : s.startup = []
  queue : s.queue = []
  pending : s.pending = []
  unacked : s.unacked = []

instance (s : State) : Decidable (Settled s) :=
  decidable_of_iff (s.connected = true ∧ s.startup = [] ∧ s.queue = [] ∧ s.pending = [] ∧ s.unacked = [])
    ⟨fun ⟨hconnected, hstartup, hqueue, hpending, hunacked⟩ => ⟨hconnected, hstartup, hqueue, hpending, hunacked⟩,
      fun h => ⟨h.connected, h.startup, h.queue, h.pending, h.unacked⟩⟩

theorem Settled.not_outstanding {s : State} (h : Settled s) (message : Publish) :
    ¬ Outstanding s message := by
  simp [Outstanding, h.startup, h.queue, h.pending, h.unacked]

/-- A connection is lost only while the startup's health message is outstanding:
not queued yet, or not acknowledged. -/
def LossBeforeAck (config : Config) (pid unix_time : Nat) (s : State) (l : Label) : Prop :=
  ∀ drained, l = .lost drained → Outstanding s (healthUp config pid unix_time)

/-- Whatever is on its way to the health topic is the startup's health message. -/
def OnlyUp (config : Config) (pid unix_time : Nat) (s : State) : Prop :=
  ∀ message, Outstanding s message → message.topic = healthTopic config →
    message = healthUp config pid unix_time

theorem OnlyUp.step {s next : State} {l : Label} (honly : OnlyUp config pid unix_time s)
    (hstep : (machine config pid unix_time version).step s l = some next) :
    OnlyUp config pid unix_time next := by
  intro message hout htopic
  cases step_deliveryMove hstep with
  | move _ _ hnew =>
    rcases hnew message hout with hout | ⟨call, rfl⟩
    · exact honly message hout htopic
    · exact absurd htopic (call_topic_ne call)
  | receive _ _ hnew => exact honly message (hnew message hout) htopic
  | lost _ hnew => exact honly message (hnew message hout) htopic
  | stop _ _ hnew => exact honly message (hnew message hout) htopic

/-- The loop has ended, or the broker will still process the health message, or
it retains it. -/
def UpAhead (config : Config) (pid unix_time : Nat) (s : State) : Prop :=
  (s.phase = .stopped ∧ s.connected = false) ∨ ToBeProcessed s (healthUp config pid unix_time) ∨
    s.retained (healthTopic config) = some (healthUp config pid unix_time).payload

theorem UpAhead.step {s next : State} {l : Label} (hup : UpAhead config pid unix_time s)
    (honly : OnlyUp config pid unix_time s) (hguard : LossBeforeAck config pid unix_time s l)
    (hstep : (machine config pid unix_time version).step s l = some next) :
    UpAhead config pid unix_time next := by
  rcases hup with ⟨hphase, hoffline⟩ | hup
  · exact Or.inl (stopped_step hstep hphase hoffline)
  · cases step_deliveryMove hstep with
    | move _ _ _ hkept hretained =>
      rcases hup with hup | hup
      · exact Or.inr (Or.inl (hkept _ hup))
      · exact Or.inr (Or.inr (by rw [hretained, hup]))
    | receive message hsent _ hkept hretained =>
      by_cases hself : message = healthUp config pid unix_time
      · exact Or.inr (Or.inr (by rw [hretained, hself, store_healthUp]))
      · rcases hup with hup | hup
        · exact Or.inr (Or.inl ((hkept _ hup).resolve_left (Ne.symm hself)))
        · have htopic : message.topic ≠ healthTopic config := fun htopic =>
            hself (honly message (Or.inr (Or.inr (Or.inr ⟨_, hsent⟩))) htopic)
          exact Or.inr (Or.inr (by rw [hretained, store_of_topic_ne htopic, hup]))
    | lost drained _ hkept => exact Or.inr (Or.inl (hkept _ (hguard drained rfl)))
    | stop hphase hoffline => exact Or.inl ⟨hphase, hoffline⟩

/-- The health message is behind the broker, which does not retain it. -/
def UpGone (config : Config) (pid unix_time : Nat) (s : State) : Prop :=
  ¬ Outstanding s (healthUp config pid unix_time) ∧
    s.retained (healthTopic config) ≠ some (healthUp config pid unix_time).payload

theorem last_will_ne_healthUp (retained : String → Option Payload) :
    store retained (TedgeMqtt.last_will config.mqtt) (healthTopic config) ≠
      some (healthUp config pid unix_time).payload := by
  rw [store_last_will]
  intro h
  exact healthUp_payload_ne_down (Option.some.inj h).symm

theorem UpGone.step {s next : State} {l : Label} (hgone : UpGone config pid unix_time s)
    (honly : OnlyUp config pid unix_time s)
    (hstep : (machine config pid unix_time version).step s l = some next) :
    UpGone config pid unix_time next := by
  obtain ⟨hout, hretained⟩ := hgone
  cases step_deliveryMove hstep with
  | move _ _ hnew _ hsame =>
    refine ⟨fun hup => ?_, by rwa [hsame]⟩
    rcases hnew _ hup with hup | ⟨call, hcall⟩
    · exact hout hup
    · exact call_message_ne call hcall.symm
  | receive message hsent hnew _ hstore =>
    refine ⟨fun hup => hout (hnew _ hup), ?_⟩
    have hsource : Outstanding s message := Or.inr (Or.inr (Or.inr ⟨_, hsent⟩))
    have htopic : message.topic ≠ healthTopic config := by
      intro htopic
      rw [honly message hsource htopic] at hsource
      exact hout hsource
    rwa [hstore, store_of_topic_ne htopic]
  | lost _ hnew _ hstore =>
    refine ⟨fun hup => hout (hnew _ hup), ?_⟩
    rw [hstore]
    exact last_will_ne_healthUp _
  | stop _ _ hnew hstore =>
    refine ⟨fun hup => hout (hnew _ hup), ?_⟩
    rcases hstore with hstore | hstore
    · rwa [hstore]
    · rw [hstore]
      exact last_will_ne_healthUp _

/-- A loss after the acknowledgement overwrites the retained health for good. -/
theorem UpGone.of_loss {s next : State} {l : Label} (hbad : ¬ LossBeforeAck config pid unix_time s l)
    (hstep : (machine config pid unix_time version).step s l = some next) :
    UpGone config pid unix_time next := by
  unfold LossBeforeAck at hbad
  push Not at hbad
  obtain ⟨drained, rfl, hout⟩ := hbad
  have hstep : tedge.event_loop.step config.mqtt INCOMING_CAPACITY (subscriptions config) s
    (.lost drained) = some next := hstep
  cases step_deliveryMove hstep with
  | move _ hlabel => exact absurd rfl (hlabel drained)
  | lost _ hnew _ hstore =>
    refine ⟨fun hup => hout (hnew _ hup), ?_⟩
    rw [hstore]
    exact last_will_ne_healthUp _

theorem onlyUp_start {s : State} (hstart : (machine config pid unix_time version).start s) :
    OnlyUp config pid unix_time s := by
  intro message hout htopic
  rw [Outstanding, hstart.startup, hstart.queue, hstart.pending, hstart.unacked] at hout
  have hmem : message ∈ startupPublishes config pid unix_time version := by simpa using hout
  exact startupPublishes_topic hmem htopic

theorem upAhead_start {s : State} (hstart : (machine config pid unix_time version).start s) :
    UpAhead config pid unix_time s := by
  refine Or.inr (Or.inl (Or.inl ?_))
  rw [hstart.startup]
  exact List.mem_append_left _ (List.mem_cons_of_mem _ List.mem_cons_self)

theorem onlyUp_exec {s final : State} {ls : List Label} (honly : OnlyUp config pid unix_time s)
    (hrun : (machine config pid unix_time version).exec s ls = some final) :
    OnlyUp config pid unix_time final :=
  Machine.exec_preserves (OnlyUp config pid unix_time) (fun _ _ _ h hstep => h.step hstep) honly hrun

/-- Health published once at startup survives in the broker exactly in the runs
that lose the connection only before its acknowledgement. After any later loss the
retained health is the last will's `down`, also once everything is delivered. -/
theorem retained_up_iff {s final : State} {ls : List Label}
    (hstart : (machine config pid unix_time version).start s)
    (hrun : (machine config pid unix_time version).exec s ls = some final) (hsettled : Settled final) :
    final.retained (healthTopic config) = some (healthUp config pid unix_time).payload ↔
      (machine config pid unix_time version).Guarded (LossBeforeAck config pid unix_time) s ls := by
  have honly := onlyUp_start hstart
  refine ⟨fun hup => ?_, fun hguard => ?_⟩
  · by_contra hnot
    obtain ⟨before, l, after, mid, next, -, hbefore, hbad, hstep, hafter⟩ :=
      Machine.exists_unguarded_move hrun hnot
    have hnext := (onlyUp_exec honly hbefore).step hstep
    have hgone : OnlyUp config pid unix_time final ∧ UpGone config pid unix_time final :=
      Machine.exec_preserves
        (fun t => OnlyUp config pid unix_time t ∧ UpGone config pid unix_time t)
        (fun _ _ _ h hmove => ⟨h.1.step hmove, h.2.step h.1 hmove⟩) ⟨hnext, UpGone.of_loss hbad hstep⟩ hafter
    exact hgone.2.2 hup
  · have hahead : OnlyUp config pid unix_time final ∧ UpAhead config pid unix_time final :=
      Machine.exec_invariant
        (fun t => OnlyUp config pid unix_time t ∧ UpAhead config pid unix_time t)
        (fun _ _ _ h hg hmove => ⟨h.1.step hmove, h.2.step h.1 hg hmove⟩) hguard ⟨honly, upAhead_start hstart⟩ hrun
    rcases hahead.2 with ⟨-, hoffline⟩ | hto | hup
    · rw [hsettled.connected] at hoffline
      cases hoffline
    · exact absurd hto.outstanding (hsettled.not_outstanding _)
    · exact hup

/-- A configuration with the gateway device. -/
def gatewayOn : Config :=
  { Config.default with gateway := { GatewayConfig.default with device_id := "device" } }

/-- A first state of its process, against a broker without retained messages. -/
def firstState : State where
  phase := .polling
  connected := false
  startup := startupPublishes gatewayOn 1 0 "0.1.0"
  queue := []
  pending := []
  unacked := []
  incoming := []
  retained := fun _ => none

theorem firstState_start : (machine gatewayOn 1 0 "0.1.0").start firstState := ⟨rfl, rfl, rfl, rfl, rfl, rfl, rfl⟩

/-- The connection breaks between the two first publishes of the startup. They are
sent again and acknowledged on the next one. -/
def earlyLoss : List Label :=
  [.startup, .startup, .connAck, .subscribe, .send, .receive, .lost 0, .wake, .connAck, .subscribe] ++
    List.replicate 4 .startup ++ List.replicate 8 .send ++ List.replicate 6 .receive ++
    List.replicate 6 .ack

theorem retained_up_iff_early_loss :
    (machine gatewayOn 1 0 "0.1.0").Guarded (LossBeforeAck gatewayOn 1 0) firstState earlyLoss := by
  have hcheck : ((machine gatewayOn 1 0 "0.1.0").exec firstState earlyLoss).any (fun final =>
      decide (Settled final ∧
        final.retained (healthTopic gatewayOn) = some (healthUp gatewayOn 1 0).payload)) = true := by
    decide +kernel
  obtain ⟨final, hrun, hfinal⟩ := (Option.any_eq_true _ _).mp hcheck
  obtain ⟨hsettled, hup⟩ := of_decide_eq_true hfinal
  exact (retained_up_iff firstState_start hrun hsettled).mp hup

/-- The connection breaks after everything is acknowledged. -/
def lateLoss : List Label :=
  List.replicate 6 .startup ++ [.connAck, .subscribe] ++ List.replicate 7 .send ++
    List.replicate 6 .receive ++ List.replicate 6 .ack ++ [.lost 0, .wake, .connAck, .subscribe, .send]

/-- A connection that breaks once everything is acknowledged leaves `down` behind. -/
theorem retained_down_after_reconnect :
    ¬ ∀ s ls final, (machine gatewayOn 1 0 "0.1.0").start s →
      (machine gatewayOn 1 0 "0.1.0").exec s ls = some final → Settled final →
      final.retained (healthTopic gatewayOn) = some (healthUp gatewayOn 1 0).payload := by
  intro hall
  have hcheck : ((machine gatewayOn 1 0 "0.1.0").exec firstState lateLoss).any (fun final =>
      decide (Settled final ∧
        final.retained (healthTopic gatewayOn) = some (TedgeMqtt.last_will gatewayOn.mqtt).payload)) = true := by
    decide +kernel
  obtain ⟨final, hrun, hfinal⟩ := (Option.any_eq_true _ _).mp hcheck
  obtain ⟨hsettled, hdown⟩ := of_decide_eq_true hfinal
  have hup := hall firstState _ final firstState_start hrun hsettled
  rw [hdown] at hup
  exact healthUp_payload_ne_down (Option.some.inj hup).symm

end gateway.main
