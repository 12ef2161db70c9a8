import Mathlib.Data.List.Induction
import OpcuaGateway.Gateway.Health

open tedge.topic tedge.mqtt tedge.event_loop gateway.config

namespace gateway.main

variable {config : Config} {pid unix_time : Nat} {version : String}

/-- The message registers the device. -/
def Registration (device : DeviceId) (message : Publish) : Prop :=
  ∃ parent name type external_id,
    message = TedgeMqtt.register_child_device device.entity parent name type external_id

theorem DeviceId.no_separator (device : DeviceId) : '/' ∉ device.id.toList :=
  fun hmem => (device.clean _ hmem).ne_separator rfl

/-- Registrations of devices are told apart by the device. -/
theorem registration_topic_inj {device other : DeviceId}
    (h : other.entity.registration_topic = device.entity.registration_topic) : other.entity = device.entity := by
  have hprefix : other.entity.registration_topic ++ "" = device.entity.registration_topic ++ "" := by rw [h]
  have hid : other.id = device.id := EntityTopicId.child_prefix_inj
    (DeviceId.no_separator other) (DeviceId.no_separator device) hprefix
  simp only [DeviceId.entity, hid]

/-- No channel of a device is where a device is registered. -/
theorem channel_topic_ne_registration (device other : DeviceId) (channel : String) :
    other.entity.channel_topic channel ≠ device.entity.registration_topic := by
  intro h
  rw [EntityTopicId.channel_topic_eq, ← String.append_empty (s := device.entity.registration_topic)] at h
  have hid : other.id = device.id := EntityTopicId.child_prefix_inj
    (DeviceId.no_separator other) (DeviceId.no_separator device) h
  simp only [DeviceId.entity, hid] at h
  have hlength := congrArg String.length h
  simp only [String.length_append] at hlength
  have hslash : "/".length = 1 := rfl
  have hempty : "".length = 0 := rfl
  omega

theorem smartrest_topic_ne_registration (device : DeviceId) (external_id : String) :
    smartrest_topic external_id ≠ device.entity.registration_topic := by
  intro h
  have hlist := congrArg String.toList h
  simp only [EntityTopicId.registration_topic, smartrest_topic, TE_ROOT, String.toList_append] at hlist
  simp at hlist

/-- Whatever a task publishes where a device is registered registers the device. -/
theorem registration_of_call {device : DeviceId} {call : Call}
    (htopic : call.message.topic = device.entity.registration_topic) : Registration device call.message := by
  cases call with
  | register_child_device other parent name type external_id =>
    refine ⟨parent, name, type, external_id, ?_⟩
    rw [← registration_topic_inj htopic]
    rfl
  | publish_smartrest external_id => exact absurd htopic (smartrest_topic_ne_registration device external_id)
  | publish_twin other | clear_twin other | publish_measurement other | publish_measurement_meta other
  | publish_event other | raise_alarm other | clear_alarm other =>
    exact absurd htopic (channel_topic_ne_registration device other _)

theorem registration_of_startup {device : DeviceId} {message : Publish}
    (hmem : message ∈ startupPublishes config pid unix_time version)
    (htopic : message.topic = device.entity.registration_topic) : Registration device message := by
  have hservice : ∀ rest, (EntityTopicId.main_service config.mqtt.service_name).registration_topic ++ rest ≠
      device.entity.registration_topic := by
    intro rest h
    refine EntityTopicId.device_topic_ne_service_topic device.clean config.mqtt.service_name "" rest ?_
    rw [h, String.append_empty, DeviceId.entity]
  rw [startupPublishes, List.mem_append] at hmem
  rcases hmem with hmem | hmem
  · rcases List.mem_cons.mp hmem with rfl | hmem
    · exact absurd ((String.append_empty).trans htopic) (hservice "")
    · obtain rfl := List.mem_singleton.mp hmem
      exact absurd ((EntityTopicId.channel_topic_eq _ _).symm.trans htopic) (hservice _)
  · obtain ⟨other, hentity⟩ : ∃ other : DeviceId, gateway_device.entity config.gateway = other.entity :=
      ⟨.sanitized config.gateway.id, by simp only [gateway_device.entity, DeviceId.entity, DeviceId.sanitized]⟩
    split at hmem
    · rw [gateway_device.register, hentity] at hmem
      rcases List.mem_cons.mp hmem with rfl | hmem
      · exact ⟨_, _, _, _, by rw [registration_topic_inj htopic]⟩
      · obtain ⟨fragment, -, rfl⟩ := List.mem_map.mp hmem
        exact absurd htopic (channel_topic_ne_registration device other _)
    · cases hmem

/-- Every message that is handed to the client: those of the startup, and then the calls
of the tasks in the order in which they are made. -/
def handed (config : Config) (pid unix_time : Nat) (version : String) (calls : List Call) : List Publish :=
  startupPublishes config pid unix_time version ++ calls.map Call.message

/-- Delivery at QoS 1: each message that the client takes is processed by the broker at
least once, in some order, and beside these only the last will is. -/
structure Delivered (client : Client) (will : Publish) (messages processed : List Publish) : Prop where
  arrives : ∀ message ∈ client.taken messages, message ∈ processed
  genuine : ∀ message ∈ processed, message ∈ client.taken messages ∨ message = will

variable {calls : List Call} {processed : List Publish}

theorem registration_of_handed {device : DeviceId} {message : Publish}
    (hmem : message ∈ handed config pid unix_time version calls)
    (htopic : message.topic = device.entity.registration_topic) : Registration device message := by
  rcases List.mem_append.mp hmem with hstartup | hcall
  · exact registration_of_startup hstartup htopic
  · obtain ⟨call, -, rfl⟩ := List.mem_map.mp hcall
    exact registration_of_call htopic

/-- Only registrations of a device are processed on its topic. -/
theorem Delivered.registration {client : Client} {device : DeviceId} {message : Publish}
    (h : Delivered client (TedgeMqtt.last_will config.mqtt) (handed config pid unix_time version calls) processed)
    (hmem : message ∈ processed) (htopic : message.topic = device.entity.registration_topic) :
    message ∈ handed config pid unix_time version calls ∧ Registration device message := by
  rcases h.genuine message hmem with htaken | rfl
  · obtain ⟨hhanded, -⟩ := Client.mem_taken.mp htaken
    exact ⟨hhanded, registration_of_handed hhanded htopic⟩
  · exact absurd htopic.symm (device_registration_ne device)

theorem Registration.topic_eq {device : DeviceId} {message : Publish} (h : Registration device message) :
    message.topic = device.entity.registration_topic := by
  obtain ⟨parent, name, type, external_id, rfl⟩ := h
  rfl

/-- The broker's retained messages, by what it has processed: a retained message that is
not empty is kept on its topic as long as no other message goes there. -/
structure Retains (retained : List Publish → String → Option Payload) : Prop where
  kept : ∀ before message after, message.retain = true → message.payload ≠ .bytes "" →
    (∀ other ∈ after, other.topic ≠ message.topic) →
    retained (before ++ message :: after) message.topic = some message.payload

theorem Retains.registration {retained : List Publish → String → Option Payload} (h : Retains retained)
    {device : DeviceId} {before after : List Publish} {message : Publish} (hregistration : Registration device message)
    (hlast : ∀ other ∈ after, other.topic ≠ device.entity.registration_topic) :
    retained (before ++ message :: after) device.entity.registration_topic = some message.payload := by
  obtain ⟨parent, name, type, external_id, rfl⟩ := hregistration
  exact h.kept before _ after rfl (by simp [TedgeMqtt.register_child_device]) hlast

/-- The last of several messages on a topic. -/
theorem exists_last_on {topic : String} {message : Publish} (hmem : message ∈ processed)
    (htopic : message.topic = topic) : ∃ before last after, processed = before ++ last :: after ∧
      last.topic = topic ∧ ∀ other ∈ after, other.topic ≠ topic := by
  induction processed using List.reverseRecOn with
  | nil => cases hmem
  | append_singleton rest last ih =>
    by_cases hlast : last.topic = topic
    · exact ⟨rest, last, [], rfl, hlast, by simp⟩
    · have hrest : message ∈ rest := by
        rcases List.mem_append.mp hmem with hrest | hsame
        · exact hrest
        · rw [List.mem_singleton.mp hsame] at htopic
          exact absurd htopic hlast
      obtain ⟨before, found, after, rfl, hfound, hafter⟩ := ih hrest
      refine ⟨before, found, after ++ [last], by simp, hfound, fun other hother => ?_⟩
      rcases List.mem_append.mp hother with hother | hsame
      · exact hafter other hother
      · rw [List.mem_singleton.mp hsame]
        exact hlast

variable (config pid unix_time version)

/-- Once a device is registered, the broker retains a registration of it, the one that it
processed last, whatever else the process publishes and however the messages are
repeated and reordered on their way. -/
theorem registrations_kept (client : Client) (calls : List Call) (processed : List Publish)
    (hdelivered : Delivered client (TedgeMqtt.last_will config.mqtt) (handed config pid unix_time version calls) processed)
    (retained : List Publish → String → Option Payload) (hretains : Retains retained) (device : DeviceId)
    (htakes : client.takes device.entity.registration_topic = true)
    (hregistered : ∃ message ∈ handed config pid unix_time version calls, Registration device message) :
    ∃ before message after, processed = before ++ message :: after ∧
      (∀ other ∈ after, other.topic ≠ device.entity.registration_topic) ∧
      message ∈ handed config pid unix_time version calls ∧ Registration device message ∧
      retained processed device.entity.registration_topic = some message.payload := by
  obtain ⟨first, hfirst, hregistration⟩ := hregistered
  have htopic := hregistration.topic_eq
  have harrived := hdelivered.arrives first (Client.mem_taken.mpr ⟨hfirst, by rw [htopic]; exact htakes⟩)
  obtain ⟨before, last, after, rfl, hlast_topic, hlast⟩ := exists_last_on harrived htopic
  obtain ⟨hhanded, hlast_registration⟩ := hdelivered.registration (by simp) hlast_topic
  exact ⟨before, last, after, rfl, hlast, hhanded, hlast_registration, hretains.registration hlast_registration hlast⟩

/-- The startup of a gateway whose device is registered once more under another name. -/
def renamedCalls : List Call :=
  [.register_child_device (.sanitized gatewayOn.gateway.id) .main_device "renamed" GATEWAY_MO_TYPE none]

theorem foldl_store_of_ne {topic : String} {messages : List Publish} (h : ∀ other ∈ messages, other.topic ≠ topic)
    (retained : String → Option Payload) : messages.foldl store retained topic = retained topic := by
  induction messages generalizing retained with
  | nil => rfl
  | cons message rest ih =>
    obtain ⟨hne, hrest⟩ := List.forall_mem_cons.mp h
    rw [List.foldl_cons, ih hrest, store_of_topic_ne hne]

theorem retains_store : Retains fun processed => processed.foldl store fun _ => none where
  kept := by
    intro before message after hretain hpayload hafter
    rw [List.foldl_append, List.foldl_cons, foldl_store_of_ne hafter, tedge.event_loop.store]
    simp [hretain, hpayload]

/-- The broker gets everything twice, the last will in between. -/
theorem registrations_kept_renamed :
    ∃ message, Registration (.sanitized gatewayOn.gateway.id) message ∧
      ((handed gatewayOn 1 0 "0.1.0" renamedCalls ++ [TedgeMqtt.last_will gatewayOn.mqtt] ++
        handed gatewayOn 1 0 "0.1.0" renamedCalls).foldl store fun _ => none)
          (DeviceId.sanitized gatewayOn.gateway.id).entity.registration_topic = some message.payload := by
  have hclean : ∀ message ∈ handed gatewayOn 1 0 "0.1.0" renamedCalls,
      Client.checking.takes message.topic = true := by decide +kernel
  have hdelivered : Delivered .checking (TedgeMqtt.last_will gatewayOn.mqtt) (handed gatewayOn 1 0 "0.1.0" renamedCalls)
      (handed gatewayOn 1 0 "0.1.0" renamedCalls ++ [TedgeMqtt.last_will gatewayOn.mqtt] ++
        handed gatewayOn 1 0 "0.1.0" renamedCalls) := by
    refine ⟨fun message hmem => ?_, fun message hmem => ?_⟩
    · obtain ⟨hhanded, -⟩ := Client.mem_taken.mp hmem
      exact List.mem_append_right _ hhanded
    · simp only [List.mem_append, List.mem_singleton] at hmem
      rcases hmem with (hmem | hmem) | hmem
      · exact Or.inl (Client.mem_taken.mpr ⟨hmem, hclean message hmem⟩)
      · exact Or.inr hmem
      · exact Or.inl (Client.mem_taken.mpr ⟨hmem, hclean message hmem⟩)
  obtain ⟨-, message, -, -, -, -, hregistration, hretained⟩ := registrations_kept gatewayOn 1 0 "0.1.0" .checking
    renamedCalls _ hdelivered _ retains_store (.sanitized gatewayOn.gateway.id) (by decide +kernel)
    ⟨_, List.mem_append_right _ (List.mem_singleton_self _), _, _, _, _, rfl⟩
  exact ⟨message, hregistration, hretained⟩

end gateway.main
