import Mathlib.Data.List.Dedup
import OpcuaGateway.Foundation.Precedence
import OpcuaGateway.Gateway.Process
import OpcuaGateway.Gateway.Publish.Alarms
import OpcuaGateway.Gateway.Publish.Topics

open transition watch precedence ordered_map tedge.topic tedge.mqtt mapping.value mapping.payload
  mapping.namespace_table mapping.source gateway.config gateway.publish gateway.server_task opcua_conn

namespace gateway.process

/-- The topic has the prefix `te/<entity>`. -/
def Under (entity : EntityTopicId) (topic : String) : Prop := ∃ rest, topic = entity.registration_topic ++ rest

theorem under_iff {entity : EntityTopicId} {topic : String} :
    Under entity topic ↔ entity.registration_topic.toList <+: topic.toList := by
  constructor
  · rintro ⟨rest, rfl⟩
    rw [String.toList_append]
    exact List.prefix_append _ _
  · rintro ⟨rest, hrest⟩
    refine ⟨String.ofList rest, String.toList_inj.mp ?_⟩
    rw [String.toList_append, String.toList_ofList, hrest]

instance (entity : EntityTopicId) (topic : String) : Decidable (Under entity topic) :=
  decidable_of_iff _ under_iff.symm

/-- An entity of the default topic scheme: the gateway's own service, or a device. -/
def Addressed (config : Config) (entity : EntityTopicId) : Prop :=
  entity = .main_service config.mqtt.service_name ∨ ∃ id : String, '/' ∉ id.toList ∧ entity = .child_device id

/-- The retained registration of an entity below its parent. -/
structure Registers (entity parent : EntityTopicId) (message : Publish) : Prop where
  topic : message.topic = entity.registration_topic
  retain : message.retain = true
  body : ∃ body type, message.payload = .json body ∧ body.get "@type" = some (.string type) ∧
    body.get "@parent" = some (.string parent.as_str)

def Registered (log : List Publish) (entity : EntityTopicId) : Prop :=
  ∃ message ∈ log, ∃ parent, Registers entity parent message

/-- The main device counts as always registered. -/
def ParentKnown (log : List Publish) (parent : EntityTopicId) : Prop :=
  parent = .main_device ∨ Registered log parent

/-- What may follow a log: the registration of an entity whose parent is known, a
message of a registered entity, or one of no entity at all. -/
inductive Covered (config : Config) (log : List Publish) (message : Publish) : Prop
  | registration {entity parent : EntityTopicId} (haddressed : Addressed config entity)
      (hregisters : Registers entity parent message) (hparent : ParentKnown log parent)
  | channel {entity : EntityTopicId} (haddressed : Addressed config entity) (hchannel : OnChannel entity message)
      (hregistered : Registered log entity)
  | elsewhere (hnone : ∀ entity, ¬ Under entity message.topic)

section Topics

variable {config : Config} {entity : EntityTopicId}

theorem under_registration (entity : EntityTopicId) : Under entity entity.registration_topic :=
  ⟨"", String.append_empty.symm⟩

theorem under_of_onChannel {message : Publish} (h : OnChannel entity message) : Under entity message.topic := by
  obtain ⟨channel, htopic⟩ := h
  exact ⟨"/" ++ channel, htopic.trans (entity.channel_topic_eq channel)⟩

/-- No topic has the prefixes of two entities. -/
theorem Addressed.eq_of_under {other : EntityTopicId} {topic : String} (h : Addressed config entity)
    (hother : Addressed config other) (hunder : Under entity topic) (hunder' : Under other topic) : entity = other := by
  obtain ⟨rest, rfl⟩ := hunder
  obtain ⟨rest', htopic⟩ := hunder'
  rcases h with rfl | ⟨id, hid, rfl⟩ <;> rcases hother with rfl | ⟨id', hid', rfl⟩
  · rfl
  · exact absurd htopic.symm (EntityTopicId.child_prefix_ne_service_prefix hid' _ _ _)
  · exact absurd htopic (EntityTopicId.child_prefix_ne_service_prefix hid _ _ _)
  · rw [EntityTopicId.child_prefix_inj hid hid' htopic]

theorem smartrest_not_under (external_id : String) (entity : EntityTopicId) :
    ¬ Under entity (smartrest_topic external_id) := by
  rintro ⟨rest, htopic⟩
  have hlist := congrArg String.toList htopic
  simp only [smartrest_topic, EntityTopicId.registration_topic, TE_ROOT, String.toList_append] at hlist
  simp at hlist

theorem addressed_sanitized (input : String) : Addressed config (.child_device (sanitize_id input)) :=
  Or.inr ⟨_, sanitize_id_no_separator input, rfl⟩

theorem addressed_serverEntity (server : ServerConfig) : Addressed config (serverEntity server) :=
  addressed_sanitized _

theorem addressed_deviceEntity (server : ServerConfig) (device_type_id : String) :
    Addressed config (deviceEntity server device_type_id) :=
  Or.inr ⟨_, deviceEntity_no_separator server device_type_id, rfl⟩

end Topics

section Registrations

variable {config : Config} {log log' : List Publish} {entity parent : EntityTopicId} {message : Publish}

theorem Registered.mono (hsub : log ⊆ log') (h : Registered log entity) : Registered log' entity := by
  obtain ⟨message, hmem, hregisters⟩ := h
  exact ⟨message, hsub hmem, hregisters⟩

theorem Registers.registered (h : Registers entity parent message) (hmem : message ∈ log) : Registered log entity :=
  ⟨message, hmem, parent, h⟩

theorem Covered.persistent (config : Config) : Persistent (Covered config) := by
  intro log log' message hsub h
  cases h with
  | registration haddressed hregisters hparent =>
    exact .registration haddressed hregisters (hparent.imp_right fun h => h.mono hsub)
  | channel haddressed hchannel hregistered => exact .channel haddressed hchannel (hregistered.mono hsub)
  | elsewhere hnone => exact .elsewhere hnone

/-- The first message under an entity's prefix is its registration. -/
theorem Covered.first (h : Covered config log message) (haddressed : Addressed config entity)
    (hunder : Under entity message.topic) (hfirst : ∀ earlier ∈ log, ¬ Under entity earlier.topic) :
    ∃ parent, Registers entity parent message ∧ ParentKnown log parent := by
  cases h with
  | registration hother hregisters hparent =>
    have hunder' := hunder
    rw [hregisters.topic] at hunder'
    obtain rfl := haddressed.eq_of_under hother hunder' (under_registration _)
    exact ⟨_, hregisters, hparent⟩
  | channel hother hchannel hregistered =>
    obtain rfl := haddressed.eq_of_under hother hunder (under_of_onChannel hchannel)
    obtain ⟨earlier, hmem, parent, hregisters⟩ := hregistered
    have hearlier := under_registration entity
    rw [← hregisters.topic] at hearlier
    exact absurd hearlier (hfirst earlier hmem)
  | elsewhere hnone => exact absurd hunder (hnone entity)

theorem registers_service : Registers (.main_service config.mqtt.service_name) .main_device
    (TedgeMqtt.new config.mqtt).register_service where
  topic := rfl
  retain := rfl
  body := by
    refine ⟨_, SERVICE_TYPE, rfl, ?_, ?_⟩
    · simp [json.Value.get_ofMembers, OrderedMap.get_ofList]
    · simp [json.Value.get_ofMembers, OrderedMap.get_ofList]

theorem registers_child_device (name type : String) (external_id : Option String) :
    Registers entity parent (TedgeMqtt.register_child_device entity parent name type external_id) where
  topic := rfl
  retain := rfl
  body := by
    refine ⟨_, "child-device", rfl, ?_, ?_⟩
    · cases external_id <;> simp [json.Value.get_ofMembers, OrderedMap.get_ofList]
    · cases external_id <;> simp [json.Value.get_ofMembers, OrderedMap.get_ofList]

theorem registers_gateway (gateway : GatewayConfig) : Registers (gateway_device.entity gateway) .main_device
    (TedgeMqtt.register_child_device (gateway_device.entity gateway) .main_device gateway.name GATEWAY_MO_TYPE
      (some gateway.external_id)) := registers_child_device ..

theorem registers_server (config : Config) (server : ServerConfig) :
    Registers (serverEntity server) (parent_entity config) (registerServer config server) := registers_child_device ..

theorem registers_device (config : Config) (server : ServerConfig) (device : AppliedDeviceType) :
    Registers device.entity (serverEntity server) (TedgeMqtt.register_child_device device.entity (serverEntity server)
      device.name (device_entity_type config) none) := registers_child_device ..

end Registrations

section Outboxes

variable {config : Config} {log : List Publish}

theorem admitted_onChannel {entity : EntityTopicId} {messages : List Publish} (haddressed : Addressed config entity)
    (hregistered : Registered log entity) (hmessages : ∀ message ∈ messages, OnChannel entity message) :
    Admitted (Covered config) log messages := by
  induction messages generalizing log with
  | nil => trivial
  | cons message rest ih =>
    have hhead := hmessages message List.mem_cons_self
    refine ⟨.channel haddressed hhead hregistered, ih ?_ fun other hmem => hmessages other (List.mem_cons_of_mem _ hmem)⟩
    exact hregistered.mono (List.subset_append_left _ _)

/-- The devices of a server are announced behind the server, each before its units. -/
theorem admitted_registerDevices {server : ServerConfig} {applied : List AppliedDeviceType}
    (hserver : Registered log (serverEntity server))
    (haddressed : ∀ device ∈ applied, Addressed config device.entity) :
    Admitted (Covered config) log (registerDevices config server applied) := by
  induction applied generalizing log with
  | nil => trivial
  | cons device rest ih =>
    have hdevice := haddressed device List.mem_cons_self
    have hregisters := registers_device config server device
    refine admitted_append.mpr ⟨⟨.registration hdevice hregisters (Or.inr hserver), ?_⟩, ?_⟩
    · apply admitted_onChannel hdevice
      · exact hregisters.registered (List.mem_append_right _ (List.mem_singleton_self _))
      · exact fun message hmem => publish_units_onChannel hmem
    · apply ih
      · exact hserver.mono (List.subset_append_left _ _)
      · exact fun other hmem => haddressed other (List.mem_cons_of_mem _ hmem)

theorem registered_registerDevices {server : ServerConfig} {applied : List AppliedDeviceType}
    {device : AppliedDeviceType} (hmem : device ∈ applied) :
    Registered (registerDevices config server applied) device.entity := by
  exact (registers_device config server device).registered (List.mem_flatMap.mpr ⟨device, hmem, List.mem_cons_self⟩)

theorem admitted_startupPublishes (config : Config) (pid unix_time : Nat) (version : String) :
    Admitted (Covered config) [] (main.startupPublishes config pid unix_time version) := by
  have hservice : Addressed config (.main_service config.mqtt.service_name) := Or.inl rfl
  refine admitted_append.mpr ⟨⟨.registration hservice registers_service (Or.inl rfl), ?_⟩, ?_⟩
  · apply admitted_onChannel hservice
    · exact registers_service.registered (List.mem_singleton_self _)
    · intro message hmem
      rw [List.mem_singleton.mp hmem]
      exact ⟨_, rfl⟩
  · split
    · have hregisters := registers_gateway config.gateway
      refine ⟨.registration (addressed_sanitized _) hregisters (Or.inl rfl), ?_⟩
      apply admitted_onChannel (addressed_sanitized config.gateway.id)
      · exact hregisters.registered (List.mem_append_right _ (List.mem_singleton_self _))
      · intro message hmem
        obtain ⟨fragment, -, rfl⟩ := List.mem_map.mp hmem
        exact ⟨_, rfl⟩
    · trivial

/-- The startup registers the gateway device, if there is one. -/
theorem registered_gateway {pid unix_time : Nat} {version : String} (henabled : config.gateway.enabled = true) :
    Registered (main.startupPublishes config pid unix_time version) (gateway_device.entity config.gateway) := by
  apply (registers_gateway config.gateway).registered
  rw [main.startupPublishes, if_pos henabled]
  exact List.mem_append_right _ List.mem_cons_self

end Outboxes

section Moves

variable {codec : TextCodec} {config : Config} {channel : Channel (List LoadedDeviceType)} {task next : ServerTask}

/-- What a step of a task does to its generation: none is left, the devices stay
those that they were, or a new one begins. -/
inductive GenerationMove (codec : TextCodec) (config : Config) (task next : ServerTask) : Prop
  | gone (hserver : next.server = task.server) (hnone : next.phase.generation = none)
  | kept {generation moved : Generation} (hserver : next.server = task.server)
      (hbefore : task.phase.generation = some generation) (hafter : next.phase.generation = some moved)
      (happlied : moved.applied = generation.applied)
  | begun {connection : Connection} {current : List LoadedDeviceType} (hserver : next.server = task.server)
      (hnone : task.phase.generation = none)
      (hafter : next.phase.generation =
        some (newGeneration codec config task.server task.known_server_ids connection current))

theorem GenerationMove.same (hserver : next.server = task.server)
    (hphase : next.phase.generation = task.phase.generation) : GenerationMove codec config task next := by
  cases hgeneration : task.phase.generation with
  | none => exact .gone hserver (hphase.trans hgeneration)
  | some generation => exact .kept hserver hgeneration (hphase.trans hgeneration) rfl

theorem generationMove_of_step {label : StepLabel} (hstep : task.step codec config channel label = some next) :
    GenerationMove codec config task next := by
  cases taskMove_of_step hstep with
  | stay hserver _ hphase => exact .same hserver.1 (congrArg _ hphase)
  | idle hserver _ _ hgeneration => exact .gone hserver.1 hgeneration
  | read hserver _ hphase => exact .gone hserver.1 (congrArg _ hphase)
  | resolve hserver _ hbefore hphase =>
    have hnone : task.phase.generation = none := congrArg _ hbefore
    exact .begun hserver.1 hnone (congrArg _ hphase)
  | @serve generation moved hserver _ hbefore hphase hsame =>
    obtain ⟨readers, rfl, -⟩ := hsame
    have hold : task.phase.generation = some generation := by
      rcases hbefore with hbefore | hbefore <;> rw [hbefore] <;> rfl
    have hnew : next.phase.generation = some { generation with readers } := by
      rcases hphase with hphase | hphase <;> rw [hphase] <;> rfl
    exact .kept hserver.1 hold hnew rfl
  | @leave generation ending hserver _ hbefore hphase =>
    have hold : task.phase.generation = some generation := congrArg _ hbefore
    exact .kept hserver.1 hold (congrArg _ hphase) rfl

end Moves

section Tasks

/-- The devices of the generation a task is in. -/
def devicesOf (sender : PublishingTask) : List EntityTopicId :=
  (sender.task.phase.generation.elim [] (·.applied)).map (·.entity)

/-- A reader publishes for these devices only. -/
structure Bound (devices : List EntityTopicId) (reader : PublishingReader) : Prop where
  publishers : ∀ publisher ∈ reader.publishers, publisher.entity ∈ devices
  outbox : ∀ message ∈ reader.outbox, ∃ device ∈ devices, OnChannel device message

/-- What a task has to enqueue is covered, and behind it the server and its devices
are registered. -/
structure Announced (config : Config) (log : List Publish) (sender : PublishingTask) : Prop where
  admitted : Admitted (Covered config) log sender.outbox
  server : Registered (log ++ sender.outbox) (serverEntity sender.task.server)
  devices : ∀ device ∈ devicesOf sender, Registered (log ++ sender.outbox) device

/-- Nothing is asked of the outbox once the queue is closed. -/
structure TaskInv (config : Config) (closed : Bool) (log : List Publish) (sender : PublishingTask) : Prop where
  addressed : ∀ device ∈ devicesOf sender, Addressed config device
  bound : ∀ reader ∈ sender.readers, Bound (devicesOf sender) reader
  announced : closed = false → Announced config log sender

variable {codec : TextCodec} {render : Rendering} {config : Config} {channel : Channel (List LoadedDeviceType)}
  {closed : Bool} {log log' : List Publish} {sender next : PublishingTask}

theorem Announced.mono (hsub : log ⊆ log') (h : Announced config log sender) : Announced config log' sender := by
  have happend : log ++ sender.outbox ⊆ log' ++ sender.outbox := by
    intro message hmem
    rcases List.mem_append.mp hmem with hmem | hmem
    · exact List.mem_append_left _ (hsub hmem)
    · exact List.mem_append_right _ hmem
  exact ⟨h.admitted.mono (Covered.persistent config) hsub, h.server.mono happend,
    fun device hmem => (h.devices device hmem).mono happend⟩

/-- Other tasks enqueue, or the queue is closed. -/
theorem TaskInv.mono {closed' : Bool} (hclosed : closed' = false → closed = false) (hsub : log ⊆ log')
    (h : TaskInv config closed log sender) : TaskInv config closed' log' sender :=
  ⟨h.addressed, h.bound, fun hopen => (h.announced (hclosed hopen)).mono hsub⟩

theorem taskInv_spawn (server : ServerConfig) (known_server_ids : List String) (device_types : Receiver)
    (hparent : closed = false → ParentKnown log (parent_entity config)) :
    TaskInv config closed log (.spawn config server known_server_ids device_types) where
  addressed := fun _ hmem => absurd hmem List.not_mem_nil
  bound := fun _ hmem => absurd hmem List.not_mem_nil
  announced := by
    intro hopen
    have hregisters := registers_server config server
    refine ⟨?_, ?_, fun _ hmem => absurd hmem List.not_mem_nil⟩
    · exact admitted_singleton.mpr (.registration (addressed_serverEntity server) hregisters (hparent hopen))
    · exact hregisters.registered (List.mem_append_right _ (List.mem_singleton_self _))

theorem mem_entity_newGeneration {server : ServerConfig} {known_server_ids : List String} {connection : Connection}
    {current : List LoadedDeviceType} {device : AppliedDeviceType}
    (hmem : device ∈ (newGeneration codec config server known_server_ids connection current).applied) :
    Addressed config device.entity := by
  simp only [newGeneration] at hmem
  split at hmem
  · obtain ⟨mapping, -, rfl⟩ := List.mem_map.mp hmem
    exact addressed_deviceEntity server _
  · cases hmem

/-- A reader is spawned with publishers for devices of its generation. -/
theorem bound_spawn {applied : List AppliedDeviceType} {connection : Connection} {task : ReaderTask}
    (htask : task ∈ startReaders config.subscription connection applied) :
    Bound (applied.map (·.entity)) (.spawn task) where
  publishers := by
    intro publisher hpublisher
    rw [startReaders, List.mem_append] at htask
    rcases htask with htask | htask
    · obtain ⟨routes, hroutes, rfl⟩ := Option.map_eq_some_iff.mp (Option.mem_toList.mp htask)
      obtain ⟨entity, hentity, rfl⟩ := List.mem_map.mp hpublisher
      obtain ⟨target, htarget, rfl⟩ := List.mem_map.mp (List.mem_dedup.mp hentity)
      obtain ⟨device, hdevice, hsame⟩ := device_of_route hroutes htarget
      exact List.mem_map.mpr ⟨device, hdevice, hsame⟩
    · obtain ⟨device, hdevice, hloop⟩ := List.mem_flatMap.mp htask
      obtain ⟨group, -, rfl⟩ := List.mem_map.mp hloop
      rw [List.mem_singleton.mp hpublisher]
      exact List.mem_map.mpr ⟨device, hdevice, rfl⟩
  outbox := fun _ hmem => absurd hmem List.not_mem_nil

/-- What a call publishes belongs to the device of its publisher. -/
theorem Bound.call {devices : List EntityTopicId} {reader moved : PublishingReader} {call : PublisherCall}
    (h : Bound devices reader) (hcall : reader.call render call = some moved) : Bound devices moved := by
  have hresult : ∀ (index : Nat) (publisher : Publisher) (result : Publisher × List Publish),
      reader.publishers[index]? = some publisher → Confined publisher result →
      Bound devices { reader with publishers := reader.publishers.set index result.1, outbox := result.2 } := by
    intro index publisher result hpublisher hconfined
    have hdevice := h.publishers publisher (List.mem_of_getElem? hpublisher)
    refine ⟨fun other hmem => ?_, fun message hmem => ⟨_, hdevice, hconfined.messages message hmem⟩⟩
    rcases List.mem_or_eq_of_mem_set hmem with hmem | rfl
    · exact h.publishers other hmem
    · rwa [hconfined.entity]
  cases call with
  | accept source data_value clock =>
    simp only [PublishingReader.call, Option.bind_eq_bind, Option.bind_eq_some_iff, when_eq_some] at hcall
    obtain ⟨⟨entity, node⟩, -, index, -, publisher, hpublisher, -, rfl⟩ := hcall
    exact hresult index publisher _ hpublisher (accept_confined render node data_value clock)
  | flush index now =>
    simp only [PublishingReader.call, Option.bind_eq_bind, Option.bind_eq_some_iff, when_eq_some] at hcall
    obtain ⟨publisher, hpublisher, -, rfl⟩ := hcall
    exact hresult index publisher _ hpublisher (flush_confined render now)

theorem devicesOf_eq_nil (h : sender.task.phase.generation = none) : devicesOf sender = [] := by
  rw [devicesOf, h]
  rfl

theorem devicesOf_eq {generation : Generation} (h : sender.task.phase.generation = some generation) :
    devicesOf sender = generation.applied.map (·.entity) := by
  rw [devicesOf, h]
  rfl

/-- The task moves on with the same devices. -/
theorem TaskInv.withTask (h : TaskInv config closed log sender) {moved : ServerTask}
    (hserver : moved.server = sender.task.server) (hdevices : devicesOf { sender with task := moved } = devicesOf sender) :
    TaskInv config closed log { sender with task := moved } where
  addressed := by
    rw [hdevices]
    exact h.addressed
  bound := by
    rw [hdevices]
    exact h.bound
  announced := by
    intro hopen
    have hannounced := h.announced hopen
    refine ⟨hannounced.admitted, ?_, ?_⟩
    · dsimp only
      rw [hserver]
      exact hannounced.server
    · rw [hdevices]
      exact hannounced.devices

theorem TaskInv.leave (h : TaskInv config closed log sender) {moved : ServerTask}
    (hserver : moved.server = sender.task.server) (hnone : moved.phase.generation = none) :
    TaskInv config closed log { sender with task := moved, readers := [] } := by
  have hdevices : devicesOf { sender with task := moved, readers := [] } = [] := devicesOf_eq_nil hnone
  refine ⟨?_, fun _ hmem => absurd hmem List.not_mem_nil, fun hopen => ?_⟩
  · simp [hdevices]
  · have hannounced := h.announced hopen
    refine ⟨hannounced.admitted, ?_, by simp [hdevices]⟩
    dsimp only
    rw [hserver]
    exact hannounced.server

/-- A task enters a generation when its server is registered, and announces the
devices before the readers start. -/
theorem TaskInv.enter (h : TaskInv config closed log sender) (hempty : sender.outbox = []) {moved : ServerTask}
    (hserver : moved.server = sender.task.server) {connection : Connection} {current : List LoadedDeviceType}
    (hgeneration : moved.phase.generation =
      some (newGeneration codec config moved.server sender.task.known_server_ids connection current)) :
    let generation := newGeneration codec config moved.server sender.task.known_server_ids connection current
    TaskInv config closed log {
      task := moved
      outbox := registerDevices config moved.server generation.applied
      readers := generation.readers.map fun reader => .spawn reader.task } := by
  intro generation
  have haddressed : ∀ device ∈ generation.applied, Addressed config device.entity :=
    fun device hmem => mem_entity_newGeneration hmem
  refine ⟨?_, ?_, fun hopen => ?_⟩
  · rw [devicesOf_eq hgeneration]
    intro entity hmem
    obtain ⟨device, hdevice, rfl⟩ := List.mem_map.mp hmem
    exact haddressed device hdevice
  · rw [devicesOf_eq hgeneration]
    intro publishing hmem
    obtain ⟨reader, hreader, rfl⟩ := List.mem_map.mp hmem
    obtain ⟨task, htask, rfl⟩ := List.mem_map.mp hreader
    exact bound_spawn htask
  · have hregistered := (h.announced hopen).server
    rw [hempty, List.append_nil, ← hserver] at hregistered
    refine ⟨admitted_registerDevices hregistered haddressed, ?_, ?_⟩
    · exact hregistered.mono (List.subset_append_left _ _)
    · rw [devicesOf_eq hgeneration]
      intro entity hmem
      obtain ⟨device, hdevice, rfl⟩ := List.mem_map.mp hmem
      exact (registered_registerDevices hdevice).mono (List.subset_append_right _ _)

theorem TaskInv.step (h : TaskInv config closed log sender) {label : StepLabel}
    (hstep : sender.step codec config channel label = some next) : TaskInv config closed log next := by
  obtain ⟨moved, hmoved, rfl, hwaiting⟩ := publishingStep_eq_some hstep
  unfold PublishingTask.follow
  cases generationMove_of_step hmoved with
  | gone hserver hnone =>
    rw [hnone]
    cases hbefore : sender.task.phase.generation with
    | none =>
      have hdevices : devicesOf { sender with task := moved } = devicesOf sender := by
        rw [devicesOf_eq_nil hnone, devicesOf_eq_nil hbefore]
      exact h.withTask hserver hdevices
    | some generation => exact h.leave hserver hnone
  | kept hserver hbefore hafter happlied =>
    rw [hbefore, hafter]
    have hdevices : devicesOf { sender with task := moved } = devicesOf sender := by
      rw [devicesOf_eq hbefore, devicesOf_eq hafter, happlied]
    exact h.withTask hserver hdevices
  | begun hserver hnone hafter =>
    have hempty : sender.outbox = [] := by
      refine hwaiting.resolve_right fun hphase => ?_
      rw [hphase, hnone] at hafter
      cases hafter
    rw [hnone, hafter]
    rw [← hserver] at hafter ⊢
    exact h.enter hempty hserver hafter

theorem TaskInv.setReader (h : TaskInv config closed log sender) {index : Nat} {reader : PublishingReader}
    (hbound : Bound (devicesOf sender) reader) :
    TaskInv config closed log { sender with readers := sender.readers.set index reader } where
  addressed := h.addressed
  bound := by
    intro other hmem
    rcases List.mem_or_eq_of_mem_set hmem with hmem | rfl
    · exact h.bound other hmem
    · exact hbound
  announced := fun hopen => ⟨(h.announced hopen).admitted, (h.announced hopen).server, (h.announced hopen).devices⟩

/-- What the task has enqueued itself has moved from its outbox into the log. -/
theorem TaskInv.enqueued (h : TaskInv config closed log sender) {message : Publish} {rest : List Publish}
    (houtbox : sender.outbox = message :: rest) :
    TaskInv config closed (if closed then log else log ++ [message]) { sender with outbox := rest } where
  addressed := h.addressed
  bound := h.bound
  announced := by
    intro hopen
    have hannounced := h.announced hopen
    have hlog : log ++ sender.outbox = log ++ [message] ++ rest := by rw [houtbox, List.append_cons]
    have hadmitted := hannounced.admitted
    rw [houtbox] at hadmitted
    rw [hopen]
    refine ⟨hadmitted.2, ?_, ?_⟩
    · exact hlog ▸ hannounced.server
    · exact hlog ▸ hannounced.devices

end Tasks

section Run

variable {codec : TextCodec} {render : Rendering} {config : Config} {pid unix_time : Nat} {version : String}
  {state next : Process}

/-- Every message of the log is covered by those before it, and every outbox by the
log. -/
structure ProcessInv (config : Config) (pid unix_time : Nat) (version : String) (state : Process) : Prop where
  admitted : Admitted (Covered config) [] state.log
  starting : ∀ index, state.main = .starting index → state.tasks = [] ∧
    (state.closed = false → state.log = (main.startupPublishes config pid unix_time version).take index)
  parent : state.main = .running → state.closed = false → ParentKnown state.log (parent_entity config)
  tasks : ∀ sender ∈ state.tasks, TaskInv config state.closed state.log sender

@[simp] theorem enqueue_log (message : Publish) :
    (state.enqueue message).log = if state.closed then state.log else state.log ++ [message] := by
  unfold Process.enqueue
  split <;> rfl

@[simp] theorem enqueue_closed (message : Publish) : (state.enqueue message).closed = state.closed := by
  unfold Process.enqueue
  split <;> rfl

@[simp] theorem enqueue_main (message : Publish) : (state.enqueue message).main = state.main := by
  unfold Process.enqueue
  split <;> rfl

@[simp] theorem enqueue_tasks (message : Publish) : (state.enqueue message).tasks = state.tasks := by
  unfold Process.enqueue
  split <;> rfl

theorem subset_enqueue (before : Process) (message : Publish) : before.log ⊆ (before.enqueue message).log := by
  rw [enqueue_log]
  split
  · exact List.Subset.refl _
  · exact List.subset_append_left _ _

/-- A covered message is enqueued once the tasks are spawned. -/
theorem ProcessInv.enqueue (h : ProcessInv config pid unix_time version state)
    (hmain : ∀ index, state.main ≠ .starting index) {message : Publish}
    (hcovered : state.closed = false → Covered config state.log message) {tasks : List PublishingTask}
    (htasks : ∀ sender ∈ tasks, TaskInv config state.closed (state.enqueue message).log sender) :
    ProcessInv config pid unix_time version ({ state with tasks }.enqueue message) where
  admitted := by
    rw [enqueue_log]
    split
    · exact h.admitted
    · rename_i hopen
      exact h.admitted.append_singleton (hcovered (by simpa using hopen))
  starting := by
    intro index hstarting
    rw [enqueue_main] at hstarting
    exact absurd hstarting (hmain index)
  parent := by
    rw [enqueue_main, enqueue_closed]
    intro hrunning hopen
    have hsub : state.log ⊆ ({ state with tasks }.enqueue message).log := subset_enqueue { state with tasks } message
    exact (h.parent hrunning hopen).imp_right fun hregistered => hregistered.mono hsub
  tasks := by
    rw [enqueue_closed, enqueue_tasks]
    rw [enqueue_log] at htasks ⊢
    exact htasks

/-- A task moves without anything being enqueued. -/
theorem ProcessInv.setTask (h : ProcessInv config pid unix_time version state) {index : Nat} {sender moved : PublishingTask}
    (hsender : state.tasks[index]? = some sender) (hmoved : TaskInv config state.closed state.log moved) :
    ProcessInv config pid unix_time version { state with tasks := state.tasks.set index moved } where
  admitted := h.admitted
  starting := by
    intro place hstarting
    obtain ⟨hnone, -⟩ := h.starting place hstarting
    rw [hnone] at hsender
    cases hsender
  parent := h.parent
  tasks := by
    intro other hmem
    rcases List.mem_or_eq_of_mem_set hmem with hmem | rfl
    · exact h.tasks other hmem
    · exact hmoved

/-- While there are tasks, the startup is over. -/
theorem ProcessInv.not_starting (h : ProcessInv config pid unix_time version state) {index : Nat}
    {sender : PublishingTask} (hsender : state.tasks[index]? = some sender) (place : Nat) :
    state.main ≠ .starting place := by
  intro hstarting
  rw [(h.starting place hstarting).1] at hsender
  cases hsender

theorem parentKnown_startupPublishes :
    ParentKnown (main.startupPublishes config pid unix_time version) (parent_entity config) := by
  unfold parent_entity
  split
  · rename_i henabled
    exact Or.inr (registered_gateway henabled)
  · exact Or.inl rfl

theorem ProcessInv.startup (h : ProcessInv config pid unix_time version state)
    (hstep : startupStep config pid unix_time version state = some next) :
    ProcessInv config pid unix_time version next := by
  unfold startupStep at hstep
  split at hstep
  · rename_i index hmain
    obtain ⟨hnone, hlog⟩ := h.starting index hmain
    split at hstep
    · rename_i hdone
      cases hstep
      refine ⟨h.admitted, nofun, fun _ hopen => ?_, h.tasks⟩
      have hlength := List.getElem?_eq_none_iff.mp hdone
      dsimp only
      rw [hlog hopen, List.take_of_length_le hlength]
      exact parentKnown_startupPublishes
    · rename_i message hmessage
      split at hstep
      · rename_i hclosed
        cases hstep
        refine ⟨h.admitted, fun _ _ => ⟨hnone, ?_⟩, fun _ => ?_, h.tasks⟩
        · simp [hclosed]
        · simp [hclosed]
      · rename_i hopen
        cases hstep
        have hopen : state.closed = false := by simpa using hopen
        obtain ⟨hbound, hat⟩ := List.getElem?_eq_some_iff.mp hmessage
        have hsplit : (main.startupPublishes config pid unix_time version).take index ++
            message :: (main.startupPublishes config pid unix_time version).drop (index + 1) =
            main.startupPublishes config pid unix_time version := by
          rw [← hat, List.getElem_cons_drop, List.take_append_drop]
        have hadmitted := admitted_startupPublishes config pid unix_time version
        rw [← hsplit] at hadmitted
        refine ⟨?_, ?_, ?_, ?_⟩
        · rw [enqueue_log, if_neg (by simp [hopen])]
          refine h.admitted.append_singleton ?_
          rw [hlog hopen]
          exact hadmitted.at_split
        · intro place hplace
          rw [enqueue_main] at hplace
          cases hplace
          refine ⟨by simpa using hnone, fun _ => ?_⟩
          rw [enqueue_log, if_neg (by simp [hopen])]
          dsimp only
          rw [hlog hopen, List.take_add_one, hmessage]
          rfl
        · intro hrunning
          simp at hrunning
        · simp [hnone]
  · cases hstep

/-- A task enqueues the next message of its own, which its outbox is known to be
covered for. -/
theorem ProcessInv.enqueueOwn (h : ProcessInv config pid unix_time version state) {index : Nat}
    (hstep : state.enqueueOwn index = some next) : ProcessInv config pid unix_time version next := by
  unfold Process.enqueueOwn at hstep
  obtain ⟨sender, hsender, hstep⟩ := Option.bind_eq_some_iff.mp hstep
  split at hstep
  · cases hstep
  · rename_i message rest houtbox
    cases hstep
    have htask := h.tasks sender (List.mem_of_getElem? hsender)
    apply h.enqueue (h.not_starting hsender)
    · intro hopen
      have hadmitted := (htask.announced hopen).admitted
      rw [houtbox] at hadmitted
      exact hadmitted.1
    · intro other hmem
      rcases List.mem_or_eq_of_mem_set hmem with hmem | rfl
      · exact (h.tasks other hmem).mono id (subset_enqueue state message)
      · rw [enqueue_log]
        exact htask.enqueued houtbox

/-- What a reader enqueues belongs to a device that is registered, since the task has
nothing left to enqueue in front of it. -/
theorem ProcessInv.enqueueRead (h : ProcessInv config pid unix_time version state) {index reader : Nat}
    (hstep : state.enqueueRead index reader = some next) : ProcessInv config pid unix_time version next := by
  unfold Process.enqueueRead at hstep
  obtain ⟨sender, hsender, hstep⟩ := Option.bind_eq_some_iff.mp hstep
  obtain ⟨publishing, hpublishing, hstep⟩ := Option.bind_eq_some_iff.mp hstep
  split at hstep
  · cases hstep
  · rename_i message rest houtbox
    obtain ⟨hruns, rfl⟩ := when_eq_some.mp hstep
    have htask := h.tasks sender (List.mem_of_getElem? hsender)
    have hbound := htask.bound publishing (List.mem_of_getElem? hpublishing)
    have hempty : sender.outbox = [] := by
      simp only [PublishingTask.readerRuns, Bool.and_eq_true, List.isEmpty_iff] at hruns
      exact hruns.1
    apply h.enqueue (h.not_starting hsender)
    · intro hopen
      have hmessage : message ∈ publishing.outbox := by rw [houtbox]; exact List.mem_cons_self
      obtain ⟨device, hdevice, hchannel⟩ := hbound.outbox message hmessage
      have hregistered := (htask.announced hopen).devices device hdevice
      rw [hempty, List.append_nil] at hregistered
      exact .channel (htask.addressed device hdevice) hchannel hregistered
    · intro other hmem
      rcases List.mem_or_eq_of_mem_set hmem with hmem | rfl
      · exact (h.tasks other hmem).mono id (subset_enqueue state message)
      · have hrest : Bound (devicesOf sender) { publishing with outbox := rest } := by
          refine ⟨hbound.publishers, fun other hmem => hbound.outbox other ?_⟩
          rw [houtbox]
          exact List.mem_cons_of_mem _ hmem
        exact (htask.mono id (subset_enqueue state message)).setReader hrest

theorem ProcessInv.step (h : ProcessInv config pid unix_time version state) {label : Label}
    (hstep : step codec render config pid unix_time version state label = some next) :
    ProcessInv config pid unix_time version next := by
  cases label with
  | queueClosed =>
    cases hstep
    refine ⟨h.admitted, fun index hmain => ⟨(h.starting index hmain).1, nofun⟩, fun _ => nofun, fun sender hmem => ?_⟩
    exact (h.tasks sender hmem).mono nofun (List.Subset.refl _)
  | startup => exact h.startup hstep
  | sent device_types =>
    obtain ⟨-, rfl⟩ := when_eq_some.mp hstep
    exact ⟨h.admitted, h.starting, h.parent, h.tasks⟩
  | senderDropped =>
    obtain ⟨-, rfl⟩ := when_eq_some.mp hstep
    exact ⟨h.admitted, h.starting, h.parent, h.tasks⟩
  | operation external_id record =>
    obtain ⟨⟨hrunning, -⟩, rfl⟩ := when_eq_some.mp hstep
    have hstarted : ∀ index, state.main ≠ .starting index := by simp [hrunning]
    exact h.enqueue hstarted (fun _ => .elsewhere (smartrest_not_under external_id)) fun sender hmem =>
      (h.tasks sender hmem).mono id (subset_enqueue state _)
  | spawned server known_server_ids =>
    obtain ⟨hrunning, rfl⟩ := when_eq_some.mp hstep
    refine ⟨h.admitted, fun index hmain => ?_, h.parent, fun sender hmem => ?_⟩
    · rw [hrunning] at hmain
      cases hmain
    · rcases List.mem_append.mp hmem with hmem | hmem
      · exact h.tasks sender hmem
      · rw [List.mem_singleton.mp hmem]
        exact taskInv_spawn server known_server_ids _ (h.parent hrunning)
  | task index label =>
    simp only [process.step, Option.bind_eq_bind, Option.bind_eq_some_iff] at hstep
    obtain ⟨sender, hsender, moved, hmoved, hnext⟩ := hstep
    cases hnext
    exact h.setTask hsender ((h.tasks sender (List.mem_of_getElem? hsender)).step hmoved)
  | enqueueOwn index => exact h.enqueueOwn hstep
  | reader index reader call =>
    simp only [process.step, Option.bind_eq_bind, Option.bind_eq_some_iff, when_eq_some] at hstep
    obtain ⟨sender, hsender, publishing, hpublishing, moved, hmoved, -, rfl⟩ := hstep
    have htask := h.tasks sender (List.mem_of_getElem? hsender)
    have hbound := htask.bound publishing (List.mem_of_getElem? hpublishing)
    exact h.setTask hsender (htask.setReader (hbound.call hmoved))
  | enqueueRead index reader => exact h.enqueueRead hstep

theorem processInv_start (hstart : (run codec render config pid unix_time version).start state) :
    ProcessInv config pid unix_time version state := by
  obtain ⟨hclosed, hempty, hmain, -, -, htasks⟩ := hstart
  refine ⟨?_, ?_, ?_, ?_⟩
  · rw [hempty]
    trivial
  · intro index hstarting
    rw [hmain] at hstarting
    cases hstarting
    exact ⟨htasks, fun _ => hempty⟩
  · intro hrunning
    rw [hmain] at hrunning
    cases hrunning
  · simp [htasks]

variable (codec render config pid unix_time version)

/-- Registration precedes data: the first message that is enqueued under an entity's
prefix is the entity's registration, behind that of the parent it names. -/
theorem registration_precedes_data (h : (run codec render config pid unix_time version).Reachable state)
    {before after : List Publish} {message : Publish} (hlog : state.log = before ++ message :: after)
    {entity : EntityTopicId} (haddressed : Addressed config entity) (hunder : Under entity message.topic)
    (hfirst : ∀ earlier ∈ before, ¬ Under entity earlier.topic) :
    ∃ parent, Registers entity parent message ∧ (parent = .main_device ∨ Registered before parent) := by
  have hinv : ProcessInv config pid unix_time version state :=
    h.invariant (ProcessInv config pid unix_time version) (fun _ hstart => processInv_start hstart)
      fun _ _ _ hinv _ hstep => hinv.step hstep
  have hadmitted := hinv.admitted
  rw [hlog] at hadmitted
  exact hadmitted.at_split.first haddressed hunder hfirst

end Run

/-- The process comes up, and a server that appears has one device type applied. -/
def pumpRun : List Label :=
  List.replicate 7 .startup ++ [.sent [sampleDeviceType], .spawned (sampleServer "b") ["b"], .enqueueOwn 0,
    .task 0 .proceed, .task 0 .proceed, .task 0 (.connected refusingConnection), .task 0 .proceed, .task 0 .proceed,
    .enqueueOwn 0]

def Process.initial : Process := ⟨false, [], .starting 0, ⟨[], [], false⟩, ⟨0⟩, []⟩

/-- What is enqueued before the device of the device type is registered. -/
def beforePump : List Publish :=
  main.startupPublishes .default 1 0 "0.1.0" ++ [registerServer .default (sampleServer "b")]

/-- The device of the device type hangs below the server, which hangs below the
gateway device. -/
theorem registration_precedes_data_of_pump :
    ∃ state message, (run plainCodec plainRendering .default 1 0 "0.1.0").Reachable state ∧
      state.log = beforePump ++ [message] ∧
      ∃ parent, Registers (deviceEntity (sampleServer "b") "pump") parent message ∧
        (parent = .main_device ∨ Registered beforePump parent) := by
  obtain ⟨state, hrun, message, hlog, hunder⟩ :
      ∃ state, (run plainCodec plainRendering .default 1 0 "0.1.0").exec .initial pumpRun = some state ∧
        ∃ message, state.log = beforePump ++ [message] ∧
          Under (deviceEntity (sampleServer "b") "pump") message.topic :=
    ⟨_, rfl, _, rfl, by decide +kernel⟩
  have hreach : (run plainCodec plainRendering .default 1 0 "0.1.0").Reachable state :=
    Machine.Reachable.exec (.start ⟨rfl, rfl, rfl, rfl, rfl, rfl⟩) hrun
  have hfirst : ∀ earlier ∈ beforePump, ¬ Under (deviceEntity (sampleServer "b") "pump") earlier.topic := by
    decide +kernel
  exact ⟨state, message, hreach, hlog, registration_precedes_data plainCodec plainRendering .default 1 0 "0.1.0" hreach
    hlog (addressed_deviceEntity _ _) hunder hfirst⟩

end gateway.process
