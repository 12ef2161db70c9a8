import OpcuaGateway.Gateway.DeviceTypes.Pushed
import OpcuaGateway.Gateway.ServerTask.Updates

open transition watch ordered_map text mapping.source mapping.namespace_table gateway.config gateway.server_task
  opcua_conn tedge.proxy

namespace gateway.device_types

/-- The provider with the channel that it sends on and the tasks that read from it. -/
structure Catalogue where
  provider : ProviderState
  system : System

inductive CatalogueLabel where
  | provider (label : ProviderLabel)
  | spawned (server : ServerConfig) (known_server_ids : List String)
  | task (index : Nat) (label : StepLabel)

/-- The set that a step of the provider sends. -/
def sends (state : ProviderState) : ProviderLabel → Option (List LoadedDeviceType)
  | .compared true =>
    match state.phase with
    | .readText _ _ [] loaded =>
      let merged := merge state.pulled (sortById loaded)
      if (RevisionDiff.between state.revision (mapping.source.revision merged)).is_empty then none else some merged
    | _ => none
  | _ => none

/-- The channel after a step of the provider, which drops the sender when it returns. -/
def transmit (channel : Channel (List LoadedDeviceType)) (state next : ProviderState) (label : ProviderLabel) :
    Channel (List LoadedDeviceType) :=
  let sent := (sends state label).elim channel channel.send
  if next.phase = .finished then sent.close else sent

section Machine

variable (codec : TextCodec) (config : Config) (decoder : Decoder)

def catalogueStep (state : Catalogue) : CatalogueLabel → Option Catalogue
  | .provider label =>
    (runStep config decoder state.provider label).map fun provider =>
      { provider, system := { state.system with channel := transmit state.system.channel state.provider provider label } }
  | .spawned server known_server_ids =>
    (systemStep codec config state.system (.spawned server known_server_ids)).map fun system => { state with system }
  | .task index label =>
    (systemStep codec config state.system (.task index label)).map fun system => { state with system }

/-- From the mapping directory and the inventory to the server tasks. -/
def catalogue : Machine Catalogue CatalogueLabel where
  start state := (run config decoder).start state.provider ∧ (system codec config).start state.system
  step := catalogueStep codec config decoder

/-- No write comes between the two reads of a file, or none that matters. -/
def Untorn (state : Catalogue) (label : CatalogueLabel) : Prop :=
  ∀ own, label = .provider own → NotTorn decoder state.provider own

end Machine

section Provider

variable {config : Config} {decoder : Decoder} {state next : ProviderState} {label : ProviderLabel}

/-- The revision is that of the last poll: of what was fetched last, and of the directory
as it is unless a file was written since. -/
def Current (decoder : Decoder) (state : ProviderState) : Prop :=
  ∀ listed delay, state.phase = .waiting listed delay → state.written = false →
    state.revision = revision (merge state.pulled (directoryNow decoder state.files listed))

theorem current_of_not_waiting (h : ∀ listed delay, state.phase ≠ .waiting listed delay) : Current decoder state :=
  fun listed delay hphase => absurd hphase (h listed delay)

theorem current_of_written (h : state.written = true) : Current decoder state := by
  intro listed delay _ hwritten
  rw [h] at hwritten
  cases hwritten

theorem current_of_compare (hinv : ProviderInv decoder state) {consumers : Bool}
    (hstep : compare state consumers = some next) : Current decoder next := by
  unfold gateway.device_types.compare at hstep
  split at hstep
  · rename_i delay read loaded hphase
    have hread : state.written = false → loaded = read.filterMap (loadNow decoder state.files) := by
      intro hwritten
      have hsnapshot := hinv.snapshot hwritten
      simp only [Snapshot, hphase, List.append_nil] at hsnapshot
      exact hsnapshot.2
    dsimp only at hstep
    split at hstep
    · rename_i hsame
      cases hstep
      intro listed delay' hwaiting hwritten
      cases hwaiting
      rw [directoryNow, ← hread hwritten]
      exact is_empty_between_iff.mp hsame
    · split at hstep
      · cases hstep
        intro listed delay' hwaiting hwritten
        cases hwaiting
        rw [directoryNow, ← hread hwritten]
      · cases hstep
        exact current_of_not_waiting (by simp)
  · cases hstep

theorem current_of_onFetch (outcome : Option (Except ProxyError (List ManagedObject))) :
    Current decoder (onFetch config state outcome) := by
  apply current_of_not_waiting
  intro listed delay
  unfold onFetch
  split
  · simp
  · simp
  · split <;> simp

theorem current_of_readNext (hstep : readNext decoder state = some next) : Current decoder next := by
  unfold readNext at hstep
  split at hstep
  · split at hstep <;> cases hstep <;> exact current_of_not_waiting (by simp)
  · cases hstep
    exact current_of_not_waiting (by simp)
  · cases hstep

theorem Current.step (hinv : ProviderInv decoder state) (hstep : runStep config decoder state label = some next) :
    Current decoder next := by
  cases label with
  | wrote name file =>
    obtain ⟨-, rfl⟩ := when_eq_some.mp hstep
    exact current_of_written rfl
  | removed name =>
    cases hstep
    exact current_of_written rfl
  | fetched outcome =>
    obtain ⟨-, rfl⟩ := when_eq_some.mp hstep
    exact current_of_onFetch outcome
  | listed names =>
    simp only [runStep] at hstep
    split at hstep
    · obtain ⟨-, rfl⟩ := when_eq_some.mp hstep
      exact current_of_not_waiting (by simp)
    · cases hstep
  | advance => exact current_of_readNext hstep
  | compared consumers => exact current_of_compare hinv hstep
  | slept =>
    simp only [runStep] at hstep
    split at hstep
    · cases hstep
      exact current_of_not_waiting (by simp)
    · cases hstep
  | cancelled =>
    simp only [runStep] at hstep
    split at hstep
    · cases hstep
      exact current_of_not_waiting (by simp)
    · cases hstep

theorem sent_of_compare {consumers : Bool} (hstep : compare state consumers = some next) :
    next.sent = (sends state (.compared consumers)).getD state.sent := by
  unfold gateway.device_types.compare at hstep
  split at hstep
  · rename_i delay read loaded hphase
    dsimp only at hstep
    split at hstep
    · rename_i hsame
      cases hstep
      cases consumers <;> simp [sends, hphase, hsame]
    · rename_i hdiffers
      split at hstep
      · rename_i hconsumers
        cases hstep
        simp [sends, hphase, hconsumers, hdiffers]
      · rename_i hconsumers
        cases hstep
        have hnone : consumers = false := eq_false_of_ne_true hconsumers
        simp [sends, hnone]
  · cases hstep

/-- The set remembered as sent is the one that was. -/
theorem sent_of_runStep (hstep : runStep config decoder state label = some next) :
    next.sent = (sends state label).getD state.sent := by
  cases label with
  | wrote name file =>
    obtain ⟨-, rfl⟩ := when_eq_some.mp hstep
    rfl
  | removed name =>
    cases hstep
    rfl
  | fetched outcome =>
    obtain ⟨-, rfl⟩ := when_eq_some.mp hstep
    unfold onFetch
    split
    · rfl
    · rfl
    · split <;> rfl
  | listed names =>
    simp only [runStep] at hstep
    split at hstep
    · obtain ⟨-, rfl⟩ := when_eq_some.mp hstep
      rfl
    · cases hstep
  | advance =>
    change readNext decoder state = some next at hstep
    unfold readNext at hstep
    split at hstep
    · split at hstep <;> cases hstep <;> rfl
    · cases hstep
      rfl
    · cases hstep
  | compared consumers => exact sent_of_compare hstep
  | slept | cancelled =>
    simp only [runStep] at hstep
    split at hstep
    · cases hstep
      rfl
    · cases hstep

end Provider

section Tasks

variable {codec : TextCodec} {config : Config} {decoder : Decoder}

/-- A generation is what the set that it holds comes to: its devices are those that the set
resolves to on its session, and its readers are the ones that these devices take. -/
def Made (codec : TextCodec) (config : Config) (task : ServerTask) (generation : Generation) : Prop :=
  let made := newGeneration codec config task.server task.known_server_ids generation.connection generation.resolvedFrom
  generation.applied = made.applied ∧ generation.readers.map (·.task) = made.readers.map (·.task)

/-- What a task serves was made of the set that it holds. -/
def Built (codec : TextCodec) (config : Config) (task : ServerTask) : Prop :=
  ∀ generation, task.phase = .starting generation ∨ task.phase = .steady generation →
    Made codec config task generation

theorem Made.congr {task next : ServerTask} {generation : Generation} (h : Made codec config task generation)
    (hserver : SpawnedFor task next) : Made codec config next generation := by
  unfold Made at h ⊢
  rw [hserver.1, hserver.2]
  exact h

/-- Readers take their turns. -/
theorem Made.turned {task : ServerTask} {generation : Generation} (h : Made codec config task generation)
    {readers : List Reader} (hreaders : readers.map (·.task) = generation.readers.map (·.task)) :
    Made codec config task { generation with readers } := ⟨h.1, hreaders.trans h.2⟩

theorem built_of_not_serving {task : ServerTask} (hstarting : ∀ generation, task.phase ≠ .starting generation)
    (hsteady : ∀ generation, task.phase ≠ .steady generation) : Built codec config task := by
  rintro generation (hphase | hphase)
  · exact absurd hphase (hstarting generation)
  · exact absurd hphase (hsteady generation)

theorem Built.step {channel : Channel (List LoadedDeviceType)} {task next : ServerTask} {label : StepLabel}
    (h : Built codec config task) (hstep : task.step codec config channel label = some next) :
    Built codec config next := by
  cases taskMove_of_step hstep with
  | stay hserver _ hphase =>
    intro generation hserving
    rw [hphase] at hserving
    exact (h generation hserving).congr hserver
  | idle _ _ _ hgeneration =>
    refine built_of_not_serving (fun generation hphase => ?_) fun generation hphase => ?_ <;>
      (rw [hphase] at hgeneration; cases hgeneration)
  | read _ _ hphase => exact built_of_not_serving (by simp [hphase]) (by simp [hphase])
  | resolve hserver _ _ hphase =>
    rintro generation (hserving | hserving)
    · rw [hphase] at hserving
      cases hserving
      exact Made.congr ⟨rfl, rfl⟩ hserver
    · rw [hphase] at hserving
      cases hserving
  | @serve before moved hserver _ hbefore hphase hsame =>
    obtain ⟨readers, rfl, hreaders⟩ := hsame
    intro generation hserving
    have hmoved : { before with readers } = generation := by
      rcases hphase with hphase | hphase <;> rcases hserving with hserving | hserving <;>
        rw [hphase] at hserving <;> cases hserving <;> rfl
    subst hmoved
    exact ((h before hbefore).turned hreaders).congr hserver
  | leave _ _ _ hphase => exact built_of_not_serving (by simp [hphase]) (by simp [hphase])

/-- The channel carries what the provider has sent last, every task has it or has still
to see it, and serves what it has. -/
structure CatalogueInv (codec : TextCodec) (config : Config) (decoder : Decoder) (state : Catalogue) : Prop where
  provider : ProviderInv decoder state.provider
  current : Current decoder state.provider
  system : SystemInv state.system
  value : state.system.channel.value = state.provider.sent
  built : ∀ task ∈ state.system.tasks, Built codec config task

theorem catalogueInv_start {state : Catalogue} (h : (catalogue codec config decoder).start state) :
    CatalogueInv codec config decoder state := by
  obtain ⟨hprovider, hchannel, hreceiver, htasks⟩ := h
  obtain ⟨-, -, -, -, -, -, hsent, hphase⟩ := id hprovider
  refine ⟨providerInv_start hprovider, current_of_not_waiting (by simp [hphase]),
    ⟨by simp [hreceiver], by simp [htasks]⟩, ?_, by simp [htasks]⟩
  rw [hchannel, hsent]
  rfl

theorem value_send (channel : Channel (List LoadedDeviceType)) (set : List LoadedDeviceType) :
    (channel.send set).value = set := by
  simp [Channel.value, Channel.send]

theorem value_transmit (channel : Channel (List LoadedDeviceType)) (state next : ProviderState) (label : ProviderLabel) :
    (transmit channel state next label).value = (sends state label).getD channel.value := by
  have hclose : ∀ other : Channel (List LoadedDeviceType),
      (if next.phase = .finished then other.close else other).value = other.value := by
    intro other
    split <;> rfl
  rw [transmit, hclose]
  cases sends state label with
  | none => rfl
  | some set => exact value_send channel set

theorem systemInv_transmit {system : System} (h : SystemInv system) (state next : ProviderState)
    (label : ProviderLabel) :
    SystemInv { system with channel := transmit system.channel state next label } := by
  have hsent : SystemInv { system with channel := (sends state label).elim system.channel system.channel.send } := by
    cases sends state label with
    | none => exact h
    | some set =>
      refine ⟨?_, fun task hmem => (h.held task hmem).send set⟩
      rw [Option.elim_some, Channel.version_send]
      exact Nat.le_succ_of_le h.seen
  unfold transmit
  dsimp only
  split
  · exact ⟨hsent.seen, fun task hmem => (hsent.held task hmem).close⟩
  · exact hsent

theorem CatalogueInv.step {state next : Catalogue} {label : CatalogueLabel}
    (h : CatalogueInv codec config decoder state) (hguard : Untorn decoder state label)
    (hstep : catalogueStep codec config decoder state label = some next) : CatalogueInv codec config decoder next := by
  cases label with
  | provider own =>
    obtain ⟨provider, hprovider, rfl⟩ := Option.map_eq_some_iff.mp hstep
    refine ⟨h.provider.step (hguard own rfl) hprovider, .step h.provider hprovider,
      systemInv_transmit h.system _ _ _, ?_, h.built⟩
    rw [value_transmit, h.value, sent_of_runStep hprovider]
  | spawned server known_server_ids =>
    simp only [catalogueStep, Option.map_eq_some_iff] at hstep
    obtain ⟨system, hsystem, rfl⟩ := hstep
    refine ⟨h.provider, h.current, h.system.step hsystem, ?_, fun task hmem => ?_⟩
    · cases hsystem
      exact h.value
    · cases hsystem
      rcases List.mem_append.mp hmem with hmem | hmem
      · exact h.built task hmem
      · obtain rfl := List.mem_singleton.mp hmem
        exact built_of_not_serving (by simp [ServerTask.spawn]) (by simp [ServerTask.spawn])
  | task index own =>
    simp only [catalogueStep, Option.map_eq_some_iff] at hstep
    obtain ⟨system, hsystem, rfl⟩ := hstep
    have hinv := h.system.step hsystem
    simp only [systemStep, Option.bind_eq_bind, Option.bind_eq_some_iff] at hsystem
    obtain ⟨task, htask, moved, hmoved, hnext⟩ := hsystem
    cases hnext
    refine ⟨h.provider, h.current, hinv, h.value, fun other hmem => ?_⟩
    rcases List.mem_or_eq_of_mem_set hmem with hmem | rfl
    · exact h.built other hmem
    · exact (h.built task (List.mem_of_getElem? htask)).step hmoved

end Tasks

section Served

variable (codec : TextCodec) (config : Config) (decoder : Decoder)

/-- From the files and the inventory to the server tasks. A task in its steady wait
with no change ready serves what the set that was sent last resolves to. While the
provider waits, that set has the revision of what it fetched last merged with the
directory as it is, and its pushed members are what the files hold now. -/
theorem device_types_served {state : Catalogue}
    (h : (catalogue codec config decoder).ReachableUnder (Untorn decoder) state) {task : ServerTask}
    (hmem : task ∈ state.system.tasks) {generation : Generation} (hphase : task.phase = .steady generation)
    (hpending : state.system.channel.changed task.device_types = none) :
    generation.resolvedFrom = state.provider.sent ∧
      Made codec config task generation ∧
      ∀ listed delay, state.provider.phase = .waiting listed delay → state.provider.written = false →
        revision generation.resolvedFrom =
            revision (merge state.provider.pulled (directoryNow decoder state.provider.files listed)) ∧
          ServesFiles decoder state.provider.files listed generation.resolvedFrom := by
  have hinv : CatalogueInv codec config decoder state :=
    h.invariant (CatalogueInv codec config decoder) (fun _ hstart => catalogueInv_start hstart)
      fun _ _ _ hinv hguard hstep => hinv.step hguard hstep
  have hserved : generation.resolvedFrom = state.provider.sent := by
    have hheld := (hinv.system.held task hmem).held generation.resolvedFrom (by rw [hphase]; rfl)
    obtain ⟨hseen, -⟩ := state.system.channel.changed_eq_none_iff.mp hpending
    rw [hseen, Channel.valueAt_version] at hheld
    rw [← hinv.value]
    exact (Option.some.inj hheld).symm
  refine ⟨hserved, hinv.built task hmem generation (Or.inr hphase), fun listed delay hwaiting hwritten => ?_⟩
  · have hsnapshot := hinv.provider.snapshot hwritten
    simp only [Snapshot, hwaiting] at hsnapshot
    obtain ⟨pulled, pushed, hsent⟩ := hinv.provider.sent (by simp [hwaiting])
    rw [hserved, ← hsent.revision, hinv.current listed delay hwaiting hwritten]
    exact ⟨rfl, hsnapshot.2⟩

/-- A poll of the one file, and a task that starts after it. -/
def servedFile : List CatalogueLabel :=
  (pollWith []).map .provider ++
    [.spawned (sampleServer "b") ["b"], .task 0 .proceed, .task 0 .proceed, .task 0 (.connected refusingConnection),
      .task 0 .proceed, .task 0 .proceed, .task 0 .proceed]

theorem untorn_servedFile (state : Catalogue) :
    (catalogue plainCodec .default namingDecoder).Guarded (Untorn namingDecoder) state servedFile := by
  refine Machine.guarded_of_forall fun label hmem _ own hown name file text hlabel _ => ?_
  subst hown
  subst hlabel
  simp [servedFile, pollWith] at hmem

theorem device_types_served_file :
    ∃ state task generation listed delay,
      (catalogue plainCodec .default namingDecoder).ReachableUnder (Untorn namingDecoder) state ∧
        task ∈ state.system.tasks ∧ task.phase = .steady generation ∧
          state.provider.phase = .waiting listed delay ∧ generation.resolvedFrom.map (·.device_type.name) = ["1"] ∧
            ServesFiles namingDecoder state.provider.files listed generation.resolvedFrom := by
  obtain ⟨state, hrun, task, hmem, generation, hphase, hpending, hwaiting, hwritten, hname⟩ :
      ∃ state, (catalogue plainCodec .default namingDecoder).exec
          ⟨onlyFile (versionAt "1" 1), ⟨⟨[], [], false⟩, ⟨0⟩, []⟩⟩ servedFile = some state ∧
        ∃ task ∈ state.system.tasks, ∃ generation, task.phase = .steady generation ∧
          state.system.channel.changed task.device_types = none ∧ state.provider.phase = .waiting ["a.json"] 60 ∧
            state.provider.written = false ∧ generation.resolvedFrom.map (·.device_type.name) = ["1"] :=
    ⟨_, rfl, _, List.mem_cons_self, _, rfl, rfl, rfl, rfl, rfl⟩
  have hstart : (catalogue plainCodec .default namingDecoder).start
      ⟨onlyFile (versionAt "1" 1), ⟨⟨[], [], false⟩, ⟨0⟩, []⟩⟩ := ⟨onlyFile_start _, rfl, rfl, rfl⟩
  have hreach := Machine.ReachableUnder.exec (.start hstart) (untorn_servedFile _) hrun
  obtain ⟨-, -, hserved⟩ := device_types_served plainCodec .default namingDecoder hreach hmem hphase hpending
  obtain ⟨-, hfiles⟩ := hserved _ _ hwaiting hwritten
  exact ⟨state, task, generation, _, _, hreach, hmem, hphase, hwaiting, hname, hfiles⟩

end Served

end gateway.device_types
