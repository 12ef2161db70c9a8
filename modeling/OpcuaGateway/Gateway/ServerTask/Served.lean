import OpcuaGateway.Foundation.Progress
import OpcuaGateway.Gateway.ServerTask.Resolution
import OpcuaGateway.Gateway.ServerTask.Run

open transition ordered_map mapping.value mapping.namespace_table mapping.resolve mapping.source
  gateway.config opcua_conn

namespace gateway.server_task

section Serving

variable (config : SubscriptionConfig) (generation : Generation)

/-- A running subscription loop has a route for this target. -/
def Routed (target : SubscribedTarget) : Prop :=
  ∃ reader ∈ generation.readers, reader.running = true ∧
    ∃ routes handle, reader.task = .subscription_loop routes ∧ routes.get handle = some target

/-- Both requests of the subscription went through: these are the items in the
server's answer. -/
def ItemsCreated (connection : Connection) (applied : List AppliedDeviceType) (created : List CreatedItem) : Prop :=
  ∃ subscription_id requests, connection.create_subscription (subscriptionParams config) = .ok subscription_id ∧
    (specsOf config applied).mapM requestOf = .ok requests ∧
    connection.createItems subscription_id requests = .ok created

/-- The server answered for the monitored item of this target that it refuses it. -/
def Refused (target : SubscribedTarget) : Prop :=
  ∃ created, ItemsCreated config generation.connection generation.applied created ∧
    ∃ (i : Nat) (item : CreatedItem), (targetsOf generation.applied)[i]? = some target ∧
      created[i]? = some item ∧ is_good item.status_code = false

/-- A running read loop of this device and schedule reads the node. -/
def Read (device : AppliedDeviceType) (schedule : ReadSchedule) (node : ResolvedNode) : Prop :=
  ∃ reader ∈ generation.readers, reader.running = true ∧
    ∃ nodes, reader.task = .read_loop device.entity schedule nodes ∧ node ∈ nodes

/-- Every node of every applied device type is being delivered. -/
structure Served : Prop where
  subscribed : ∀ target ∈ targetsOf generation.applied,
    Routed generation target ∨ Refused config generation target
  read : ∀ device ∈ generation.applied, ∀ node ∈ device.mapping.nodes, ∀ schedule,
    node.read_schedule = some schedule → Read generation device schedule node

/-- There is nothing to subscribe to, or both requests of the subscription go through
and the server's answer has an item for every target. -/
def Answered (connection : Connection) (applied : List AppliedDeviceType) : Prop :=
  targetsOf applied = [] ∨ ∃ created, ItemsCreated config connection applied created ∧
    targetsOf applied ⊆ (targetsOf applied).take created.length

/-- The reader tasks are those that were spawned. -/
def SpawnedAll : Prop :=
  generation.readers.map (·.task) = startReaders config generation.connection generation.applied

variable {config generation}

theorem exists_reader (hspawned : SpawnedAll config generation)
    (hrunning : ∀ reader ∈ generation.readers, reader.running = true) {task : ReaderTask}
    (htask : task ∈ startReaders config generation.connection generation.applied) :
    ∃ reader ∈ generation.readers, reader.running = true ∧ reader.task = task := by
  rw [← hspawned] at htask
  obtain ⟨reader, hmem, rfl⟩ := List.mem_map.mp htask
  exact ⟨reader, hmem, hrunning reader hmem, rfl⟩

section Answers

variable {connection : Connection} {applied : List AppliedDeviceType} {created : List CreatedItem}

theorem specsOf_ne_nil (hsome : targetsOf applied ≠ []) : (specsOf config applied).isEmpty = false := by
  simpa [specsOf] using hsome

/-- An answer of the server is that to the second request. -/
theorem ItemsCreated.results (h : ItemsCreated config connection applied created) (hsome : targetsOf applied ≠ []) :
    ∃ results, requestItems config connection applied = .ok results ∧
      ∀ i < (targetsOf applied).length, results[i]? = some (itemResult created[i]?) := by
  obtain ⟨subscription_id, requests, hsubscription, hrequests, hcreated⟩ := h
  have hresults : create_monitored_items connection subscription_id (specsOf config applied) =
      .ok ((specsOf config applied).zipIdx.map fun entry => itemResult created[entry.2]?) := by
    rw [create_monitored_items, specsOf_ne_nil hsome, hrequests]
    simp [hcreated, Except.map]
  refine ⟨_, result.bind_eq_ok_iff.mpr ⟨subscription_id, hsubscription, hresults⟩, fun i hi => ?_⟩
  have hbound : i < (specsOf config applied).length := by simpa [specsOf] using hi
  simp [List.getElem?_eq_getElem hbound]

/-- Results come with an answer of the server, at the same positions. -/
theorem itemsCreated_of_requestItems {results : List (Except StatusCode Nat)}
    (h : requestItems config connection applied = .ok results) (hsome : targetsOf applied ≠ []) :
    ∃ created, ItemsCreated config connection applied created ∧
      ∀ (i : Nat) (result : Except StatusCode Nat), results[i]? = some result → result = itemResult created[i]? := by
  obtain ⟨subscription_id, hsubscription, hitems⟩ := result.bind_eq_ok_iff.mp h
  rw [create_monitored_items, specsOf_ne_nil hsome] at hitems
  cases hrequests : (specsOf config applied).mapM requestOf with
  | error error =>
    rw [hrequests] at hitems
    cases hitems
  | ok requests =>
    rw [hrequests] at hitems
    obtain ⟨created, hcreated, rfl⟩ := result.map_eq_ok_iff.mp hitems
    refine ⟨created, ⟨subscription_id, requests, hsubscription, hrequests, hcreated⟩, fun i result hresult => ?_⟩
    rw [List.getElem?_map, List.getElem?_zipIdx, Option.map_map, Option.map_eq_some_iff] at hresult
    obtain ⟨item, -, rfl⟩ := hresult
    simp

/-- The answers to one pair of requests are one answer. -/
theorem ItemsCreated.unique {other : List CreatedItem} (h : ItemsCreated config connection applied created)
    (hother : ItemsCreated config connection applied other) : other = created := by
  obtain ⟨subscription_id, requests, hsubscription, hrequests, hcreated⟩ := h
  obtain ⟨other_id, other_requests, hsubscription', hrequests', hcreated'⟩ := hother
  obtain rfl := Except.ok.inj (hsubscription.symm.trans hsubscription')
  obtain rfl := Except.ok.inj (hrequests.symm.trans hrequests')
  exact Except.ok.inj (hcreated'.symm.trans hcreated)

theorem mem_take_of_getElem? {A : Type} {entries : List A} {i n : Nat} {entry : A} (hentry : entries[i]? = some entry)
    (hi : i < n) : entry ∈ entries.take n :=
  List.mem_of_getElem? ((List.getElem?_take_of_lt hi).trans hentry)

end Answers

/-- A routed target has an item in the server's answer. -/
theorem Routed.answered (hspawned : SpawnedAll config generation) {target : SubscribedTarget}
    (h : Routed generation target) (hsome : targetsOf generation.applied ≠ []) :
    ∃ created, ItemsCreated config generation.connection generation.applied created ∧
      target ∈ (targetsOf generation.applied).take created.length := by
  obtain ⟨reader, hmem, -, routes, handle, htask, hroute⟩ := h
  have hspawn : reader.task ∈ startReaders config generation.connection generation.applied := by
    rw [← hspawned]
    exact List.mem_map_of_mem hmem
  rw [htask, startReaders, List.mem_append] at hspawn
  rcases hspawn with hspawn | hspawn
  · obtain ⟨routes', hstarted, heq⟩ := Option.map_eq_some_iff.mp (Option.mem_toList.mp hspawn)
    cases heq
    obtain ⟨results, hresults, rfl⟩ := start_subscription_eq_some hstarted
    obtain ⟨created, hcreated, hitem⟩ := itemsCreated_of_requestItems hresults hsome
    have hpair := (of_get_foldl_addRoute hroute).resolve_left (by simp)
    obtain ⟨i, hi⟩ := List.mem_iff_getElem?.mp hpair
    obtain ⟨htarget, hresult⟩ := List.getElem?_zip_eq_some.mp hi
    have hhandle := itemResult_eq_ok (hitem i _ hresult).symm
    obtain ⟨item, hcreated_item, -⟩ := Option.map_eq_some_iff.mp hhandle
    exact ⟨created, hcreated, mem_take_of_getElem? htarget (List.getElem?_eq_some_iff.mp hcreated_item).1⟩
  · obtain ⟨device, -, hloop⟩ := List.mem_flatMap.mp hspawn
    obtain ⟨group, -, hgroup⟩ := List.mem_map.mp hloop
    cases hgroup

/-- A refused target has an item in the server's answer. -/
theorem Refused.answered {target : SubscribedTarget} (h : Refused config generation target) :
    ∃ created, ItemsCreated config generation.connection generation.applied created ∧
      target ∈ (targetsOf generation.applied).take created.length := by
  obtain ⟨created, hcreated, i, item, htarget, hitem, -⟩ := h
  exact ⟨created, hcreated, mem_take_of_getElem? htarget (List.getElem?_eq_some_iff.mp hitem).1⟩

/-- A node is served by a subscription only if the server answered for it. -/
theorem Served.answered (hspawned : SpawnedAll config generation) (h : Served config generation) :
    Answered config generation.connection generation.applied := by
  by_cases hnone : targetsOf generation.applied = []
  · exact Or.inl hnone
  · have hall : ∀ target ∈ targetsOf generation.applied, ∃ created,
        ItemsCreated config generation.connection generation.applied created ∧
          target ∈ (targetsOf generation.applied).take created.length := by
      intro target htarget
      rcases h.subscribed target htarget with hrouted | hrefused
      · exact hrouted.answered hspawned hnone
      · exact hrefused.answered
    obtain ⟨target, rest, hcons⟩ := List.exists_cons_of_ne_nil hnone
    obtain ⟨created, hcreated, -⟩ := hall target (by simp [hcons])
    refine Or.inr ⟨created, hcreated, fun target htarget => ?_⟩
    obtain ⟨other, hother, hmem⟩ := hall target htarget
    obtain rfl := hcreated.unique hother
    exact hmem

/-- Where every target has an item in the answer, the loop that is spawned has a
route for each, but for those that are refused. -/
theorem Answered.served (h : Answered config generation.connection generation.applied)
    (hspawned : SpawnedAll config generation)
    (hrunning : ∀ reader ∈ generation.readers, reader.running = true) : Served config generation where
  subscribed := by
    intro target htarget
    rcases h with hnone | ⟨created, hcreated, hall⟩
    · rw [hnone] at htarget
      cases htarget
    · obtain ⟨results, hresults, hitems⟩ := hcreated.results (List.ne_nil_of_mem htarget)
      obtain ⟨i, hi, hentry⟩ := List.mem_take_iff_getElem.mp (hall htarget)
      obtain ⟨hlength, hbound⟩ := lt_min_iff.mp hi
      have htarget_at := List.getElem?_eq_some_iff.mpr ⟨hbound, hentry⟩
      have hitem : created[i]? = some created[i] := List.getElem?_eq_getElem hlength
      have hresult := hitems i hbound
      rw [hitem, itemResult] at hresult
      by_cases hgood : is_good created[i].status_code = true
      · rw [if_pos hgood] at hresult
        obtain ⟨routes, hstarted, hget⟩ := start_subscription_of_created hresults htarget_at hresult
        have htask : ReaderTask.subscription_loop routes ∈
            startReaders config generation.connection generation.applied := by
          simp [startReaders, hstarted]
        obtain ⟨reader, hmem, hrun, hreader⟩ := exists_reader hspawned hrunning htask
        exact Or.inl ⟨reader, hmem, hrun, routes, _, hreader, hget⟩
      · exact Or.inr ⟨created, hcreated, i, _, htarget_at, hitem, Bool.eq_false_iff.mpr hgood⟩
  read := by
    intro device hdevice node hnode schedule hschedule
    obtain ⟨nodes, hgroup, hmem⟩ := grouped_read_groups hnode hschedule
    have htask : ReaderTask.read_loop device.entity schedule nodes ∈
        startReaders config generation.connection generation.applied :=
      List.mem_append_right _ (List.mem_flatMap.mpr ⟨device, hdevice, List.mem_map.mpr ⟨_, hgroup, rfl⟩⟩)
    obtain ⟨reader, hreader, hrun, hread⟩ := exists_reader hspawned hrunning htask
    exact ⟨reader, hreader, hrun, nodes, hread, hmem⟩

end Serving

section Run

variable (codec : TextCodec) (config : Config) (server : ServerConfig) (known_server_ids : List String)

/-- The task is in its steady wait, and no reader has exited. -/
def Parked (state : TaskState) (generation : Generation) : Prop :=
  state.phase = .steady generation ∧ ∀ reader ∈ generation.readers, reader.running = true

variable {codec config server known_server_ids}

theorem turn_task {reader next : Reader} {event : ReaderEvent} (h : reader.turn event = some next) :
    next.task = reader.task := by
  cases event <;> rw [Reader.turn] at h
  · split at h <;> cases h
    rfl
  · split at h <;> cases h
    rfl
  · split at h <;> cases h
    rfl
  · cases h
    rfl

/-- Replacing an entry by one with the same image changes no image. -/
theorem map_set_of_eq {A B : Type} {f : A → B} {entries : List A} {index : Nat} {entry next : A}
    (hentry : entries[index]? = some entry) (hsame : f next = f entry) : (entries.set index next).map f = entries.map f := by
  rw [List.map_set, hsame]
  obtain ⟨hbound, rfl⟩ := List.getElem?_eq_some_iff.mp hentry
  have hmapped : index < (entries.map f).length := by simpa using hbound
  have himage : f entries[index] = (entries.map f)[index] := by simp
  rw [himage, List.set_getElem_self hmapped]

/-- A reader's turn changes neither what is applied nor any task. -/
theorem readerTurn_steady {state next : TaskState} {index : Nat} {event : ReaderEvent}
    (h : readerTurn state index event = some next) :
    ∃ generation readers, state.phase = .steady generation ∧
      next = { state with phase := .steady { generation with readers } } ∧
      readers.map (·.task) = generation.readers.map (·.task) := by
  unfold readerTurn at h
  split at h
  · rename_i generation hphase
    obtain ⟨reader, hreader, h⟩ := Option.bind_eq_some_iff.mp h
    split at h
    · cases h
    · obtain ⟨turned, hturn, hnext⟩ := Option.bind_eq_some_iff.mp h
      cases hnext
      exact ⟨generation, _, hphase, rfl, map_set_of_eq hreader (turn_task hturn)⟩
  · cases h

theorem endWait_frame {state next : TaskState} (h : endWait state = some next) :
    ∃ phase, next = { state with phase } ∧ ∀ generation, phase ≠ .steady generation := by
  unfold endWait at h
  split at h <;> cases h <;> exact ⟨_, rfl, by simp⟩

/-- The end of a wait moves the task to another phase and sees a change at most. -/
theorem wake_frame {state next : TaskState} {branch : Wake} (h : wake state branch = some next) :
    ∃ device_types phase, next = { state with device_types, phase } ∧ ∀ generation, phase ≠ .steady generation := by
  cases branch with
  | stop =>
    obtain ⟨-, hend⟩ := Option.ite_none_right_eq_some.mp h
    obtain ⟨phase, rfl, hphase⟩ := endWait_frame hend
    exact ⟨state.device_types, phase, rfl, hphase⟩
  | remove =>
    obtain ⟨-, hend⟩ := Option.ite_none_right_eq_some.mp h
    obtain ⟨phase, rfl, hphase⟩ := endWait_frame hend
    exact ⟨state.device_types, phase, rfl, hphase⟩
  | changed =>
    rw [wake, observeChange] at h
    split at h
    · split at h
      · cases h
        exact ⟨_, _, rfl, by simp⟩
      · split at h <;> cases h
        exact ⟨_, _, rfl, by simp⟩
    · cases h
  | readerExit =>
    rw [wake, observeExit] at h
    split at h
    · split at h <;> cases h
      exact ⟨_, _, rfl, by simp⟩
    · cases h

/-- A generation that is waited for has been started on its session just now, or was
waited for before. -/
theorem steady_of_step {state next : TaskState} {label : TaskLabel} {generation : Generation}
    (h : runStep codec config server known_server_ids state label = some next)
    (hphase : next.phase = .steady generation) :
    (∃ before readers, state.phase = .steady before ∧ generation = { before with readers } ∧
      readers.map (·.task) = before.readers.map (·.task)) ∨
    ∃ connection, label = .connected connection ∧
      generation = newGeneration codec config server known_server_ids connection state.device_types.value := by
  cases runSteps_of_runStep h with
  | stopCancelled => exact Or.inl ⟨generation, generation.readers, hphase, rfl, rfl⟩
  | removeCancelled => exact Or.inl ⟨generation, generation.readers, hphase, rfl, rfl⟩
  | sent => exact Or.inl ⟨generation, generation.readers, hphase, rfl, rfl⟩
  | senderDropped => exact Or.inl ⟨generation, generation.readers, hphase, rfl, rfl⟩
  | proceed =>
    dsimp only at hphase
    split at hphase <;> cases hphase
  | connected connection =>
    cases hphase
    exact Or.inr ⟨connection, rfl, rfl⟩
  | connectFailed => cases hphase
  | slept => cases hphase
  | reader index event hturn =>
    obtain ⟨before, readers, hbefore, rfl, htasks⟩ := readerTurn_steady hturn
    cases hphase
    exact Or.inl ⟨before, readers, hbefore, rfl, htasks⟩
  | woken branch hwake =>
    obtain ⟨device_types, phase, rfl, hnot⟩ := wake_frame hwake
    exact absurd hphase (hnot generation)
  | finish => cases hphase
  | again => cases hphase
  | backOff => cases hphase

theorem spawnedAll_newGeneration (connection : Connection) (device_types : List LoadedDeviceType) :
    SpawnedAll config.subscription
      (newGeneration codec config server known_server_ids connection device_types) := by
  rw [SpawnedAll, newGeneration, List.map_map]
  exact List.map_id _

/-- What holds of every generation as it is started on a session, and only concerns
the session and what is applied, holds of the generation that is waited for. -/
theorem steady_invariant {guard : TaskState → TaskLabel → Prop} (Holds : Generation → Prop)
    (hnew : ∀ state connection, guard state (.connected connection) → Holds
      (newGeneration codec config server known_server_ids connection state.device_types.value))
    (hkept : ∀ before readers, readers.map (·.task) = before.readers.map (·.task) → Holds before →
      Holds { before with readers })
    {state : TaskState} (h : (run codec config server known_server_ids).ReachableUnder guard state)
    {generation : Generation} (hphase : state.phase = .steady generation) : Holds generation := by
  refine Machine.ReachableUnder.invariant
    (fun state => ∀ generation, state.phase = .steady generation → Holds generation)
    ?_ ?_ h generation hphase
  · rintro start ⟨-, -, -, hlooping⟩ generation hsteady
    rw [hlooping] at hsteady
    cases hsteady
  · intro state label next hinv hguard hstep generation hsteady
    rcases steady_of_step hstep hsteady with ⟨before, readers, hbefore, rfl, htasks⟩ | ⟨connection, rfl, rfl⟩
    · exact hkept before readers htasks (hinv before hbefore)
    · exact hnew state connection hguard

theorem spawnedAll_of_reachable {guard : TaskState → TaskLabel → Prop} {state : TaskState}
    (h : (run codec config server known_server_ids).ReachableUnder guard state)
    {generation : Generation} (hphase : state.phase = .steady generation) :
    SpawnedAll config.subscription generation :=
  steady_invariant (SpawnedAll config.subscription) (fun _ _ _ => spawnedAll_newGeneration ..)
    (fun _ _ htasks hspawned => htasks.trans hspawned)
    h hphase

variable (codec config server known_server_ids)

/-- The moves that the task makes by itself. Its readers, the channel of the device
types, its cancellation and the server's answer are not up to it. -/
def TaskLabel.isOwn : TaskLabel → Bool
  | .proceed => true
  | .slept => true
  | .woken _ => true
  | .tornDown => true
  | _ => false

/-- Nothing asks the task to end. -/
def Undisturbed (state : TaskState) : Prop :=
  state.stop = false ∧ state.remove = false ∧ state.device_types.closed = false

/-- A move that does not ask the task to end. -/
def TaskLabel.spares : TaskLabel → Bool
  | .stopCancelled => false
  | .removeCancelled => false
  | .senderDropped => false
  | _ => true

/-- The task is on its way to a reconnect: in every run in which nothing asks it to end it
has come to connecting, or it ends up there whatever it does next. -/
def Reconnects (state : TaskState) : Prop :=
  ∀ labels final, (run codec config server known_server_ids).Guarded (fun _ label => label.spares = true) state labels →
    (run codec config server known_server_ids).exec state labels = some final →
    (∃ before mid, before <+: labels ∧ (run codec config server known_server_ids).exec state before = some mid ∧
      mid.phase = .connecting) ∨
    (run codec config server known_server_ids).Inevitable (fun _ label => label.isOwn = true)
      (fun state => state.phase = .connecting) final

/-- In its steady wait the task delivers every node while no reader has exited, and a
node that is not delivered makes it reconnect. -/
structure NeverUnserved (state : TaskState) (generation : Generation) : Prop where
  served : Parked state generation → Served config.subscription generation
  reconnects : ¬ Served config.subscription generation → Undisturbed state →
    Reconnects codec config server known_server_ids state

/-- The session answers the subscription requests for all that it makes applicable. -/
def AnswersSubscription (state : TaskState) (label : TaskLabel) : Prop :=
  ∀ connection, label = .connected connection →
    Answered config.subscription connection
      (newGeneration codec config server known_server_ids connection state.device_types.value).applied

section Reconnecting

variable {codec config server known_server_ids}

/-- The task is on its way to connect, or there is something to wake it from its
steady wait. -/
def Returning (state : TaskState) : Prop :=
  Undisturbed state ∧
    match state.phase with
    | .steady generation => state.device_types.unseen = true ∨ ∃ reader ∈ generation.readers, reader.running = false
    | .teardown _ next => next ≠ .finish
    | .finished => False
    | _ => True

/-- How many moves the task is away from connecting, at most. -/
def distance (state : TaskState) : Nat :=
  match state.phase with
  | .steady _ => 4
  | .teardown _ _ => 3
  | .faultWait | .retryWait => 2
  | .looping => 1
  | .connecting | .finished => 0

theorem Returning.wake {state next : TaskState} (h : Returning state) {branch : Wake}
    (hwake : wake state branch = some next) : Returning next ∧ distance next < distance state := by
  obtain ⟨⟨hstop, hremove, hclosed⟩, -⟩ := h
  cases branch with
  | stop => simp [gateway.server_task.wake, hstop] at hwake
  | remove => simp [gateway.server_task.wake, hremove] at hwake
  | changed =>
    rw [gateway.server_task.wake, observeChange] at hwake
    split at hwake
    · rename_i generation hphase
      split at hwake
      · cases hwake
        exact ⟨⟨⟨hstop, hremove, hclosed⟩, nofun⟩, by simp [distance, hphase]⟩
      · rw [hclosed] at hwake
        cases hwake
    · cases hwake
  | readerExit =>
    rw [gateway.server_task.wake, observeExit] at hwake
    split at hwake
    · rename_i generation hphase
      split at hwake
      · cases hwake
        rw [hstop]
        exact ⟨⟨⟨rfl, hremove, hclosed⟩, nofun⟩, by simp [distance, hphase]⟩
      · cases hwake
    · cases hwake

/-- Every move of its own takes the task nearer to connecting. -/
theorem Returning.step {state next : TaskState} (h : Returning state) {label : TaskLabel} (hown : label.isOwn = true)
    (hstep : runStep codec config server known_server_ids state label = some next) :
    Returning next ∧ distance next < distance state := by
  obtain ⟨⟨hstop, hremove, hclosed⟩, hon⟩ := id h
  cases runSteps_of_runStep hstep with
  | proceed hphase =>
    refine ⟨⟨⟨hstop, hremove, hclosed⟩, ?_⟩, ?_⟩
    · simp [hstop, hremove]
    · simp [distance, hphase, hstop, hremove]
  | slept hphase =>
    refine ⟨⟨⟨hstop, hremove, hclosed⟩, trivial⟩, ?_⟩
    rcases hphase with hphase | hphase <;> simp [distance, hphase]
  | woken branch hwake => exact h.wake hwake
  | finish hphase => simp [hphase] at hon
  | again hphase => exact ⟨⟨⟨hstop, hremove, hclosed⟩, trivial⟩, by simp [distance, hphase]⟩
  | backOff hphase => exact ⟨⟨⟨hstop, hremove, hclosed⟩, trivial⟩, by simp [distance, hphase]⟩
  | stopCancelled => cases hown
  | removeCancelled => cases hown
  | sent => cases hown
  | senderDropped => cases hown
  | connected => cases hown
  | connectFailed => cases hown
  | reader => cases hown

theorem observeChange_unseen {state : TaskState} {generation : Generation} (hphase : state.phase = .steady generation)
    (hunseen : state.device_types.unseen = true) :
    observeChange state = some { state with
      device_types := { state.device_types with unseen := false }
      phase := .teardown generation .again } := by
  rw [observeChange, hphase]
  exact if_pos hunseen

theorem observeExit_ended {state : TaskState} {generation : Generation} (hphase : state.phase = .steady generation)
    {reader : Reader} (hmem : reader ∈ generation.readers) (hended : reader.running = false) :
    observeExit state =
      some { state with phase := .teardown generation (if state.stop then .again else .backOff) } := by
  rw [observeExit, hphase]
  exact if_pos (List.any_eq_true.mpr ⟨reader, hmem, by simp [hended]⟩)

/-- There is a move of its own until it connects. -/
theorem Returning.live {state : TaskState} (h : Returning state) (hnot : state.phase ≠ .connecting) :
    ∃ label next, label.isOwn = true ∧ runStep codec config server known_server_ids state label = some next := by
  obtain ⟨-, hon⟩ := h
  cases hphase : state.phase with
  | looping => exact ⟨.proceed, _, rfl, by rw [runStep, hphase]⟩
  | connecting => exact absurd hphase hnot
  | retryWait => exact ⟨.slept, _, rfl, by rw [runStep, hphase]⟩
  | faultWait => exact ⟨.slept, _, rfl, by rw [runStep, hphase]⟩
  | finished => simp [hphase] at hon
  | teardown generation next =>
    cases next with
    | finish => simp [hphase] at hon
    | again => exact ⟨.tornDown, _, rfl, by rw [runStep, hphase]⟩
    | backOff => exact ⟨.tornDown, _, rfl, by rw [runStep, hphase]⟩
  | steady generation =>
    simp only [hphase] at hon
    rcases hon with hunseen | ⟨reader, hmem, hended⟩
    · have hchange := observeChange_unseen hphase hunseen
      exact ⟨.woken .changed, _, rfl, hchange⟩
    · have hexit := observeExit_ended hphase hmem hended
      exact ⟨.woken .readerExit, _, rfl, hexit⟩

theorem Returning.inevitable {state : TaskState} (h : Returning state) :
    (run codec config server known_server_ids).Inevitable (fun _ label => label.isOwn = true)
      (fun state => state.phase = .connecting) state :=
  Machine.inevitable_of_measure Nat.lt_wfRel.wf distance Returning
    (fun _ _ _ hreturning hown hstep => hreturning.step hown hstep) (fun _ hreturning hnot => hreturning.live hnot) h

/-- A reader that has exited takes no turn. -/
theorem readerTurn_ended {state next : TaskState} {generation : Generation} {index : Nat} {event : ReaderEvent}
    (hturn : readerTurn state index event = some next) (hphase : state.phase = .steady generation) {reader : Reader}
    (hmem : reader ∈ generation.readers) (hended : reader.running = false) :
    ∃ moved, next.phase = .steady moved ∧ reader ∈ moved.readers := by
  rw [readerTurn, hphase] at hturn
  obtain ⟨other, hother, hturn⟩ := Option.bind_eq_some_iff.mp hturn
  split at hturn
  · cases hturn
  · rename_i hrunning
    obtain ⟨turned, -, hnext⟩ := Option.bind_eq_some_iff.mp hturn
    cases hnext
    refine ⟨_, rfl, ?_⟩
    obtain ⟨j, hj⟩ := List.getElem?_of_mem hmem
    have hne : index ≠ j := by
      rintro rfl
      obtain rfl := Option.some.inj (hother.symm.trans hj)
      simp [hended] at hrunning
    exact List.mem_of_getElem? ((List.getElem?_set_ne hne).trans hj)

/-- No move but a request to end takes the task off its way. -/
theorem Returning.kept {state next : TaskState} (h : Returning state) (hnot : state.phase ≠ .connecting)
    {label : TaskLabel} (hspares : label.spares = true)
    (hstep : runStep codec config server known_server_ids state label = some next) : Returning next := by
  obtain ⟨⟨hstop, hremove, hclosed⟩, hon⟩ := id h
  cases runSteps_of_runStep hstep with
  | stopCancelled => cases hspares
  | removeCancelled => cases hspares
  | senderDropped => cases hspares
  | sent device_types =>
    refine ⟨⟨hstop, hremove, rfl⟩, ?_⟩
    cases hphase : state.phase with
    | steady generation => exact Or.inl rfl
    | teardown generation after =>
      rw [hphase] at hon
      exact hon
    | finished =>
      rw [hphase] at hon
      exact hon
    | _ => trivial
  | connected connection hphase => exact absurd hphase hnot
  | connectFailed hphase => exact absurd hphase hnot
  | proceed => exact (h.step rfl hstep).1
  | slept => exact (h.step rfl hstep).1
  | woken => exact (h.step rfl hstep).1
  | finish => exact (h.step rfl hstep).1
  | again => exact (h.step rfl hstep).1
  | backOff => exact (h.step rfl hstep).1
  | reader index event hturn =>
    obtain ⟨generation, readers, hphase, rfl, -⟩ := readerTurn_steady hturn
    refine ⟨⟨hstop, hremove, hclosed⟩, ?_⟩
    simp only [hphase] at hon
    rcases hon with hunseen | ⟨reader, hmem, hended⟩
    · exact Or.inl hunseen
    · obtain ⟨moved, hmoved, hmem⟩ := readerTurn_ended hturn hphase hmem hended
      cases hmoved
      exact Or.inr ⟨reader, hmem, hended⟩

theorem Returning.reconnects {state : TaskState} (h : Returning state) :
    Reconnects codec config server known_server_ids state := by
  intro labels
  induction labels generalizing state with
  | nil =>
    rintro final - hrun
    cases hrun
    exact Or.inr h.inevitable
  | cons label labels ih =>
    intro final hguard hrun
    by_cases hconnecting : state.phase = .connecting
    · exact Or.inl ⟨[], state, List.nil_prefix, rfl, hconnecting⟩
    · obtain ⟨next, hstep, hrest⟩ := (run codec config server known_server_ids).exec_cons_eq_some.mp hrun
      rcases ih (h.kept hconnecting hguard.1 hstep) final (hguard.2 next hstep) hrest with hpassed | hinevitable
      · obtain ⟨before, mid, hprefix, hbefore, hmid⟩ := hpassed
        refine Or.inl ⟨label :: before, mid, (List.prefix_cons_inj label).mpr hprefix, ?_, hmid⟩
        exact (run codec config server known_server_ids).exec_cons_eq_some.mpr ⟨next, hstep, hbefore⟩
      · exact Or.inr hinevitable

/-- A task whose server answered for every node is served, or one of its readers has
ended. -/
theorem Answered.neverUnserved {state : TaskState} {generation : Generation}
    (h : Answered config.subscription generation.connection generation.applied)
    (hspawned : SpawnedAll config.subscription generation) (hphase : state.phase = .steady generation) :
    NeverUnserved codec config server known_server_ids state generation where
  served hparked := h.served hspawned hparked.2
  reconnects := by
    intro hunserved hundisturbed
    have hended : ∃ reader ∈ generation.readers, reader.running = false := by
      by_contra hnone
      refine hunserved (h.served hspawned fun reader hmem => ?_)
      by_contra hstopped
      exact hnone ⟨reader, hmem, Bool.eq_false_iff.mpr hstopped⟩
    refine Returning.reconnects ⟨hundisturbed, ?_⟩
    rw [hphase]
    exact Or.inr hended

end Reconnecting

/-- While the task waits and no reader has exited, it delivers every node exactly when
the server answered for every node: a request that fails ends the start of the
subscription, and no reader exits. Where every session answers for every node, none
is left unserved in any run: a reader that ends makes the task reconnect. -/
theorem never_unserved_iff_answered :
    (∀ state generation, (run codec config server known_server_ids).Reachable state → Parked state generation →
      (NeverUnserved codec config server known_server_ids state generation ↔
        Answered config.subscription generation.connection generation.applied)) ∧
    ∀ state generation, (run codec config server known_server_ids).ReachableUnder
      (AnswersSubscription codec config server known_server_ids) state →
      state.phase = .steady generation → NeverUnserved codec config server known_server_ids state generation := by
  refine ⟨fun state generation hreach hparked => ?_, fun state generation hreach hphase => ?_⟩
  · have hspawned := spawnedAll_of_reachable hreach hparked.1
    exact ⟨fun h => (h.served hparked).answered hspawned, fun h => h.neverUnserved hspawned hparked.1⟩
  · have hspawned := spawnedAll_of_reachable hreach hphase
    have hanswered := steady_invariant
      (fun generation => Answered config.subscription generation.connection generation.applied)
      (fun state connection hguard => hguard connection rfl) (fun _ _ _ hanswered => hanswered) hreach hphase
    exact hanswered.neverUnserved hspawned hphase

end Run

section Sample

/-- A server that creates the subscription and answers the request for its items with
an error. -/
def refusingConnection : Connection where
  toSession := resolvingSession []
  create_subscription _ := .ok 1
  createItems _ _ := .error .Request
  distinct_handles := by simp

def sampleStart : TaskState := ⟨false, false, ⟨[sampleDeviceType], false, false⟩, 1, .looping⟩

def sampleGeneration : Generation :=
  newGeneration plainCodec .default (sampleServer "b") [] refusingConnection [sampleDeviceType]

/-- The task waits although the node of its only device type is not monitored. -/
theorem unserved_while_parked :
    ¬ ∀ codec (config : Config) server known_server_ids state generation,
      (run codec config server known_server_ids).Reachable state → state.phase = .steady generation →
      NeverUnserved codec config server known_server_ids state generation := by
  intro hall
  have hstart : (run plainCodec .default (sampleServer "b") []).Reachable sampleStart :=
    .start ⟨rfl, rfl, rfl, rfl⟩
  have hrun : (run plainCodec .default (sampleServer "b") []).exec sampleStart
      [.proceed, .connected refusingConnection] = some { sampleStart with phase := .steady sampleGeneration } := rfl
  have hreach : (run plainCodec .default (sampleServer "b") []).Reachable
      { sampleStart with phase := .steady sampleGeneration } :=
    hstart.exec hrun
  have hparked : Parked { sampleStart with phase := .steady sampleGeneration } sampleGeneration := by
    refine ⟨rfl, fun reader hmem => ?_⟩
    obtain ⟨task, -, rfl⟩ := List.mem_map.mp hmem
    rfl
  have hserved := (hall _ _ _ _ _ _ hreach rfl).served hparked
  rcases hserved.answered (spawnedAll_newGeneration ..) with hnone | ⟨created, ⟨_, _, -, -, hcreated⟩, -⟩
  · revert hnone
    decide
  · cases hcreated

end Sample

end gateway.server_task
