import OpcuaGateway.Foundation.Refinement
import OpcuaGateway.Gateway.CloudServers.Continuity
import OpcuaGateway.Gateway.Supervisor.Live

open transition ordered_map json mapping.namespace_table mapping.source tedge.proxy gateway.config gateway.server_task
  gateway.supervisor

namespace gateway.cloud_servers

section Distinct

variable {proxy : C8yProxy} {config : Config} {inventory : Inventory} {responses : Responses} {gateway_mo_id : String}

variable (proxy config responses) in
/-- The servers of one page have ids of its references, in order. -/
theorem readReferences_ids (page index : Nat) (found : List Value) (out : List ServerConfig) :
    ∃ added, serverIds (readReferences proxy config responses page index found out) = serverIds out ++ added ∧
      added.Sublist (found.filterMap C8yProxy.managedObjectId) := by
  induction found generalizing index out with
  | nil => exact ⟨[], by simp [readReferences], .slnil⟩
  | cons reference rest ih =>
    rw [readReferences]
    cases hchild : readChild proxy config responses page index reference with
    | none =>
      obtain ⟨added, hadded, hsub⟩ := ih (index + 1) out
      refine ⟨added, hadded, hsub.trans ?_⟩
      exact (List.sublist_cons_self reference rest).filterMap _
    | some server =>
      obtain ⟨added, hadded, hsub⟩ := ih (index + 1) (out ++ [server])
      have hid := (readChild_eq_some.mp hchild).1
      refine ⟨server.id :: added, ?_, ?_⟩
      · rw [hadded, serverIds, List.map_append, List.append_assoc]
        rfl
      · rw [List.filterMap_cons_some hid]
        exact hsub.cons_cons server.id

/-- The servers of a poll come in the order of the listing. -/
theorem fetchPages_ids (hfaulty : FaultyAnswers proxy inventory responses gateway_mo_id) {remaining page : Nat}
    {out servers : List ServerConfig} (hpos : 1 ≤ page)
    (hfetch : fetchPages proxy config responses gateway_mo_id remaining page out = .ok servers) :
    ∃ added, serverIds servers = serverIds out ++ added ∧
      added.Sublist ((inventory.children gateway_mo_id).drop ((page - 1) * PAGE_SIZE)) := by
  induction remaining generalizing page out with
  | zero =>
    cases hfetch
    exact ⟨[], (List.append_nil _).symm, List.nil_sublist _⟩
  | succ remaining ih =>
    rw [fetchPages] at hfetch
    split at hfetch
    · cases hfetch
    · rename_i found hpage
      split at hfetch
      · cases hfetch
        exact ⟨[], (List.append_nil _).symm, List.nil_sublist _⟩
      · rename_i hne
        obtain ⟨found', hfound', hmap⟩ := hfaulty.listed hpos hpage hne
        cases hpage.symm.trans hfound'
        have hids : found.filterMap C8yProxy.managedObjectId = inventory.page gateway_mo_id page := by
          have hflat := congrArg (List.filterMap id) hmap
          rw [List.filterMap_map, List.filterMap_map] at hflat
          simpa using hflat
        obtain ⟨added, hadded, hsub⟩ := readReferences_ids proxy config responses page 0 found out
        rw [hids, Inventory.page] at hsub
        split at hfetch
        · cases hfetch
          exact ⟨added, hadded, hsub.trans (List.take_sublist _ _)⟩
        · obtain ⟨later, hlater, hrest⟩ := ih (by omega) hfetch
          refine ⟨added ++ later, by rw [hlater, hadded, List.append_assoc], ?_⟩
          have hnext : (page + 1 - 1) * PAGE_SIZE = (page - 1) * PAGE_SIZE + PAGE_SIZE := by
            simp only [PAGE_SIZE]
            omega
          rw [hnext, ← List.drop_drop] at hrest
          have happend := hsub.append hrest
          rwa [List.take_append_drop] at happend

/-- A poll that is not given up lists no server twice. -/
theorem nodup_fetch (hfaulty : FaultyAnswers proxy inventory responses gateway_mo_id) {servers : List ServerConfig}
    (hfetch : fetch proxy config responses gateway_mo_id = .ok servers) : (serverIds servers).Nodup := by
  obtain ⟨added, hadded, hsub⟩ := fetchPages_ids hfaulty le_rfl hfetch
  rw [hadded]
  exact (inventory.distinct gateway_mo_id).sublist (hsub.trans (List.drop_sublist _ _))

end Distinct

/-- The provider of cloud servers with the supervisor and its tasks. The provider has
returned when the channel is closed. -/
structure Deployment where
  provider : Provider
  fleet : Fleet

inductive DeploymentLabel (proxy : C8yProxy) where
  /-- One turn of the provider's loop. A receiver is left, or none is. -/
  | poll (turn : Turn proxy) (consumers : Bool)
  | providerCancelled
  | fleet (label : FleetLabel)

section Deployment

variable (codec : TextCodec) (proxy : C8yProxy) (config : Config)

/-- The provider sends what it has polled. Without consumers left it returns, and that
is after the supervisor has. Both providers return once the process is cancelled. -/
def deploymentStep (state : Deployment) : DeploymentLabel proxy → Option Deployment
  | .poll turn consumers =>
    if state.fleet.supervision.closed then none
    else
      let polled := poll proxy config turn.responses state.provider
      match polled.sent with
      | none => some { state with provider := polled.provider }
      | some servers =>
        if consumers then
          (fleetStep codec config state.fleet (.supervise (.sent servers))).map fun fleet => ⟨polled.provider, fleet⟩
        else if state.fleet.supervision.phase = .stopped then
          (fleetStep codec config state.fleet (.supervise .closed)).map fun fleet => ⟨polled.provider, fleet⟩
        else none
  | .providerCancelled =>
    if state.fleet.cancelled = true ∧ state.fleet.supervision.closed = false then
      (fleetStep codec config state.fleet (.supervise .closed)).map fun fleet => { state with fleet }
    else none
  | .fleet (.supervise (.sent _)) | .fleet (.supervise .closed) => none
  | .fleet .senderDropped =>
    if state.fleet.cancelled then
      (fleetStep codec config state.fleet .senderDropped).map fun fleet => { state with fleet }
    else none
  | .fleet label => (fleetStep codec config state.fleet label).map fun fleet => { state with fleet }

def deployment : Machine Deployment (DeploymentLabel proxy) where
  start state :=
    state.provider = .new ∧ (fleet codec config).start state.fleet ∧ state.fleet.supervision.closed = false
  step := deploymentStep codec proxy config

/-- The tasks as they run once the list that was read last is reconciled. -/
def reconciled (supervision : SupervisorState) : RunningSet :=
  match supervision.phase with
  | .deciding => runningSet supervision.running
  | _ => reconcile (runningSet supervision.before) (desired config supervision.seen)

/-- The deployment with a supervisor that reconciles at once. -/
def Deployment.view (state : Deployment) : State where
  provider := state.provider
  stopped := state.fleet.supervision.closed
  cloud := state.fleet.supervision.sent
  changed := state.fleet.supervision.unseen || state.fleet.supervision.phase == .deciding
  running := reconciled config state.fleet.supervision

/-- A list is reconciled when it is read. -/
def seenLabel (_state : Deployment) : DeploymentLabel proxy → Option (Label proxy)
  | .poll turn consumers => some (.poll turn consumers)
  | .providerCancelled => some .cancel
  | .fleet (.supervise (.borrowed _)) => some .reconcile
  | .fleet _ => none

end Deployment

section Refinement

variable {codec : TextCodec} {proxy : C8yProxy} {config : Config} {state next : Deployment}

/-- What the passes leave alone, wherever they stand. -/
theorem advance_frame {supervision moved : SupervisorState} (hstep : supervision.advance = some moved) :
    moved.sent = supervision.sent ∧ moved.unseen = supervision.unseen ∧ moved.closed = supervision.closed ∧
      moved.seen = supervision.seen ∧ moved.before = supervision.before ∧
      supervision.phase ≠ .deciding ∧ moved.phase ≠ .deciding := by
  unfold SupervisorState.advance at hstep
  split at hstep
  · rename_i hphase
    cases hstep
    simp [hphase]
  · rename_i hphase
    cases hstep
    simp [hphase]
  · rename_i hphase
    cases hstep
    simp [hphase]
  · rename_i hphase
    cases hstep
    simp [hphase]
  · rename_i hphase
    cases hstep
    simp [hphase]
  · rename_i hphase
    cases hstep
    simp [hphase]
  · rename_i hphase
    obtain ⟨-, hnext⟩ := Option.ite_none_right_eq_some.mp hstep
    cases hnext
    simp [hphase]
  · cases hstep

theorem reconciled_eq {supervision : SupervisorState} (hphase : supervision.phase ≠ .deciding) :
    reconciled config supervision = reconcile (runningSet supervision.before) (desired config supervision.seen) := by
  unfold reconciled
  split
  · exact absurd ‹_› hphase
  · rfl

theorem view_eq (hprovider : next.provider = state.provider)
    (hsent : next.fleet.supervision.sent = state.fleet.supervision.sent)
    (hunseen : next.fleet.supervision.unseen = state.fleet.supervision.unseen)
    (hclosed : next.fleet.supervision.closed = state.fleet.supervision.closed)
    (hseen : next.fleet.supervision.seen = state.fleet.supervision.seen)
    (hbefore : next.fleet.supervision.before = state.fleet.supervision.before)
    (hphase : state.fleet.supervision.phase ≠ .deciding) (hphase' : next.fleet.supervision.phase ≠ .deciding) :
    next.view config = state.view config := by
  rw [Deployment.view, Deployment.view, reconciled_eq hphase, reconciled_eq hphase', hprovider, hsent, hunseen, hclosed,
    hseen, hbefore, beq_false_of_ne hphase, beq_false_of_ne hphase']

/-- A step of the supervisor that reads no list is not seen. -/
theorem view_supervise (h : LiveInv config state.fleet) {label : SupervisorLabel} {fleet : Fleet}
    (hsent : ∀ cloud, label ≠ .sent cloud) (hclosed : label ≠ .closed) (hborrowed : ∀ order, label ≠ .borrowed order)
    (hstep : fleetStep codec config state.fleet (.supervise label) = some fleet) :
    Deployment.view config { state with fleet } = state.view config := by
  simp only [fleetStep, Option.bind_eq_bind, Option.bind_eq_some_iff] at hstep
  obtain ⟨supervision, hmove, hrest⟩ := hstep
  cases label with
  | sent cloud => exact absurd rfl (hsent cloud)
  | closed => exact absurd rfl hclosed
  | borrowed order => exact absurd rfl (hborrowed order)
  | advance =>
    simp only [taskStep, Option.ite_none_right_eq_some] at hmove
    obtain ⟨moved, -, hnext⟩ := Option.bind_eq_some_iff.mp hrest
    cases hnext
    obtain ⟨hsent, hunseen, hclosed, hseen, hbefore, hphase, hphase'⟩ := advance_frame hmove.2
    exact view_eq rfl hsent hunseen hclosed hseen hbefore hphase hphase'
  | joined =>
    obtain ⟨task, -, rfl⟩ := Option.map_eq_some_iff.mp hmove
    obtain ⟨-, rfl⟩ := when_eq_some.mp hrest
    rfl
  | changed =>
    obtain ⟨⟨hphase, hunseen⟩, rfl⟩ := when_eq_some.mp hmove
    cases hrest
    -- at the wait point the tasks are those of the list that was read
    have hsettled := (settled_of_waiting h.fleet.books (.inl hphase)).runningSet_eq
    have hwaiting : state.fleet.supervision.phase ≠ .deciding := by simp [hphase]
    rw [Deployment.view, Deployment.view, reconciled_eq hwaiting, ← hsettled, hunseen]
    rfl
  | providerGone =>
    obtain ⟨⟨hphase, -⟩, rfl⟩ := when_eq_some.mp hmove
    cases hrest
    exact view_eq rfl rfl rfl rfl rfl rfl (by simp [hphase]) (by simp)
  | cancelled =>
    obtain ⟨hphase, rfl⟩ := when_eq_some.mp hmove
    obtain ⟨-, rfl⟩ := when_eq_some.mp hrest
    refine view_eq rfl rfl rfl rfl rfl rfl ?_ (by simp)
    rcases hphase with hphase | hphase <;> simp [hphase]
  | drained id =>
    simp only [taskStep, Option.ite_none_right_eq_some] at hmove
    obtain ⟨⟨hphase, -⟩, hdrain⟩ := hmove
    obtain ⟨task, -, rfl⟩ := Option.map_eq_some_iff.mp hdrain
    cases hrest
    exact view_eq rfl rfl rfl rfl rfl rfl (by simp [hphase]) (by simp [hphase])

/-- A step of the tasks, or of what they hear of, is not seen. -/
theorem supervision_kept {fleet next : Fleet} {label : FleetLabel} (hlabel : ∀ l, label ≠ .supervise l)
    (hstep : fleetStep codec config fleet label = some next) : next.supervision = fleet.supervision := by
  cases label with
  | supervise label => exact absurd rfl (hlabel label)
  | task handle label =>
    obtain ⟨found, moved, -, -, -, -, rfl⟩ := task_step hstep
    rfl
  | sent device_types =>
    obtain ⟨moved, -, rfl⟩ := Option.map_eq_some_iff.mp hstep
    rfl
  | senderDropped =>
    cases hstep
    rfl
  | cancel =>
    cases hstep
    rfl

/-- How a step of the fleet comes about in the deployment. -/
theorem fleet_step {label : FleetLabel} (hstep : deploymentStep codec proxy config state (.fleet label) = some next) :
    (∀ cloud, label ≠ .supervise (.sent cloud)) ∧ label ≠ .supervise .closed ∧
      (label = .senderDropped → state.fleet.cancelled = true) ∧
      ∃ fleet, fleetStep codec config state.fleet label = some fleet ∧ { state with fleet } = next := by
  cases label with
  | supervise label =>
    cases label with
    | sent | closed => cases hstep
    | borrowed | advance | joined | changed | providerGone | cancelled | drained =>
      exact ⟨by simp, by simp, by simp, Option.map_eq_some_iff.mp hstep⟩
  | senderDropped =>
    obtain ⟨hcancelled, hmove⟩ := Option.ite_none_right_eq_some.mp hstep
    exact ⟨by simp, by simp, fun _ => hcancelled, Option.map_eq_some_iff.mp hmove⟩
  | task | sent | cancel => exact ⟨by simp, by simp, by simp, Option.map_eq_some_iff.mp hstep⟩

/-- A poll of the provider is the same poll. -/
theorem view_poll {turn : Turn proxy} {consumers : Bool}
    (hstep : deploymentStep codec proxy config state (.poll turn consumers) = some next) :
    step proxy config (state.view config) (.poll turn consumers) = some (next.view config) := by
  obtain ⟨hopen, hmove⟩ := Option.ite_none_left_eq_some.mp hstep
  have hopen : (state.view config).stopped = false := Bool.eq_false_of_not_eq_true hopen
  simp only [step, Deployment.view] at hopen hmove ⊢
  split at hmove
  · rename_i hsent
    cases hmove
    simp only [hsent, when, hopen, if_true]
  · rename_i servers hsent
    split at hmove
    · rename_i hconsumers
      obtain ⟨fleet, hfleet, rfl⟩ := Option.map_eq_some_iff.mp hmove
      simp only [fleetStep, taskStep, Option.bind_eq_bind, Option.bind_eq_some_iff] at hfleet
      obtain ⟨supervision, hsupervision, hnext⟩ := hfleet
      obtain ⟨-, rfl⟩ := when_eq_some.mp hsupervision
      cases hnext
      simp only [hsent, when, hopen, hconsumers, if_true, Bool.true_or]
      rfl
    · rename_i hconsumers
      obtain ⟨-, hmove⟩ := Option.ite_none_right_eq_some.mp hmove
      obtain ⟨fleet, hfleet, rfl⟩ := Option.map_eq_some_iff.mp hmove
      cases hfleet
      simp only [hsent, when, hopen, if_neg hconsumers, if_true]
      rfl

/-- A list that is read is reconciled at once. -/
theorem view_borrowed {order : List String}
    (hstep : deploymentStep codec proxy config state (.fleet (.supervise (.borrowed order))) = some next) :
    step proxy config (state.view config) .reconcile = some (next.view config) := by
  obtain ⟨-, -, -, fleet, hfleet, rfl⟩ := fleet_step hstep
  simp only [fleetStep, taskStep, Option.bind_eq_bind, Option.bind_eq_some_iff] at hfleet
  obtain ⟨supervision, hsupervision, hnext⟩ := hfleet
  obtain ⟨⟨hphase, -⟩, rfl⟩ := when_eq_some.mp hsupervision
  cases hnext
  simp only [step, Deployment.view, reconciled, hphase, when]
  simp

theorem liveInv_step {label : DeploymentLabel proxy} (h : LiveInv config state.fleet)
    (hstep : deploymentStep codec proxy config state label = some next) : LiveInv config next.fleet := by
  cases label with
  | poll turn consumers =>
    obtain ⟨-, hmove⟩ := Option.ite_none_left_eq_some.mp hstep
    split at hmove
    · cases hmove
      exact h
    · split at hmove
      · obtain ⟨fleet, hfleet, rfl⟩ := Option.map_eq_some_iff.mp hmove
        exact h.step (by simp) hfleet
      · obtain ⟨-, hmove⟩ := Option.ite_none_right_eq_some.mp hmove
        obtain ⟨fleet, hfleet, rfl⟩ := Option.map_eq_some_iff.mp hmove
        exact h.step (by simp) hfleet
  | providerCancelled =>
    obtain ⟨-, hmove⟩ := Option.ite_none_right_eq_some.mp hstep
    obtain ⟨fleet, hfleet, rfl⟩ := Option.map_eq_some_iff.mp hmove
    exact h.step (by simp) hfleet
  | fleet label =>
    obtain ⟨-, -, hdropped, fleet, hfleet, rfl⟩ := fleet_step hstep
    exact h.step hdropped hfleet

variable (codec proxy config) in
/-- The deployment does what the provider does with a supervisor that reconciles at
once. -/
def refinement : Refinement (deployment codec proxy config) (machine proxy config) where
  Inv state := LiveInv config state.fleet
  abs := Deployment.view config
  seen := seenLabel proxy
  start := by
    intro state hstart
    obtain ⟨hprovider, hfleet, hclosed⟩ := hstart
    refine ⟨liveInv_initial hfleet, ?_⟩
    obtain ⟨⟨hsent, hrunning, -, hphase, -⟩, -⟩ := hfleet
    have hview : state.view config = ⟨.new, false, [], state.fleet.supervision.unseen || true, runningSet .empty⟩ := by
      simp only [Deployment.view, reconciled, hprovider, hclosed, hsent, hphase, hrunning]
      rfl
    rw [Bool.or_true] at hview
    exact hview
  kept := fun _ _ _ => liveInv_step
  hidden := by
    intro state label next h hstep hseen
    cases label with
    | poll | providerCancelled => cases hseen
    | fleet label =>
      obtain ⟨hsent, hclosed, -, fleet, hfleet, rfl⟩ := fleet_step hstep
      cases label with
      | supervise label =>
        apply view_supervise h _ _ _ hfleet
        · rintro cloud rfl
          exact hsent cloud rfl
        · rintro rfl
          exact hclosed rfl
        · rintro order rfl
          cases hseen
      | task | sent | senderDropped | cancel =>
        have hsame := supervision_kept (by simp) hfleet
        simp only [Deployment.view, hsame]
  shown := by
    intro state label next seen h hstep hseen
    cases label with
    | poll turn consumers =>
      cases hseen
      exact view_poll hstep
    | providerCancelled =>
      cases hseen
      obtain ⟨⟨-, hopen⟩, hmove⟩ := Option.ite_none_right_eq_some.mp hstep
      obtain ⟨fleet, hfleet, rfl⟩ := Option.map_eq_some_iff.mp hmove
      cases hfleet
      simp only [machine, step, Deployment.view, when, hopen, if_true]
      rfl
    | fleet label =>
      cases label with
      | supervise label =>
        cases label with
        | borrowed order =>
          cases hseen
          have hmove : deploymentStep codec proxy config state (.fleet (.supervise (.borrowed order))) = some next := hstep
          exact view_borrowed hmove
        | sent | closed | advance | joined | changed | providerGone | cancelled | drained => cases hseen
      | task | sent | senderDropped | cancel => cases hseen

end Refinement

section Served

variable {codec : TextCodec} {proxy : C8yProxy} {config : Config} {state final : Deployment}

/-- What a poll reads can be sent: no server is in it twice. -/
theorem exists_poll (turn : Turn proxy) (hopen : state.fleet.supervision.closed = false) :
    ∃ next, deploymentStep codec proxy config state (.poll turn true) = some next := by
  apply Option.isSome_iff_exists.mp
  simp only [deploymentStep, hopen, Bool.false_eq_true, if_false]
  split
  · rfl
  · rename_i servers hsent
    have hsent' : (poll proxy config turn.responses (state.view config).provider).sent = some servers := hsent
    obtain ⟨gateway_mo_id, -, hfetch⟩ := poll_sent hsent'
    have hdistinct := nodup_fetch (turn.faulty gateway_mo_id) hfetch
    simp [fleetStep, taskStep, when, hopen, hdistinct]

/-- At a wait point the tasks that run in the deployment's view are the servers served. -/
theorem view_running_iff (h : LiveInv config state.fleet) (hcancelled : state.fleet.cancelled = false)
    (hphase : state.fleet.supervision.phase = .waiting ∨ state.fleet.supervision.phase = .orphaned) (id : String) :
    ((state.view config).running.get id).isSome ↔ ∃ server, state.fleet.Serves server ∧ server.id = id := by
  have hlive : state.fleet.supervision.phase ≠ .deciding := by
    rcases hphase with hphase | hphase <;> simp [hphase]
  have hsettled := (settled_of_waiting h.fleet.books hphase).runningSet_eq
  have hview : (state.view config).running = runningSet state.fleet.supervision.running := by
    rw [Deployment.view, reconciled_eq hlive, hsettled]
  rw [hview, get_runningSet, Option.isSome_map]
  constructor
  · intro hsome
    obtain ⟨task, hget⟩ := Option.isSome_iff_exists.mp hsome
    have hid := h.fleet.books.named id task hget
    refine ⟨task.running.server, (h.serves_iff_running hcancelled hphase _).mpr ⟨task, ?_, rfl⟩, hid⟩
    rw [show task.running.server.id = id from hid, hget]
  · rintro ⟨server, hserves, rfl⟩
    obtain ⟨task, hget, -⟩ := (h.serves_iff_running hcancelled hphase server).mp hserves
    rw [hget, Option.isSome_some]

/-- Each poll of a run finds the server registered and spares it. -/
def PollsSpare (config : Config) (id : String) (state : Deployment) (label : DeploymentLabel proxy) : Prop :=
  ∀ seen, seenLabel proxy state label = some seen → RegisteredAndSpared config id (state.view config) seen

/-- Whatever the provider, the supervisor and the tasks do in which order, the deployment
does what it would with a supervisor that reconciles at once: each step is a step of
that machine, or it is not seen. No poll is held up. At every wait point before the
process is cancelled a task runs for each server of the merged list as it is configured
there, and for no other. -/
theorem deployment_refines (h : (deployment codec proxy config).Reachable state) :
    (machine proxy config).Reachable (state.view config) ∧
      (∀ label next, deploymentStep codec proxy config state label = some next →
        match seenLabel proxy state label with
        | some seen => step proxy config (state.view config) seen = some (next.view config)
        | none => next.view config = state.view config) ∧
      (∀ turn, state.fleet.supervision.closed = false →
        ∃ next, deploymentStep codec proxy config state (.poll turn true) = some next) ∧
      (state.fleet.cancelled = false →
        state.fleet.supervision.phase = .waiting ∨ state.fleet.supervision.phase = .orphaned →
        (state.fleet.supervision.unseen = false → state.fleet.supervision.seen = (state.view config).cloud) ∧
        (∀ server, state.fleet.Serves server ↔
          server ∈ merge_servers state.fleet.supervision.seen config.servers) ∧
        ∀ id, ((state.view config).running.get id).isSome ↔ ∃ server, state.fleet.Serves server ∧ server.id = id) := by
  have hlive : LiveInv config state.fleet := (refinement codec proxy config).inv h
  refine ⟨(refinement codec proxy config).reachable h, fun label next hstep => ?_, fun turn => exists_poll turn,
    fun hcancelled hphase => ?_⟩
  · cases hseen : seenLabel proxy state label with
    | none => exact (refinement codec proxy config).hidden state label next hlive hstep hseen
    | some seen => exact (refinement codec proxy config).shown state label next seen hlive hstep hseen
  · have hlater : state.fleet.supervision.phase ≠ .deciding := by
      rcases hphase with hphase | hphase <;> simp [hphase]
    exact ⟨hlive.fleet.books.latest hlater, hlive.serves_iff hcancelled hphase, view_running_iff hlive hcancelled hphase⟩

/-- The deployment as it starts. -/
def Deployment.initial : Deployment := ⟨.new, ⟨.initial, ⟨⟨[], [], false⟩, ⟨0⟩, []⟩, false⟩⟩

/-- A server is polled and started. -/
def sampleStart : List (DeploymentLabel ⟨"c8y"⟩) :=
  [.poll sampleTurn true, .fleet (.supervise (.borrowed [])), .fleet (.supervise .advance),
    .fleet (.supervise .advance), .fleet (.supervise .advance), .fleet (.supervise .advance)]

theorem sample_deployment_refines :
    ∃ state, (deployment plainCodec ⟨"c8y"⟩ .default).Reachable state ∧
      state.fleet.supervision.phase = .waiting ∧ ∃ server, state.fleet.Serves server ∧ server.id = "42" := by
  obtain ⟨state, hrun, hphase, hcancelled, hrunning⟩ : ∃ state,
      (deployment plainCodec ⟨"c8y"⟩ .default).exec .initial sampleStart = some state ∧
        state.fleet.supervision.phase = .waiting ∧ state.fleet.cancelled = false ∧
        ((state.view .default).running.get "42").isSome = true := ⟨_, rfl, rfl, rfl, rfl⟩
  have hreach : (deployment plainCodec ⟨"c8y"⟩ .default).Reachable state :=
    Machine.Reachable.exec (.start ⟨rfl, ⟨⟨rfl, rfl, rfl, rfl, rfl, rfl, rfl, rfl⟩, rfl, ⟨rfl, rfl, rfl⟩, rfl⟩, rfl⟩) hrun
  obtain ⟨-, -, -, hwaiting⟩ := deployment_refines hreach
  obtain ⟨-, -, hserved⟩ := hwaiting hcancelled (.inl hphase)
  exact ⟨state, hreach, hphase, (hserved "42").mp hrunning⟩

/-- A server that is registered and served stays served, at every wait point of every run
whose polls spare it. -/
theorem served_server_kept {id : String} {ls : List (DeploymentLabel proxy)}
    (h : (deployment codec proxy config).Reachable state) (hcloud : id ∈ serverIds state.fleet.supervision.sent)
    (hserved : ((state.view config).running.get id).isSome)
    (hguard : (deployment codec proxy config).Guarded (PollsSpare config id) state ls)
    (hrun : (deployment codec proxy config).exec state ls = some final)
    (hcancelled : final.fleet.cancelled = false)
    (hphase : final.fleet.supervision.phase = .waiting ∨ final.fleet.supervision.phase = .orphaned) :
    id ∈ serverIds final.fleet.supervision.sent ∧ ∃ server, final.fleet.Serves server ∧ server.id = id := by
  let r := refinement codec proxy config
  have hinv : r.Inv state := r.inv h
  have hkept := Machine.exec_invariant
    (fun s : State => id ∈ serverIds s.cloud ∧ (s.running.get id).isSome)
    (fun s l next hs hg hstep => by
      obtain ⟨hnext, hrunning⟩ := step_keeps hg hstep hs.1
      exact ⟨hnext, hrunning hs.2⟩)
    (r.guarded (fun _ _ seen hspare hseen => hspare seen hseen) hinv hguard) ⟨hcloud, hserved⟩ (r.exec hinv hrun)
  have hfinal : LiveInv config final.fleet := r.inv (Machine.Reachable.exec h hrun)
  exact ⟨hkept.1, (view_running_iff hfinal hcancelled hphase id).mp hkept.2⟩

/-- An outage that hits the listing costs no server its task. -/
theorem sample_server_kept :
    ∃ final, (deployment plainCodec ⟨"c8y"⟩ .default).exec .initial (sampleStart ++ [.poll turnWithoutPages true]) =
      some final ∧ ∃ server, final.fleet.Serves server ∧ server.id = "42" := by
  obtain ⟨state, final, hstart, hrun, hcloud, hrunning, hcancelled, hphase⟩ : ∃ state final,
      (deployment plainCodec ⟨"c8y"⟩ .default).exec .initial sampleStart = some state ∧
        (deployment plainCodec ⟨"c8y"⟩ .default).exec state [.poll turnWithoutPages true] = some final ∧
        serverIds state.fleet.supervision.sent = ["42"] ∧
        ((state.view .default).running.get "42").isSome = true ∧ final.fleet.cancelled = false ∧
        final.fleet.supervision.phase = .waiting := ⟨_, _, rfl, rfl, rfl, rfl, rfl, rfl⟩
  have hreach : (deployment plainCodec ⟨"c8y"⟩ .default).Reachable state :=
    Machine.Reachable.exec (.start ⟨rfl, ⟨⟨rfl, rfl, rfl, rfl, rfl, rfl, rfl, rfl⟩, rfl, ⟨rfl, rfl, rfl⟩, rfl⟩, rfl⟩) hstart
  have hspare : PollsSpare .default "42" state (.poll turnWithoutPages true) := by
    intro seen hseen
    cases hseen
    refine ⟨stillRegistered_sample _ _ rfl, fun gateway_mo_id hgateway => .inl ⟨1, .CloudUnreachable, ?_, rfl⟩⟩
    exact ⟨le_rfl, by decide, fun _ h1 h2 => absurd h1 (by omega)⟩
  have hguard : (deployment plainCodec ⟨"c8y"⟩ .default).Guarded (PollsSpare .default "42") state
      [.poll turnWithoutPages true] := ⟨hspare, fun _ _ => trivial⟩
  have hkept := served_server_kept hreach (by simp [hcloud]) hrunning hguard hrun hcancelled (.inl hphase)
  refine ⟨final, ?_, hkept.2⟩
  rw [Machine.exec_append, hstart]
  exact hrun

end Served

end gateway.cloud_servers
