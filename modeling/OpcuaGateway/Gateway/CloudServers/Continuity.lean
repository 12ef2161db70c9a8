import OpcuaGateway.Gateway.CloudServers.Outage
import OpcuaGateway.Gateway.CloudServers.Adoption

open json tedge.proxy gateway.config gateway.supervisor transition

namespace gateway.cloud_servers

/-- The provider and the supervisor with the channel between them. -/
structure State where
  provider : Provider
  stopped : Bool
  cloud : CloudServers
  /-- The supervisor has not seen the current value of the channel. -/
  changed : Bool
  running : RunningSet

/-- One poll together with what Cumulocity holds at its time. -/
structure Turn (proxy : C8yProxy) where
  inventory : Inventory
  responses : Responses
  faulty : ∀ gateway_mo_id, FaultyAnswers proxy inventory responses gateway_mo_id

inductive Label (proxy : C8yProxy) where
  | poll (turn : Turn proxy) (consumers : Bool)
  | reconcile
  | cancel

section Machine

variable (proxy : C8yProxy) (config : Config)

/-- One turn of the provider's loop, one of the supervisor's, or the end of the
provider. Without consumers left nothing is sent and the provider ends. -/
def step (s : State) : Label proxy → Option State
  | .poll turn consumers =>
    let polled := poll proxy config turn.responses s.provider
    match polled.sent with
    | some servers =>
      when (s.stopped = false)
        (if consumers then { s with provider := polled.provider, cloud := servers, changed := true }
        else { s with provider := polled.provider, stopped := true })
    | none => when (s.stopped = false) { s with provider := polled.provider }
  | .reconcile =>
    when (s.changed = true)
      { s with changed := false, running := supervisor.reconcile s.running (desired config s.cloud) }
  | .cancel => when (s.stopped = false) { s with stopped := true }

/-- Nothing has been read and nothing runs. The supervisor starts with the empty value. -/
def State.initial : State := ⟨.new, false, [], true, .empty⟩

def machine : Machine State (Label proxy) where
  start s := s = .initial
  step := step proxy config

end Machine

variable {proxy : C8yProxy} {config : Config}

/-- The gateway object a poll reads the children of. -/
def polledGateway (proxy : C8yProxy) (config : Config) (s : State) (turn : Turn proxy) : Option String :=
  (lookUpGateway proxy config turn.responses s.provider).provider.gateway_mo_id

/-- Only a poll that has read a list sends one. -/
theorem poll_sent {s : State} {turn : Turn proxy} {servers : CloudServers}
    (hsent : (poll proxy config turn.responses s.provider).sent = some servers) :
    ∃ gateway_mo_id, polledGateway proxy config s turn = some gateway_mo_id ∧
      fetch proxy config turn.responses gateway_mo_id = .ok servers := by
  have hlooked : (lookUpGateway proxy config turn.responses s.provider).sent = none := by
    unfold lookUpGateway
    dsimp only
    split
    · rfl
    · split <;> rfl
  unfold poll at hsent
  dsimp only at hsent
  split at hsent
  · rename_i id hid
    refine ⟨id, hid, ?_⟩
    unfold pollServers at hsent
    split at hsent
    · rename_i found hfound
      dsimp only at hsent
      split at hsent
      · cases hsent
        exact hfound
      · rw [hlooked] at hsent
        cases hsent
    · split at hsent
      · rw [Poll.backOff, hlooked] at hsent
        cases hsent
      · split at hsent <;> (rw [hlooked] at hsent; cases hsent)
  · rw [hlooked] at hsent
    cases hsent

/-- The server is still below the gateway object the poll reads. -/
def StillRegistered (proxy : C8yProxy) (config : Config) (id : String) (s : State) (turn : Turn proxy) :
    Prop :=
  ∀ gateway_mo_id, polledGateway proxy config s turn = some gateway_mo_id →
    turn.inventory.Registered config gateway_mo_id id

/-- The faults of the poll spare the server, or one of them makes it give up: a page
it requests fails. -/
def PollSpares (proxy : C8yProxy) (config : Config) (id : String) (s : State) (turn : Turn proxy) : Prop :=
  ∀ gateway_mo_id, polledGateway proxy config s turn = some gateway_mo_id →
    (∃ page error, Requested proxy turn.responses gateway_mo_id page ∧
      readPage proxy turn.responses gateway_mo_id page = .error error) ∨
    Spared proxy turn.inventory turn.responses gateway_mo_id id

/-- Each poll of a run that finds the server registered also spares it. -/
def RegisteredAndSpared (config : Config) (id : String) (s : State) : Label proxy → Prop
  | .poll turn _ => StillRegistered proxy config id s turn ∧ PollSpares proxy config id s turn
  | _ => True

/-- What a poll sends holds the server if and only if it is spared. -/
theorem mem_sent_iff {s : State} {turn : Turn proxy} {servers : CloudServers} {id : String}
    (hregistered : StillRegistered proxy config id s turn)
    (hsent : (poll proxy config turn.responses s.provider).sent = some servers) :
    id ∈ serverIds servers ↔ PollSpares proxy config id s turn := by
  obtain ⟨gateway_mo_id, hgateway, hfetch⟩ := poll_sent hsent
  rw [mem_fetch_iff_spared (turn.faulty gateway_mo_id) (hregistered _ hgateway) hfetch]
  constructor
  · intro hspared other hother
    cases hgateway.symm.trans hother
    exact Or.inr hspared
  · intro hspares
    refine (hspares gateway_mo_id hgateway).resolve_left ?_
    rintro ⟨page, error, hrequested, herror⟩
    cases hfetch.symm.trans (fetch_eq_error.mpr ⟨page, hrequested, herror⟩)

theorem step_keeps {s next : State} {l : Label proxy} {id : String}
    (hguard : RegisteredAndSpared config id s l) (hstep : step proxy config s l = some next)
    (hcloud : id ∈ serverIds s.cloud) :
    id ∈ serverIds next.cloud ∧ ((s.running.get id).isSome → (next.running.get id).isSome) := by
  cases l with
  | poll turn consumers =>
    simp only [step] at hstep
    split at hstep
    · rename_i servers hsent
      obtain ⟨-, rfl⟩ := when_eq_some.mp hstep
      cases consumers with
      | false => exact ⟨hcloud, fun h => h⟩
      | true => exact ⟨(mem_sent_iff hguard.1 hsent).mpr hguard.2, fun h => h⟩
    · obtain ⟨-, rfl⟩ := when_eq_some.mp hstep
      exact ⟨hcloud, fun h => h⟩
  | reconcile =>
    obtain ⟨-, rfl⟩ := when_eq_some.mp hstep
    exact ⟨hcloud, fun _ => reconcile_isSome (mem_ids_merge_servers.mpr (Or.inl hcloud))⟩
  | cancel =>
    obtain ⟨-, rfl⟩ := when_eq_some.mp hstep
    exact ⟨hcloud, fun h => h⟩

/-- A published server that stays registered stays published, and its task stays
running, in every run whose polls spare it. A poll that sends a list sends the
server exactly when it spares it. -/
theorem published_server_kept_iff_spared (proxy : C8yProxy) (config : Config) (id : String) :
    (∀ s final ls, (machine proxy config).Reachable s → id ∈ serverIds s.cloud →
      (machine proxy config).Guarded (RegisteredAndSpared config id) s ls →
      (machine proxy config).exec s ls = some final →
      id ∈ serverIds final.cloud ∧ ((s.running.get id).isSome → (final.running.get id).isSome)) ∧
    ∀ s turn servers, (machine proxy config).Reachable s → StillRegistered proxy config id s turn →
      (poll proxy config turn.responses s.provider).sent = some servers →
      (id ∈ serverIds servers ↔ PollSpares proxy config id s turn) := by
  refine ⟨fun s final ls _ hcloud hguard hrun => ?_, fun s turn servers _ => mem_sent_iff⟩
  refine Machine.exec_invariant
    (fun t => id ∈ serverIds t.cloud ∧ ((s.running.get id).isSome → (t.running.get id).isSome))
    (fun t l next ht hg hstep => ?_) hguard ⟨hcloud, fun h => h⟩ hrun
  obtain ⟨hnext, hrunning⟩ := step_keeps hg hstep ht.1
  exact ⟨hnext, fun h => hrunning (ht.2 h)⟩

/-- One server below whatever gateway object. -/
def sampleInventory : Inventory where
  children _ := ["42"]
  distinct _ := List.nodup_singleton "42"
  object _ := sampleObject

/-- A proxy that answers everything. -/
def sampleAnswers : Responses
  | .gatewayObject => answer (sampleReference "1")
  | .page 1 => answer (.ofMembers [("references", .array [sampleReference "42"])])
  | .page _ => answer (.ofMembers [("references", .array [])])
  | .object _ _ => answer sampleObject
  | .lookup _ _ => answer (sampleReference "42")
  | .create _ _ => fun _ => ⟨.answered 201 none, .failed⟩

/-- The mapper cannot reach Cumulocity. -/
def unreachable : Endpoint := fun _ => ⟨.answered 502 none, .failed⟩

def withoutObjects : Responses
  | .object _ _ => unreachable
  | place => sampleAnswers place

def withoutPages : Responses
  | .page _ => unreachable
  | place => sampleAnswers place

theorem sample_faultyAnswers {responses : Responses}
    (h : ∀ place, responses place = sampleAnswers place ∨ responses place = unreachable)
    (gateway_mo_id : String) : FaultyAnswers ⟨"c8y"⟩ sampleInventory responses gateway_mo_id := by
  refine ⟨fun page hpos => ?_, fun page index id => ?_⟩
  · simp only [Listed, readPage]
    rcases h (.page page) with hplace | hplace <;> rw [hplace]
    · rcases Nat.eq_or_lt_of_le hpos with rfl | hlt
      · exact Or.inl ⟨[sampleReference "42"], rfl, rfl⟩
      · match page, hlt with
        | _ + 2, _ => exact Or.inr (Or.inl rfl)
    · exact Or.inr (Or.inr ⟨.CloudUnreachable, rfl⟩)
  · rcases h (.object page index) with hplace | hplace <;> rw [hplace]
    · exact Or.inl rfl
    · exact Or.inr ⟨.CloudUnreachable, rfl⟩

def sampleTurn : Turn ⟨"c8y"⟩ where
  inventory := sampleInventory
  responses := sampleAnswers
  faulty := sample_faultyAnswers fun _ => Or.inl rfl

def turnWithoutObjects : Turn ⟨"c8y"⟩ where
  inventory := sampleInventory
  responses := withoutObjects
  faulty := sample_faultyAnswers fun place => by cases place <;> simp [withoutObjects]

def turnWithoutPages : Turn ⟨"c8y"⟩ where
  inventory := sampleInventory
  responses := withoutPages
  faulty := sample_faultyAnswers fun place => by cases place <;> simp [withoutPages]

/-- The sample server has been published. -/
def publishedState : State where
  provider := ⟨some "1", 1, revision_of [sampleServer], 0⟩
  stopped := false
  cloud := [sampleServer]
  changed := true
  running := .empty

theorem publishedState_reachable : (machine ⟨"c8y"⟩ .default).Reachable publishedState :=
  .step (l := .poll sampleTurn true) (.start rfl) trivial rfl

theorem stillRegistered_sample (s : State) (turn : Turn ⟨"c8y"⟩)
    (hinventory : turn.inventory = sampleInventory) : StillRegistered ⟨"c8y"⟩ .default "42" s turn := by
  intro gateway_mo_id _
  rw [hinventory]
  exact ⟨List.mem_singleton.mpr rfl, rfl, rfl⟩

/-- An outage that hits the listing keeps the server published. -/
theorem published_server_kept_without_pages :
    ∃ final, (machine ⟨"c8y"⟩ .default).exec publishedState [.poll turnWithoutPages true] = some final ∧
      "42" ∈ serverIds final.cloud := by
  have hspared : PollSpares ⟨"c8y"⟩ .default "42" publishedState turnWithoutPages := by
    intro gateway_mo_id _
    refine Or.inl ⟨1, .CloudUnreachable, ⟨le_rfl, by decide, fun _ h1 h2 => absurd h1 (by omega)⟩, rfl⟩
  refine ⟨_, rfl, ?_⟩
  exact ((published_server_kept_iff_spared ⟨"c8y"⟩ .default "42").1 publishedState _
    [.poll turnWithoutPages true] publishedState_reachable (by decide)
    ⟨⟨stillRegistered_sample _ _ rfl, hspared⟩, fun _ _ => trivial⟩ rfl).1

/-- An outage that hits only the object of a server publishes a list without it. -/
theorem published_server_dropped_without_objects :
    ¬ ∀ s turn next, (machine ⟨"c8y"⟩ .default).Reachable s → "42" ∈ serverIds s.cloud →
      StillRegistered ⟨"c8y"⟩ .default "42" s turn →
      step ⟨"c8y"⟩ .default s (.poll turn true) = some next → "42" ∈ serverIds next.cloud := by
  intro hall
  have hmem := hall publishedState turnWithoutObjects _ publishedState_reachable (by decide)
    (stillRegistered_sample _ _ rfl) rfl
  revert hmem
  decide

end gateway.cloud_servers
