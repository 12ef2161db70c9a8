import OpcuaGateway.Gateway.CloudServers
import OpcuaGateway.Gateway.DeviceTypes
import OpcuaGateway.Gateway.ServerTask.Backoff

open transition backoff ordered_map mapping.namespace_table mapping.source gateway.config tedge.proxy

namespace gateway.device_types

/-- The delay that the current turn of the loop ends with, once it is known. -/
def ProviderPhase.delay : ProviderPhase → Option Nat
  | .listing delay | .readText delay .. | .readMetadata delay .. | .waiting _ delay => some delay
  | .fetching | .finished => none

def ProviderLabel.isFetched : ProviderLabel → Bool
  | .fetched _ => true
  | _ => false

section Step

variable {config : Config} {decoder : Decoder} {state next : ProviderState}

/-- A read goes on with the delay and leaves the backoff. -/
theorem delay_of_readNext (h : readNext decoder state = some next) :
    next.backoff = state.backoff ∧ next.phase.delay = state.phase.delay := by
  unfold readNext at h
  split at h
  · rename_i hphase
    split at h <;> cases h <;> rw [hphase] <;> exact ⟨rfl, rfl⟩
  · rename_i hphase
    cases h
    rw [hphase]
    exact ⟨rfl, rfl⟩
  · cases h

theorem delay_of_compare {consumers : Bool} (h : compare state consumers = some next) :
    next.backoff = state.backoff ∧ (next.phase.delay = state.phase.delay ∨ next.phase.delay = none) := by
  unfold compare at h
  split at h
  · rename_i hphase
    dsimp only at h
    rw [hphase]
    split at h
    · cases h
      exact ⟨rfl, Or.inl rfl⟩
    · split at h <;> cases h
      · exact ⟨rfl, Or.inl rfl⟩
      · exact ⟨rfl, Or.inr rfl⟩
  · cases h

/-- Behind the fetch a turn keeps its delay to its end and leaves the backoff. -/
theorem delay_of_runStep {label : ProviderLabel} (hlabel : label.isFetched = false)
    (h : runStep config decoder state label = some next) :
    next.backoff = state.backoff ∧ (next.phase.delay = state.phase.delay ∨ next.phase.delay = none) := by
  cases label with
  | wrote name file =>
    obtain ⟨-, rfl⟩ := when_eq_some.mp h
    exact ⟨rfl, Or.inl rfl⟩
  | removed name =>
    cases h
    exact ⟨rfl, Or.inl rfl⟩
  | fetched outcome => cases hlabel
  | listed names =>
    simp only [runStep] at h
    split at h
    · rename_i hphase
      obtain ⟨-, rfl⟩ := when_eq_some.mp h
      rw [hphase]
      exact ⟨rfl, Or.inl rfl⟩
    · cases h
  | advance =>
    obtain ⟨hbackoff, hdelay⟩ := delay_of_readNext h
    exact ⟨hbackoff, Or.inl hdelay⟩
  | compared consumers => exact delay_of_compare h
  | slept =>
    simp only [runStep] at h
    split at h <;> cases h
    exact ⟨rfl, Or.inr rfl⟩
  | cancelled =>
    simp only [runStep] at h
    split at h <;> cases h
    exact ⟨rfl, Or.inr rfl⟩

/-- A fetch leaves the backoff, resets it or doubles it. -/
theorem backoff_of_onFetch (outcome : Option (Except ProxyError (List mapping.source.ManagedObject))) :
    (onFetch config state outcome).backoff = state.backoff ∨ (onFetch config state outcome).backoff = 1 ∨
      (onFetch config state outcome).backoff = backoff.next config.max_backoff state.backoff := by
  unfold onFetch
  split
  · exact Or.inl rfl
  · exact Or.inr (Or.inl rfl)
  · split
    · exact Or.inr (Or.inr rfl)
    · exact Or.inl rfl

theorem bounded_backoff (hcap : 1 ≤ config.max_backoff) (hdouble : config.max_backoff * 2 < 2 ^ 64)
    (h : (run config decoder).Reachable state) : Bounded (2 ^ 64) config.max_backoff state.backoff := by
  refine h.invariant (fun state => Bounded (2 ^ 64) config.max_backoff state.backoff) ?_ ?_
  · rintro start ⟨-, -, -, -, hone, -⟩
    rw [hone]
    exact .one (by decide)
  · intro before label next hinv _ hstep
    cases hfetched : label.isFetched with
    | false =>
      rw [(delay_of_runStep hfetched hstep).1]
      exact hinv
    | true =>
      cases label with
      | fetched outcome =>
        obtain ⟨-, rfl⟩ := when_eq_some.mp hstep
        rcases @backoff_of_onFetch config before outcome with hsame | hone | hdoubled
        · rwa [hsame]
        · rw [hone]
          exact .one (by decide)
        · rw [hdoubled]
          exact hinv.next hcap hdouble
      | _ => cases hfetched

end Step

section Delays

variable (config : Config) (decoder : Decoder)

/-- Every wait at the end of a turn whose fetch failed for now pauses the provider, is
within the cap and can be doubled as a number of seconds. -/
def DelaysBounded : Prop :=
  ∀ state failed final error labels listed delay, (run config decoder).Reachable state →
    error.is_transient = true → (run config decoder).step state (.fetched (some (.error error))) = some failed →
    (run config decoder).exec failed labels = some final → (∀ label ∈ labels, label.isFetched = false) →
    final.phase = .waiting listed delay → Bounded (2 ^ 64) config.max_backoff delay

/-- The provider of an empty directory after some failed fetches. -/
def failing (backoff : Nat) (phase : ProviderPhase) : ProviderState where
  files := .empty
  history := []
  written := false
  pulled := []
  backoff
  revision := .empty
  sent := []
  phase

theorem failing_fetched (delay : Nat) :
    (run config decoder).step (failing delay .fetching) (.fetched (some (.error .CloudUnreachable))) =
      some (failing (next config.max_backoff delay) (.listing delay)) := rfl

theorem failing_exec (backoff delay : Nat) :
    (run config decoder).exec (failing backoff (.listing delay)) [.listed [], .compared true] =
      some (failing backoff (.waiting [] delay)) := rfl

/-- The provider can fail to fetch any number of times in a row. -/
theorem reachable_after (n : Nat) :
    (run config decoder).Reachable (failing (after config.max_backoff n) .fetching) := by
  induction n with
  | zero => exact .start ⟨List.nodup_nil, rfl, rfl, rfl, rfl, rfl, rfl, rfl⟩
  | succ n ih =>
    have hwaiting := (Machine.ReachableUnder.step ih trivial (failing_fetched config decoder _)).exec
      (Machine.guarded_true _ _) (failing_exec config decoder _ _)
    exact .step (l := .slept) hwaiting trivial rfl

theorem delaysBounded_iff :
    DelaysBounded config decoder ↔ 1 ≤ config.max_backoff ∧ config.max_backoff * 2 < 2 ^ 64 := by
  constructor
  · intro hall
    refine (bounded_after_iff (by decide)).mp fun n => ?_
    exact hall _ _ _ .CloudUnreachable [.listed [], .compared true] [] _ (reachable_after config decoder n) rfl
      (failing_fetched config decoder _) (failing_exec config decoder _ _) (by decide) rfl
  · rintro ⟨hcap, hdouble⟩ state failed final error labels listed delay hreach htransient hfetched hrun hlabels hfinal
    have hbounded := bounded_backoff hcap hdouble hreach
    have hfailed : failed.phase.delay = some state.backoff := by
      obtain ⟨-, rfl⟩ := when_eq_some.mp hfetched
      simp only [onFetch, htransient, if_true]
      rfl
    have hguard : (run config decoder).Guarded (fun _ label => label.isFetched = false) failed labels :=
      Machine.guarded_of_forall fun label hmem _ => hlabels label hmem
    have hkept : final.phase.delay = some state.backoff ∨ final.phase.delay = none := by
      refine Machine.exec_invariant
        (fun state' => state'.phase.delay = some state.backoff ∨ state'.phase.delay = none)
        (fun before label next hinv hlabel hstep => ?_) hguard (Or.inl hfailed) hrun
      rcases (delay_of_runStep hlabel hstep).2 with hsame | hnone
      · rwa [hsame]
      · exact Or.inr hnone
    rw [hfinal] at hkept
    rcases hkept with hdelay | hnone
    · cases hdelay
      exact hbounded
    · cases hnone

end Delays

end gateway.device_types

namespace gateway.cloud_servers

section Delays

variable (proxy : C8yProxy) (config : Config)

/-- The provider after polls that met these responses. -/
def Provider.after (polls : List Responses) : Provider :=
  polls.foldl (fun provider responses => (poll proxy config responses provider).provider) .new

/-- The poll ends without the gateway object, or with a fetch that failed for now. -/
def backsOff (responses : Responses) (provider : Provider) : Bool :=
  match (lookUpGateway proxy config responses provider).provider.gateway_mo_id with
  | some id =>
    match fetch proxy config responses id with
    | .error error => error.is_transient
    | .ok _ => false
  | none => true

/-- Every wait behind such a poll pauses the provider, is within the cap and can be
doubled as a number of seconds. -/
def DelaysBounded : Prop :=
  ∀ polls responses, backsOff proxy config responses (.after proxy config polls) = true →
    Bounded (2 ^ 64) config.max_backoff (poll proxy config responses (.after proxy config polls)).delay

end Delays

section Poll

variable {proxy : C8yProxy} {config : Config} {responses : Responses}

/-- The backoff of the provider is bounded, and so is the delay if the poll backs off. -/
def BoundedPoll (config : Config) (polled : Poll) (backsOff : Prop) : Prop :=
  Bounded (2 ^ 64) config.max_backoff polled.provider.backoff ∧
    (backsOff → Bounded (2 ^ 64) config.max_backoff polled.delay)

variable (hcap : 1 ≤ config.max_backoff) (hdouble : config.max_backoff * 2 < 2 ^ 64)

include hcap hdouble

theorem boundedPoll_backOff {polled : Poll} (h : Bounded (2 ^ 64) config.max_backoff polled.provider.backoff)
    (backsOff : Prop) : BoundedPoll config (polled.backOff config) backsOff :=
  ⟨h.next hcap hdouble, fun _ => h⟩

theorem boundedPoll_lookUpGateway {provider : Provider}
    (h : Bounded (2 ^ 64) config.max_backoff provider.backoff) :
    BoundedPoll config (lookUpGateway proxy config responses provider)
      ((lookUpGateway proxy config responses provider).provider.gateway_mo_id = none) := by
  unfold lookUpGateway
  dsimp only
  split
  · rename_i hknown
    refine ⟨h, fun hnone => ?_⟩
    rw [show provider.gateway_mo_id = none from hnone] at hknown
    cases hknown
  · split
    · exact ⟨.one (by decide), fun hnone => by cases hnone⟩
    · exact boundedPoll_backOff hcap hdouble h _
    · exact boundedPoll_backOff hcap hdouble h _

theorem boundedPoll_pollServers {looked : Poll}
    (h : Bounded (2 ^ 64) config.max_backoff looked.provider.backoff) (id : String) :
    BoundedPoll config (pollServers proxy config responses looked id)
      (∃ error, fetch proxy config responses id = .error error ∧ error.is_transient = true) := by
  unfold pollServers
  split
  · rename_i servers hfetch
    have hnever : ¬ ∃ error, fetch proxy config responses id = .error error ∧ error.is_transient = true := by
      rintro ⟨error, herror, -⟩
      cases hfetch.symm.trans herror
    dsimp only
    split <;> exact ⟨.one (by decide), fun hbacks => absurd hbacks hnever⟩
  · rename_i error hfetch
    split
    · exact boundedPoll_backOff hcap hdouble h _
    · rename_i hlasting
      have hnever : ¬ ∃ error, fetch proxy config responses id = .error error ∧ error.is_transient = true := by
        rintro ⟨other, hother, htransient⟩
        cases hfetch.symm.trans hother
        exact hlasting htransient
      split <;> exact ⟨h, fun hbacks => absurd hbacks hnever⟩

theorem boundedPoll_poll {provider : Provider} (h : Bounded (2 ^ 64) config.max_backoff provider.backoff) :
    BoundedPoll config (poll proxy config responses provider) (backsOff proxy config responses provider = true) := by
  obtain ⟨hlooked, hdelay⟩ := @boundedPoll_lookUpGateway proxy config responses hcap hdouble provider h
  rw [poll, backsOff]
  cases hid : (lookUpGateway proxy config responses provider).provider.gateway_mo_id with
  | some id =>
    obtain ⟨hbackoff, hfetch⟩ := @boundedPoll_pollServers proxy config responses hcap hdouble _ hlooked id
    refine ⟨hbackoff, fun hbacks => hfetch ?_⟩
    dsimp only at hbacks
    split at hbacks
    · rename_i error herror
      exact ⟨error, herror, hbacks⟩
    · cases hbacks
  | none => exact ⟨hlooked, fun _ => hdelay hid⟩

end Poll

section Delays

variable (proxy : C8yProxy) (config : Config)

/-- No request is answered. -/
def outage : Responses := fun _ _ => ⟨.failed, .failed⟩

theorem poll_outage (backoff : Nat) :
    poll proxy config outage ⟨none, backoff, "", 0⟩ =
      ⟨⟨none, next config.max_backoff backoff, "", 0⟩, backoff, none⟩ := rfl

/-- The provider can fail to look the gateway up any number of times in a row. -/
theorem after_outage (n : Nat) :
    Provider.after proxy config (List.replicate n outage) = ⟨none, backoff.after config.max_backoff n, "", 0⟩ := by
  induction n with
  | zero => rfl
  | succ n ih =>
    rw [Provider.after] at ih ⊢
    rw [List.replicate_succ', List.foldl_append, ih, List.foldl_cons, List.foldl_nil, poll_outage]
    rfl

theorem delaysBounded_iff :
    DelaysBounded proxy config ↔ 1 ≤ config.max_backoff ∧ config.max_backoff * 2 < 2 ^ 64 := by
  constructor
  · intro hall
    refine (bounded_after_iff (by decide)).mp fun n => ?_
    have hdelay := hall (List.replicate n outage) outage
    rw [after_outage, poll_outage] at hdelay
    exact hdelay rfl
  · rintro ⟨hcap, hdouble⟩ polls responses hbacks
    refine (boundedPoll_poll hcap hdouble ?_).2 hbacks
    rw [Provider.after]
    refine List.foldlRecOn polls _
      (motive := fun provider : Provider => Bounded (2 ^ 64) config.max_backoff provider.backoff)
      (Bounded.one (by decide)) fun provider hbounded earlier _ => ?_
    exact (boundedPoll_poll hcap hdouble hbounded).1

end Delays

end gateway.cloud_servers

namespace gateway.retries

/-- Each of the three loops keeps its delays bounded exactly when the configured cap is
at least one second and can be doubled. -/
theorem retry_delays_bounded_iff (codec : TextCodec) (config : Config) (server : ServerConfig)
    (known_server_ids : List String) (decoder : Decoder) (proxy : C8yProxy) :
    (server_task.DelaysBounded codec config server known_server_ids ↔
      1 ≤ config.max_backoff ∧ config.max_backoff * 2 < 2 ^ 64) ∧
    (device_types.DelaysBounded config decoder ↔
      1 ≤ config.max_backoff ∧ config.max_backoff * 2 < 2 ^ 64) ∧
    (cloud_servers.DelaysBounded proxy config ↔
      1 ≤ config.max_backoff ∧ config.max_backoff * 2 < 2 ^ 64) :=
  ⟨server_task.delaysBounded_iff codec config server known_server_ids,
    device_types.delaysBounded_iff config decoder, cloud_servers.delaysBounded_iff proxy config⟩

/-- The gateway device with a cap of zero seconds. -/
def zeroCapConfig : Config :=
  { Config.default with
    runtime := { RuntimeConfig.default with max_backoff_secs := 0 }
    gateway := { GatewayConfig.default with device_id := "device" } }

theorem zeroCapConfig_valid : zeroCapConfig.validate true = .ok () := by rfl

/-- Under a cap of zero, which is accepted, the second retry of each loop follows at once. -/
theorem zero_cap_retries_at_once :
    ¬ ∀ codec (config : Config) dirExists server known_server_ids decoder proxy,
      config.validate dirExists = .ok () →
      server_task.DelaysBounded codec config server known_server_ids ∧
      device_types.DelaysBounded config decoder ∧ cloud_servers.DelaysBounded proxy config := by
  intro hall
  obtain ⟨htask, -, -⟩ := hall server_task.plainCodec zeroCapConfig true (server_task.sampleServer "b") []
    ⟨fun _ => none, fun _ => none⟩ ⟨"c8y"⟩ zeroCapConfig_valid
  have hsecond := server_task.reachable_after server_task.plainCodec zeroCapConfig (server_task.sampleServer "b") [] 1
  have hrun : (server_task.run server_task.plainCodec zeroCapConfig (server_task.sampleServer "b") []).exec
      ⟨false, false, ⟨[], false, false⟩, 0, .looping⟩ [.proceed, .connectFailed] =
        some ⟨false, false, ⟨[], false, false⟩, 0, .retryWait⟩ := rfl
  have hpause := (htask _ 0 (hsecond.exec hrun) rfl).pauses
  omega

end gateway.retries
