import OpcuaGateway.Foundation.Backoff
import OpcuaGateway.Gateway.ServerTask.Served

open transition backoff mapping.namespace_table mapping.source gateway.config opcua_conn

namespace gateway.server_task

/-- The delay that the task waits out before its next connection attempt. -/
def TaskState.delay (state : TaskState) : Option Nat :=
  match state.phase with
  | .retryWait | .faultWait => some state.backoff
  | _ => none

section Step

variable {codec : TextCodec} {config : Config} {server : ServerConfig} {known_server_ids : List String}

/-- A move leaves the backoff, resets it on a session or doubles it after a wait. -/
theorem backoff_of_runStep {state next : TaskState} {label : TaskLabel}
    (h : runStep codec config server known_server_ids state label = some next) :
    next.backoff = state.backoff ∨ next.backoff = 1 ∨
      next.backoff = backoff.next config.max_backoff state.backoff := by
  cases runSteps_of_runStep h with
  | connected => exact Or.inr (Or.inl rfl)
  | slept => exact Or.inr (Or.inr rfl)
  | reader index event hturn =>
    obtain ⟨before, readers, -, rfl, -⟩ := readerTurn_steady hturn
    exact Or.inl rfl
  | woken branch hwake =>
    obtain ⟨device_types, phase, rfl, -⟩ := wake_frame hwake
    exact Or.inl rfl
  | stopCancelled => exact Or.inl rfl
  | removeCancelled => exact Or.inl rfl
  | sent => exact Or.inl rfl
  | senderDropped => exact Or.inl rfl
  | proceed => exact Or.inl rfl
  | connectFailed => exact Or.inl rfl
  | finish => exact Or.inl rfl
  | again => exact Or.inl rfl
  | backOff => exact Or.inl rfl

end Step

section Delays

variable (codec : TextCodec) (config : Config) (server : ServerConfig) (known_server_ids : List String)

/-- Every delay of the task pauses it, is within the cap and can be doubled as a
number of seconds. The first doubling of a run that does not fit is where the program
aborts; the run itself is one of the program's up to that delay. -/
def DelaysBounded : Prop :=
  ∀ state delay, (run codec config server known_server_ids).Reachable state → state.delay = some delay →
    Bounded (2 ^ 64) config.max_backoff delay

/-- The task can fail to connect any number of times in a row. -/
theorem reachable_after (n : Nat) :
    (run codec config server known_server_ids).Reachable
      ⟨false, false, ⟨[], false, false⟩, after config.max_backoff n, .looping⟩ := by
  induction n with
  | zero => exact .start ⟨rfl, rfl, rfl, rfl⟩
  | succ n ih =>
    have hrun : (run codec config server known_server_ids).exec
        ⟨false, false, ⟨[], false, false⟩, after config.max_backoff n, .looping⟩ [.proceed, .connectFailed, .slept] =
          some ⟨false, false, ⟨[], false, false⟩, after config.max_backoff (n + 1), .looping⟩ := rfl
    exact ih.exec hrun

theorem delaysBounded_iff :
    DelaysBounded codec config server known_server_ids ↔
      1 ≤ config.max_backoff ∧ config.max_backoff * 2 < 2 ^ 64 := by
  constructor
  · intro hall
    refine (bounded_after_iff (by decide)).mp fun n => ?_
    have hrun : (run codec config server known_server_ids).exec
        ⟨false, false, ⟨[], false, false⟩, after config.max_backoff n, .looping⟩ [.proceed, .connectFailed] =
          some ⟨false, false, ⟨[], false, false⟩, after config.max_backoff n, .retryWait⟩ := rfl
    exact hall _ _ ((reachable_after codec config server known_server_ids n).exec hrun) rfl
  · rintro ⟨hcap, hdouble⟩ state delay hreach hdelay
    have hbounded : Bounded (2 ^ 64) config.max_backoff state.backoff := by
      refine hreach.invariant (fun state => Bounded (2 ^ 64) config.max_backoff state.backoff) ?_ ?_
      · rintro start ⟨-, -, hone, -⟩
        rw [hone]
        exact .one (by decide)
      · intro before label next hinv _ hstep
        rcases backoff_of_runStep hstep with hsame | hone | hdoubled
        · rwa [hsame]
        · rw [hone]
          exact .one (by decide)
        · rw [hdoubled]
          exact hinv.next hcap hdouble
    rw [TaskState.delay] at hdelay
    split at hdelay <;> cases hdelay <;> exact hbounded

end Delays

section Faults

variable (codec : TextCodec) (config : Config) (server : ServerConfig) (known_server_ids : List String)

/-- No stop, removal or change of the device types. -/
def TaskLabel.undisturbed : TaskLabel → Bool
  | .proceed | .connected _ | .connectFailed | .slept | .reader _ _ | .woken .readerExit | .tornDown => true
  | _ => false

def TaskLabel.isConnected : TaskLabel → Bool
  | .connected _ => true
  | _ => false

/-- The sessions that the server accepted. -/
def generations (labels : List TaskLabel) : Nat := labels.countP TaskLabel.isConnected

/-- The delay that has been waited out because a reader gave up. -/
def faultWait (state : TaskState) : TaskLabel → Option Nat
  | .slept =>
    match state.phase with
    | .faultWait => some state.backoff
    | _ => none
  | _ => none

/-- The delays of a run that were waited out because a reader gave up. -/
def faultWaits (state : TaskState) (labels : List TaskLabel) : List Nat :=
  (run codec config server known_server_ids).emitted faultWait state labels

/-- A part of a run in which every session ends because a reader gives up, from before
the first connection attempt to the wait behind the last session. -/
structure FaultedRun (state : TaskState) (labels : List TaskLabel) : Prop where
  reachable : (run codec config server known_server_ids).Reachable state
  looping : state.phase = .looping
  undisturbed : ∀ label ∈ labels, label.undisturbed = true
  completes : ∃ final, (run codec config server known_server_ids).exec state labels = some final ∧
    final.phase = .looping

/-- The `k`-th wait is that of `k` failures in a row. -/
def FaultsBackOff (state : TaskState) (labels : List TaskLabel) : Prop :=
  ∀ k < generations labels,
    (faultWaits codec config server known_server_ids state labels)[k]? = some (min (2 ^ k) config.max_backoff)

end Faults

section Faulting

variable {codec : TextCodec} {config : Config} {server : ServerConfig} {known_server_ids : List String}

/-- After `n` sessions each wait was a single second, and so is the one that the
session at hand is headed for. -/
def Faulting (n : Nat) (waits : List Nat) (state : TaskState) : Prop :=
  match state.phase with
  | .looping | .retryWait | .finished => waits = List.replicate n 1
  | .connecting => state.stop = false ∧ waits = List.replicate n 1
  | .steady _ | .teardown _ .backOff | .faultWait =>
    state.stop = false ∧ state.backoff = 1 ∧ waits ++ [1] = List.replicate n 1
  | .teardown _ _ => False

theorem generations_append (before : List TaskLabel) (label : TaskLabel) :
    generations (before ++ [label]) = generations before + if label.isConnected then 1 else 0 := by
  simp [generations, List.countP_append, List.countP_singleton]

theorem Faulting.step {before : List TaskLabel} {waits : List Nat} {state next : TaskState} {label : TaskLabel}
    (h : Faulting (generations before) waits state) (hlabel : label.undisturbed = true)
    (hstep : runStep codec config server known_server_ids state label = some next) :
    Faulting (generations (before ++ [label])) (waits ++ (faultWait state label).toList) next := by
  rw [generations_append]
  cases runSteps_of_runStep hstep with
  | proceed hphase =>
    simp only [Faulting, hphase] at h
    cases hstop : state.stop <;> cases hremove : state.remove <;>
      simp [Faulting, TaskLabel.isConnected, faultWait, h]
  | connected connection hphase =>
    simp only [Faulting, hphase] at h
    refine ⟨h.1, rfl, ?_⟩
    simp [TaskLabel.isConnected, faultWait, h.2, List.replicate_succ']
  | connectFailed hphase =>
    simp only [Faulting, hphase] at h
    simp [Faulting, TaskLabel.isConnected, faultWait, h.2]
  | slept hphase =>
    obtain hphase | hphase := hphase
    · simp only [Faulting, hphase] at h
      simp [Faulting, TaskLabel.isConnected, faultWait, hphase, h]
    · simp only [Faulting, hphase] at h
      simp [Faulting, TaskLabel.isConnected, faultWait, hphase, h]
  | reader index event hturn =>
    obtain ⟨generation, readers, hphase, rfl, -⟩ := readerTurn_steady hturn
    simp only [Faulting, hphase] at h
    simpa [Faulting, TaskLabel.isConnected, faultWait] using h
  | woken branch hwake =>
    cases branch with
    | readerExit =>
      simp only [wake, observeExit] at hwake
      split at hwake
      · rename_i hphase
        obtain ⟨-, hnext⟩ := Option.ite_none_right_eq_some.mp hwake
        cases hnext
        simp only [Faulting, hphase] at h
        simpa [Faulting, TaskLabel.isConnected, faultWait, h.1] using h.2
      · cases hwake
    | _ => cases hlabel
  | finish hphase => simp only [Faulting, hphase] at h
  | again hphase => simp only [Faulting, hphase] at h
  | backOff hphase =>
    simp only [Faulting, hphase] at h
    simpa [Faulting, TaskLabel.isConnected, faultWait] using h
  | _ => cases hlabel

/-- In such a run each session costs a wait, and each wait is a single second. -/
theorem FaultedRun.waits {state : TaskState} {labels : List TaskLabel}
    (h : FaultedRun codec config server known_server_ids state labels) :
    faultWaits codec config server known_server_ids state labels = List.replicate (generations labels) 1 := by
  obtain ⟨final, hrun, hfinal⟩ := h.completes
  have hstart : Faulting (generations []) [] state := by
    rw [Faulting, h.looping]
    rfl
  have hend : (∀ label ∈ labels, label.undisturbed = true) →
      Faulting (generations labels) (faultWaits codec config server known_server_ids state labels) final := by
    refine Machine.exec_emitted
      (fun before waits state => (∀ label ∈ before, label.undisturbed = true) → Faulting (generations before) waits state)
      (fun before waits state label next hinv hstep hall => ?_) (fun _ => hstart) hrun
    have hbefore := hinv fun other hmem => hall other (List.mem_append_left _ hmem)
    exact hbefore.step (hall label (List.mem_append_right _ (List.mem_singleton_self _))) hstep
  simpa only [Faulting, hfinal] using hend h.undisturbed

end Faulting

section Faults

variable (codec : TextCodec) (config : Config) (server : ServerConfig) (known_server_ids : List String)

/-- A session resets the backoff before a reader can give it up. The waits are those
of failures in a row only where one second is all there is to wait. -/
theorem faults_back_off_iff {state : TaskState} {labels : List TaskLabel}
    (h : FaultedRun codec config server known_server_ids state labels) :
    FaultsBackOff codec config server known_server_ids state labels ↔
      generations labels = 0 ∨
        1 ≤ config.max_backoff ∧ (generations labels = 1 ∨ config.max_backoff = 1) := by
  have hwait : ∀ k < generations labels,
      (faultWaits codec config server known_server_ids state labels)[k]? = some 1 := by
    intro k hk
    rw [h.waits, List.getElem?_replicate, if_pos hk]
  have hbacks : FaultsBackOff codec config server known_server_ids state labels ↔
      ∀ k < generations labels, 1 = min (2 ^ k) config.max_backoff := by
    refine forall₂_congr fun k hk => ?_
    rw [hwait k hk, Option.some.injEq]
  rw [hbacks]
  constructor
  · intro hall
    by_cases hnone : generations labels = 0
    · exact Or.inl hnone
    · have hfirst := hall 0 (by omega)
      refine Or.inr ⟨by omega, ?_⟩
      by_cases hsingle : generations labels = 1
      · exact Or.inl hsingle
      · have hsecond := hall 1 (by omega)
        omega
  · rintro (hnone | ⟨hcap, hsingle | hsecond⟩) k hk
    · omega
    · obtain rfl : k = 0 := by omega
      omega
    · have hpow := Nat.one_le_two_pow (n := k)
      omega

end Faults

section Sample

/-- The sample device type, read once a second. -/
def cyclicDeviceType : LoadedDeviceType :=
  { sampleDeviceType with
    device_type :=
      { sampleDeviceType.device_type with
        subscription_type := some ⟨some "CyclicRead", some ⟨some 1000, none⟩, none⟩ } }

def cyclicTask (backoff : Nat) : TaskState := ⟨false, false, ⟨[cyclicDeviceType], false, false⟩, backoff, .looping⟩

/-- A session whose only read loop fails as often as it may. -/
def faultedSession : List TaskLabel :=
  [.proceed, .connected refusingConnection, .reader 0 .readFailed, .reader 0 .readFailed, .reader 0 .readFailed,
    .woken .readerExit, .tornDown, .slept]

theorem faultedSession_exec (backoff : Nat) :
    (run plainCodec .default (sampleServer "b") []).exec (cyclicTask backoff) faultedSession = some (cyclicTask 2) :=
  rfl

theorem single_faultedSession :
    FaultedRun plainCodec .default (sampleServer "b") [] (cyclicTask 1) faultedSession where
  reachable := .start ⟨rfl, rfl, rfl, rfl⟩
  looping := rfl
  undisturbed := by decide
  completes := ⟨cyclicTask 2, faultedSession_exec 1, rfl⟩

theorem two_faultedSessions :
    FaultedRun plainCodec .default (sampleServer "b") [] (cyclicTask 1) (faultedSession ++ faultedSession) where
  reachable := .start ⟨rfl, rfl, rfl, rfl⟩
  looping := rfl
  undisturbed := by decide
  completes := by
    refine ⟨cyclicTask 2, ?_, rfl⟩
    rw [Machine.exec_append, faultedSession_exec 1]
    exact faultedSession_exec 2

theorem faults_back_off_iff_single :
    FaultsBackOff plainCodec .default (sampleServer "b") [] (cyclicTask 1) faultedSession :=
  (faults_back_off_iff plainCodec .default (sampleServer "b") [] single_faultedSession).mpr (by decide)

/-- The second of two sessions that a reader gives up is waited for as long as the
first one. -/
theorem second_fault_waits_one_second :
    ¬ ∀ codec (config : Config) server known_server_ids state labels,
      FaultedRun codec config server known_server_ids state labels →
      FaultsBackOff codec config server known_server_ids state labels := by
  intro hall
  have hsecond := hall _ _ _ _ _ _ two_faultedSessions 1 (by decide)
  rw [two_faultedSessions.waits] at hsecond
  revert hsecond
  decide

end Sample

end gateway.server_task
