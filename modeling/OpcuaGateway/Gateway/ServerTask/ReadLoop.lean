import OpcuaGateway.Gateway.Publish.Batches
import OpcuaGateway.Gateway.ServerTask.Run

open transition ordered_map tedge.topic tedge.mqtt mapping.value mapping.payload mapping.resolve gateway.publish

namespace gateway.server_task

/-- What is left to do in a cycle: an action of a value, or the flush at the end. -/
inductive CycleWork where
  | act (node : ResolvedNode) (data_value : DataValue) (action : Action)
  | flush
  deriving DecidableEq

/-- The actions of a value, in order. A bad value has none to handle. -/
def valueWork (entry : ResolvedNode × DataValue) : List CycleWork :=
  if is_bad entry.2 then [] else entry.1.actions.map (.act entry.1 entry.2)

/-- A node gets the value at its own position. Nodes that the answer is too short for
get none. -/
def cycleWork (nodes : List ResolvedNode) (values : List DataValue) : List CycleWork :=
  (nodes.zip values).flatMap valueWork ++ [.flush]

/-- Where the loop stands. Messages that are listed wait to be handed to the client. -/
inductive ReadPhase where
  /-- In the select, waiting for a cancellation or a tick. -/
  | waiting
  | reading
  | publishing (work : List CycleWork) (messages : List Publish)
  | cancelled
  | gaveUp
  | aborted
  deriving DecidableEq

/-- A cyclic read loop with its history, oldest first: the answers of the server, none
for a request that failed, and the messages that were handed to the client. -/
structure ReadState where
  phase : ReadPhase
  failures : Nat
  publisher : Publisher
  outcomes : List (Option (List DataValue))
  handed : List Publish
  deriving DecidableEq

inductive ReadLabel where
  | cancel
  | tick
  | readOk (values : List DataValue)
  | readFailed
  /-- The loop goes on, up to and including the next message it hands over. -/
  | advance (now : DateTime)
  | abort
  deriving DecidableEq

/-- Positions at which the task can be suspended, and aborted. -/
def ReadPhase.isAwait : ReadPhase → Bool
  | .waiting | .reading => true
  | .publishing _ messages => !messages.isEmpty
  | .cancelled | .gaveUp | .aborted => false

def ReadPhase.isRunning : ReadPhase → Bool
  | .waiting | .reading | .publishing _ _ => true
  | .cancelled | .gaveUp | .aborted => false

section Loop

variable (render : Rendering)

def CycleWork.perform (now : DateTime) (publisher : Publisher) : CycleWork → Publisher × List Publish
  | .act node data_value action => publisher.acceptAction render now node data_value action
  | .flush => publisher.flush render now

/-- The next message, the next piece of work, or the next cycle. -/
def ReadState.advance (now : DateTime) (state : ReadState) : Option ReadState :=
  match state.phase with
  | .publishing work (message :: messages) =>
    some { state with phase := .publishing work messages, handed := state.handed ++ [message] }
  | .publishing (work :: rest) [] =>
    let (next, messages) := work.perform render now state.publisher
    some { state with phase := .publishing rest messages, publisher := next }
  | .publishing [] [] => some { state with phase := .waiting }
  | _ => none

variable (entity : EntityTopicId) (nodes : List ResolvedNode)

/-- A request for no nodes is not sent, and answers nothing. -/
def readStep (state : ReadState) : ReadLabel → Option ReadState
  | .cancel => when (state.phase = .waiting) { state with phase := .cancelled }
  | .tick => when (state.phase = .waiting) { state with phase := .reading }
  | .readOk values =>
    when (state.phase = .reading ∧ (nodes = [] → values = [])) { state with
      phase := .publishing (cycleWork nodes values) []
      failures := 0
      outcomes := state.outcomes ++ [some values] }
  | .readFailed =>
    let failures := state.failures + 1
    when (state.phase = .reading ∧ nodes ≠ []) { state with
      phase := if MAX_CONSECUTIVE_READ_FAILURES ≤ failures then .gaveUp else .waiting
      failures
      outcomes := state.outcomes ++ [none] }
  | .advance now => state.advance render now
  | .abort => when (state.phase.isAwait = true) { state with phase := .aborted }

/-- Cyclically read one group of nodes and publish what they map to. -/
def read_loop : Machine ReadState ReadLabel where
  start state := state = ⟨.waiting, 0, .new entity true, [], []⟩
  step := readStep render nodes

end Loop

section Cycles

variable (render : Rendering) (entity : EntityTopicId) (nodes : List ResolvedNode)

/-- One cycle: every value is accepted for the node at its position, then the batch is
flushed. -/
def Cycle (values : List DataValue) (publisher next : Publisher) (messages : List Publish) : Prop :=
  ∃ (readings : List Reading) (now : DateTime),
    readings.map (fun reading => (reading.node, reading.data_value)) = nodes.zip values ∧
      next = ((publisher.acceptAll render readings).1.flush render now).1 ∧
      messages = (publisher.acceptAll render readings).2 ++ ((publisher.acceptAll render readings).1.flush render now).2

/-- What the answers of the server come to, one complete cycle after the other. A
request that fails neither publishes nor forgets anything. -/
inductive Cycles : List (Option (List DataValue)) → Publisher → List Publish → Prop
  | start : Cycles [] (.new entity true) []
  | failed {outcomes : List (Option (List DataValue))} {publisher : Publisher} {published : List Publish}
      (h : Cycles outcomes publisher published) : Cycles (outcomes ++ [none]) publisher published
  | read {outcomes : List (Option (List DataValue))} {values : List DataValue} {publisher next : Publisher}
      {published messages : List Publish} (h : Cycles outcomes publisher published)
      (hcycle : Cycle render nodes values publisher next messages) :
      Cycles (outcomes ++ [some values]) next (published ++ messages)

variable {render entity nodes}

/-- No batch is left between two cycles. -/
theorem Cycles.batch_empty {outcomes : List (Option (List DataValue))} {publisher : Publisher} {published : List Publish}
    (h : Cycles render entity nodes outcomes publisher published) :
    publisher.batch = .empty ∧ publisher.pending_series = 0 := by
  induction h with
  | start => exact ⟨rfl, rfl⟩
  | failed _ ih => exact ih
  | read _ hcycle _ =>
    obtain ⟨readings, now, -, rfl, -⟩ := hcycle
    exact ⟨rfl, rfl⟩

end Cycles

section Work

variable {render : Rendering} {nodes : List ResolvedNode} {values : List DataValue} {publisher : Publisher}

variable (render) in
/-- Pieces of work one after the other, each under its own reading of the clock. -/
def performAll : Publisher → List (CycleWork × DateTime) → Publisher × List Publish
  | publisher, [] => (publisher, [])
  | publisher, (work, now) :: rest =>
    let (next, first) := work.perform render now publisher
    let (last, others) := performAll next rest
    (last, first ++ others)

theorem performAll_append (first second : List (CycleWork × DateTime)) :
    performAll render publisher (first ++ second) =
      ((performAll render (performAll render publisher first).1 second).1,
        (performAll render publisher first).2 ++ (performAll render (performAll render publisher first).1 second).2) := by
  induction first generalizing publisher with
  | nil => rfl
  | cons head rest ih =>
    obtain ⟨work, now⟩ := head
    simp only [List.cons_append, performAll, ih, List.append_assoc]

theorem performAll_concat (done : List (CycleWork × DateTime)) (work : CycleWork) (now : DateTime) :
    performAll render publisher (done ++ [(work, now)]) =
      ((work.perform render now (performAll render publisher done).1).1,
        (performAll render publisher done).2 ++ (work.perform render now (performAll render publisher done).1).2) := by
  rw [performAll_append]
  simp only [performAll, List.append_nil]

/-- The actions of a value are those that `accept` goes through, under the clock as they
read it. -/
theorem performAll_actions {node : ResolvedNode} {data_value : DataValue} {actions : List Action}
    {done : List (CycleWork × DateTime)} (hdone : done.map Prod.fst = actions.map (.act node data_value)) :
    ∃ clock, performAll render publisher done =
      Publisher.acceptActions render node data_value publisher actions clock := by
  induction actions generalizing publisher done with
  | nil =>
    obtain rfl := List.map_eq_nil_iff.mp hdone
    exact ⟨fun _ => 0, rfl⟩
  | cons action rest ih =>
    obtain ⟨⟨work, now⟩, others, rfl, hwork, hothers⟩ := List.map_eq_cons_iff.mp hdone
    subst hwork
    obtain ⟨clock, hclock⟩ := @ih (publisher.acceptAction render now node data_value action).1 others hothers
    refine ⟨fun i => i.casesOn now clock, ?_⟩
    simp only [performAll, CycleWork.perform, hclock, Publisher.acceptActions]
    rfl

theorem performAll_values {entries : List (ResolvedNode × DataValue)} {done : List (CycleWork × DateTime)}
    (hdone : done.map Prod.fst = entries.flatMap valueWork) :
    ∃ readings : List Reading, readings.map (fun reading => (reading.node, reading.data_value)) = entries ∧
      performAll render publisher done = publisher.acceptAll render readings := by
  induction entries generalizing publisher done with
  | nil =>
    obtain rfl := List.map_eq_nil_iff.mp hdone
    exact ⟨[], rfl, rfl⟩
  | cons entry rest ih =>
    obtain ⟨node, data_value⟩ := entry
    rw [List.flatMap_cons] at hdone
    obtain ⟨first, others, rfl, hfirst, hothers⟩ := List.map_eq_append_iff.mp hdone
    obtain ⟨clock, hclock⟩ : ∃ clock, performAll render publisher first =
        publisher.accept render clock node data_value := by
      unfold Publisher.accept
      unfold valueWork at hfirst
      split at hfirst
      · rename_i hbad
        obtain rfl := List.map_eq_nil_iff.mp hfirst
        exact ⟨fun _ => 0, by rw [if_pos hbad]; rfl⟩
      · rename_i hgood
        obtain ⟨clock, hclock⟩ := performAll_actions hfirst
        exact ⟨clock, by rw [if_neg hgood, hclock]⟩
    obtain ⟨readings, hreadings, hrest⟩ := @ih (publisher.accept render clock node data_value).1 others hothers
    refine ⟨⟨node, data_value, clock⟩ :: readings, by rw [List.map_cons, hreadings], ?_⟩
    rw [performAll_append, hclock, hrest]
    rfl

/-- The work of a cycle, done in order, is the cycle. -/
theorem cycle_of_performAll {done : List (CycleWork × DateTime)} (hdone : done.map Prod.fst = cycleWork nodes values) :
    Cycle render nodes values publisher (performAll render publisher done).1 (performAll render publisher done).2 := by
  obtain ⟨accepted, last, rfl, haccepted, hlast⟩ := List.map_eq_append_iff.mp hdone
  obtain ⟨⟨work, now⟩, rfl, hflush⟩ : ∃ entry, last = [entry] ∧ entry.1 = .flush := by
    obtain ⟨entry, rest, rfl, hentry, hrest⟩ := List.map_eq_cons_iff.mp hlast
    obtain rfl := List.map_eq_nil_iff.mp hrest
    exact ⟨entry, rfl, hentry⟩
  subst hflush
  obtain ⟨readings, hreadings, hperformed⟩ := @performAll_values render publisher _ accepted haccepted
  refine ⟨readings, now, hreadings, ?_, ?_⟩
  · rw [performAll_concat, hperformed]
    rfl
  · rw [performAll_concat, hperformed]
    rfl

end Work

section Failures

variable {A : Type} {outcomes : List (Option A)} {k failures : Nat}

/-- The last outcomes, as many as are counted, are failures. -/
def Failing (failures : Nat) (outcomes : List (Option A)) : Prop :=
  ∀ k, List.replicate k none <:+ outcomes ↔ k ≤ failures

theorem failing_nil : Failing 0 ([] : List (Option A)) := by
  intro k
  rw [List.suffix_nil, List.replicate_eq_nil_iff]
  omega

theorem failing_some (outcomes : List (Option A)) (a : A) : Failing 0 (outcomes ++ [some a]) := by
  intro k
  rw [List.suffix_concat_iff]
  cases k with
  | zero => simp
  | succ k => simp [List.replicate_succ']

theorem Failing.failed (h : Failing failures outcomes) : Failing (failures + 1) (outcomes ++ [none]) := by
  intro k
  rw [List.suffix_concat_iff]
  cases k with
  | zero => simp
  | succ k =>
    have hk := h k
    simp only [List.replicate_succ', List.append_eq_nil_iff, List.cons_ne_self, and_false, false_or]
    constructor
    · rintro ⟨before, hbefore, hsuffix⟩
      rw [← (List.append_inj' hbefore rfl).1] at hsuffix
      have hle := hk.mp hsuffix
      omega
    · intro hle
      exact ⟨List.replicate k none, rfl, hk.mpr (by omega)⟩

end Failures

section Run

variable {render : Rendering} {entity : EntityTopicId} {nodes : List ResolvedNode} {state next : ReadState}

variable (render entity nodes) in
/-- Behind complete cycles the loop is in the one it has read the values for. -/
def InCycle (state : ReadState) (work : List CycleWork) (messages : List Publish) : Prop :=
  ∃ before values publisher published done,
    state.outcomes = before ++ [some values] ∧ Cycles render entity nodes before publisher published ∧
      done.map Prod.fst ++ work = cycleWork nodes values ∧
      state.publisher = (performAll render publisher done).1 ∧
      state.handed ++ messages = published ++ (performAll render publisher done).2

variable (render entity nodes) in
/-- What was handed over is what the complete cycles publish, up to where the loop stands. -/
def Followed (state : ReadState) : Prop :=
  match state.phase with
  | .waiting | .reading | .cancelled | .gaveUp =>
    Cycles render entity nodes state.outcomes state.publisher state.handed
  | .publishing work messages => InCycle render entity nodes state work messages
  | .aborted => ∃ publisher published, Cycles render entity nodes state.outcomes publisher published ∧
      state.handed <+: published

theorem Followed.advance (h : Followed render entity nodes state) {now : DateTime}
    (hstep : state.advance render now = some next) : Followed render entity nodes next := by
  unfold ReadState.advance at hstep
  split at hstep
  · rename_i work message messages hphase
    cases hstep
    rw [Followed, hphase] at h
    obtain ⟨before, values, publisher, published, done, houtcomes, hcycles, hwork, hpublisher, hhanded⟩ := h
    exact ⟨before, values, publisher, published, done, houtcomes, hcycles, hwork, hpublisher, by simp [← hhanded]⟩
  · rename_i work rest hphase
    cases hstep
    rw [Followed, hphase] at h
    obtain ⟨before, values, publisher, published, done, houtcomes, hcycles, hwork, hpublisher, hhanded⟩ := h
    rw [List.append_nil] at hhanded
    refine ⟨before, values, publisher, published, done ++ [(work, now)], houtcomes, hcycles, ?_, ?_, ?_⟩
    · simp [← hwork]
    · rw [performAll_concat, hpublisher]
      rfl
    · rw [performAll_concat, hpublisher, hhanded, List.append_assoc]
      rfl
  · rename_i hphase
    cases hstep
    rw [Followed, hphase] at h
    obtain ⟨before, values, publisher, published, done, houtcomes, hcycles, hwork, hpublisher, hhanded⟩ := h
    rw [List.append_nil] at hhanded hwork
    change Cycles render entity nodes state.outcomes state.publisher state.handed
    rw [houtcomes, hpublisher, hhanded]
    exact hcycles.read (cycle_of_performAll hwork)
  · cases hstep

/-- The rest of the cycle could still be done. -/
theorem InCycle.completed {work : List CycleWork} {messages : List Publish}
    (h : InCycle render entity nodes state work messages) :
    ∃ publisher published, Cycles render entity nodes state.outcomes publisher published ∧
      state.handed <+: published := by
  obtain ⟨before, values, publisher, published, done, houtcomes, hcycles, hwork, hpublisher, hhanded⟩ := h
  have hall : (done ++ work.map fun piece => (piece, (0 : DateTime))).map Prod.fst = cycleWork nodes values := by
    rw [List.map_append, List.map_map, ← hwork]
    simp [Function.comp_def]
  have hcycle := @cycle_of_performAll render nodes values publisher _ hall
  refine ⟨_, _, houtcomes ▸ hcycles.read hcycle, ?_⟩
  have hsplit : published ++ (performAll render publisher (done ++ work.map fun piece => (piece, (0 : DateTime)))).2 =
      state.handed ++ (messages ++ (performAll render (performAll render publisher done).1
        (work.map fun piece => (piece, (0 : DateTime)))).2) := by
    rw [performAll_append, ← List.append_assoc, ← hhanded, List.append_assoc]
  rw [hsplit]
  exact List.prefix_append _ _

/-- Where the loop stands is followed wherever it can be aborted. -/
theorem Followed.prefixes (h : Followed render entity nodes state) :
    ∃ publisher published, Cycles render entity nodes state.outcomes publisher published ∧
      state.handed <+: published := by
  unfold Followed at h
  split at h
  · exact ⟨_, _, h, List.prefix_rfl⟩
  · exact ⟨_, _, h, List.prefix_rfl⟩
  · exact ⟨_, _, h, List.prefix_rfl⟩
  · exact ⟨_, _, h, List.prefix_rfl⟩
  · exact h.completed
  · exact h

theorem Followed.step (h : Followed render entity nodes state) {label : ReadLabel}
    (hstep : readStep render nodes state label = some next) : Followed render entity nodes next := by
  cases label with
  | cancel =>
    obtain ⟨hphase, rfl⟩ := when_eq_some.mp hstep
    rwa [Followed, hphase] at h
  | tick =>
    obtain ⟨hphase, rfl⟩ := when_eq_some.mp hstep
    rwa [Followed, hphase] at h
  | readOk values =>
    obtain ⟨⟨hphase, -⟩, rfl⟩ := when_eq_some.mp hstep
    rw [Followed, hphase] at h
    refine ⟨state.outcomes, values, state.publisher, state.handed, [], rfl, h, rfl, rfl, rfl⟩
  | readFailed =>
    obtain ⟨⟨hphase, -⟩, rfl⟩ := when_eq_some.mp hstep
    rw [Followed, hphase] at h
    by_cases hle : MAX_CONSECUTIVE_READ_FAILURES ≤ state.failures + 1
    · rw [if_pos hle]
      exact h.failed
    · rw [if_neg hle]
      exact h.failed
  | advance now => exact h.advance hstep
  | abort =>
    obtain ⟨-, rfl⟩ := when_eq_some.mp hstep
    exact h.prefixes

/-- The loop counts the failures at the end of its history, and has given up with the
third in a row. -/
structure Striking (state : ReadState) : Prop where
  failing : Failing state.failures state.outcomes
  gaveUp : state.phase = .gaveUp ↔ MAX_CONSECUTIVE_READ_FAILURES ≤ state.failures
  earlier : ∀ before outcome, state.outcomes = before ++ [outcome] →
    ¬ List.replicate MAX_CONSECUTIVE_READ_FAILURES none <:+: before
  alive : state.phase ≠ .gaveUp → ¬ List.replicate MAX_CONSECUTIVE_READ_FAILURES none <:+: state.outcomes

/-- A step without an answer keeps the count. -/
theorem Striking.stay (h : Striking state) (hbefore : state.phase ≠ .gaveUp) (hafter : next.phase ≠ .gaveUp)
    (hfailures : next.failures = state.failures) (houtcomes : next.outcomes = state.outcomes) : Striking next := by
  refine ⟨by rw [hfailures, houtcomes]; exact h.failing, ?_, by rw [houtcomes]; exact h.earlier,
    fun _ => by rw [houtcomes]; exact h.alive hbefore⟩
  have hfew := (not_congr h.gaveUp).mp hbefore
  rw [hfailures]
  exact ⟨fun hgaveUp => absurd hgaveUp hafter, fun hle => absurd hle hfew⟩

/-- An answer, or a failure, behind a history without three failures in a row. -/
theorem Striking.answered (h : Striking state) (hbefore : state.phase ≠ .gaveUp) {outcome : Option (List DataValue)}
    (houtcomes : next.outcomes = state.outcomes ++ [outcome]) (hfailing : Failing next.failures next.outcomes)
    (hgaveUp : next.phase = .gaveUp ↔ MAX_CONSECUTIVE_READ_FAILURES ≤ next.failures) : Striking next := by
  refine ⟨hfailing, hgaveUp, fun before last hsplit => ?_, fun halive => ?_⟩
  · rw [houtcomes] at hsplit
    rw [← (List.append_inj' hsplit rfl).1]
    exact h.alive hbefore
  · rw [houtcomes, List.infix_concat_iff, ← houtcomes, not_or]
    exact ⟨fun hsuffix => halive (hgaveUp.mpr ((hfailing _).mp hsuffix)), h.alive hbefore⟩

theorem Striking.step (h : Striking state) {label : ReadLabel}
    (hstep : readStep render nodes state label = some next) : Striking next := by
  cases label with
  | cancel =>
    obtain ⟨hphase, rfl⟩ := when_eq_some.mp hstep
    exact h.stay (by simp [hphase]) (by simp) rfl rfl
  | tick =>
    obtain ⟨hphase, rfl⟩ := when_eq_some.mp hstep
    exact h.stay (by simp [hphase]) (by simp) rfl rfl
  | readOk values =>
    obtain ⟨⟨hphase, -⟩, rfl⟩ := when_eq_some.mp hstep
    apply h.answered (by simp [hphase]) rfl
    · exact failing_some state.outcomes values
    · simp [MAX_CONSECUTIVE_READ_FAILURES]
  | readFailed =>
    obtain ⟨⟨hphase, -⟩, rfl⟩ := when_eq_some.mp hstep
    apply h.answered (by simp [hphase]) rfl
    · exact h.failing.failed
    · by_cases hle : MAX_CONSECUTIVE_READ_FAILURES ≤ state.failures + 1 <;> simp [hle]
  | advance now =>
    simp only [readStep, ReadState.advance] at hstep
    split at hstep
    · rename_i hphase
      cases hstep
      exact h.stay (by simp [hphase]) (by simp) rfl rfl
    · rename_i hphase
      cases hstep
      exact h.stay (by simp [hphase]) (by simp) rfl rfl
    · rename_i hphase
      cases hstep
      exact h.stay (by simp [hphase]) (by simp) rfl rfl
    · cases hstep
  | abort =>
    obtain ⟨hawait, rfl⟩ := when_eq_some.mp hstep
    refine h.stay ?_ (by simp) rfl rfl
    rintro hphase
    rw [hphase] at hawait
    cases hawait

theorem striking_start : Striking ⟨.waiting, 0, .new entity true, [], []⟩ := by
  refine ⟨failing_nil, ?_, fun before outcome hsplit => ?_, fun _ => ?_⟩
  · simp [MAX_CONSECUTIVE_READ_FAILURES]
  · simp at hsplit
  · rw [List.infix_nil, List.replicate_eq_nil_iff, MAX_CONSECUTIVE_READ_FAILURES]
    omega

/-- The reader of a server task is this loop: whatever the loop does is a turn of the
reader, or nothing that the task sees. -/
theorem reader_turn_of_readStep (schedule : ReadSchedule) {label : ReadLabel} (hlabel : label ≠ .abort)
    (hstep : readStep render nodes state label = some next) :
    let reader (state : ReadState) : Reader :=
      ⟨.read_loop entity schedule nodes, state.failures, state.phase.isRunning⟩
    reader next = reader state ∨ ∃ event, (reader state).turn event = some (reader next) := by
  intro reader
  cases label with
  | cancel =>
    obtain ⟨hphase, rfl⟩ := when_eq_some.mp hstep
    exact Or.inr ⟨.cancelled, rfl⟩
  | tick =>
    obtain ⟨hphase, rfl⟩ := when_eq_some.mp hstep
    exact Or.inl (by simp [reader, hphase, ReadPhase.isRunning])
  | readOk values =>
    obtain ⟨⟨hphase, -⟩, rfl⟩ := when_eq_some.mp hstep
    exact Or.inr ⟨.readOk, by simp [reader, hphase, ReadPhase.isRunning, Reader.turn]⟩
  | readFailed =>
    obtain ⟨⟨hphase, -⟩, rfl⟩ := when_eq_some.mp hstep
    refine Or.inr ⟨.readFailed, ?_⟩
    by_cases hle : MAX_CONSECUTIVE_READ_FAILURES ≤ state.failures + 1
    · simp [reader, Reader.turn, hle, Nat.not_lt.mpr hle, ReadPhase.isRunning]
    · simp [reader, Reader.turn, hle, Nat.lt_of_not_le hle, ReadPhase.isRunning]
  | advance now =>
    simp only [readStep, ReadState.advance] at hstep
    left
    split at hstep
    · rename_i hphase
      cases hstep
      simp [reader, hphase, ReadPhase.isRunning]
    · rename_i hphase
      cases hstep
      simp [reader, hphase, ReadPhase.isRunning]
    · rename_i hphase
      cases hstep
      simp [reader, hphase, ReadPhase.isRunning]
    · cases hstep
  | abort => exact absurd rfl hlabel

variable (render entity nodes)

/-- Cyclic reading over any run. Whatever the server answers and wherever the task is
aborted, what was handed to the client is what the complete cycles of the answers
publish, up to that point, and all of it whenever the loop waits or has ended on its
own; no measurement is left batched then. The loop gives up exactly with the third
failure in a row. -/
theorem read_loop_cycles (h : (read_loop render entity nodes).Reachable state) :
    (∃ publisher published, Cycles render entity nodes state.outcomes publisher published ∧
      state.handed <+: published) ∧
    (state.phase ∈ [.waiting, .cancelled, .gaveUp] →
      Cycles render entity nodes state.outcomes state.publisher state.handed ∧
        state.publisher.batch = .empty ∧ state.publisher.pending_series = 0) ∧
    (state.phase = .gaveUp ↔ List.replicate MAX_CONSECUTIVE_READ_FAILURES none <:+: state.outcomes) ∧
    ∀ before outcome, state.outcomes = before ++ [outcome] →
      ¬ List.replicate MAX_CONSECUTIVE_READ_FAILURES none <:+: before := by
  obtain ⟨hfollowed, hstriking⟩ : Followed render entity nodes state ∧ Striking state := by
    refine h.invariant (fun state => Followed render entity nodes state ∧ Striking state) (fun s hs => ?_)
      fun s l next hinv _ hstep => ⟨hinv.1.step hstep, hinv.2.step hstep⟩
    rw [hs]
    exact ⟨.start, striking_start⟩
  refine ⟨hfollowed.prefixes, fun hphase => ?_, ⟨fun hgaveUp => ?_, fun hinfix => ?_⟩, hstriking.earlier⟩
  · have hcycles : Cycles render entity nodes state.outcomes state.publisher state.handed := by
      simp only [List.mem_cons, List.not_mem_nil, or_false] at hphase
      rcases hphase with hphase | hphase | hphase <;> rwa [Followed, hphase] at hfollowed
    exact ⟨hcycles, hcycles.batch_empty⟩
  · exact ((hstriking.failing _).mpr (hstriking.gaveUp.mp hgaveUp)).isInfix
  · by_contra halive
    exact hstriking.alive halive hinfix

end Run

/-- One cycle, then a server that is gone. -/
def failingReads : List ReadLabel :=
  [.tick, .readOk [goodValue (.Boolean true)], .advance 0, .advance 0, .advance 0, .advance 0] ++
    [.tick, .readFailed, .tick, .readFailed, .tick, .readFailed]

/-- The loop gives up, and what it has measured is handed to the client. -/
theorem read_loop_cycles_of_failingReads :
    ∃ state, (read_loop plainRendering (.child_device "pump") [flowNode "flow"]).Reachable state ∧
      state.phase = .gaveUp ∧ state.handed.length = 1 ∧
      Cycles plainRendering (.child_device "pump") [flowNode "flow"] state.outcomes state.publisher state.handed := by
  obtain ⟨state, hrun, hphase, hhanded⟩ : ∃ state,
      (read_loop plainRendering (.child_device "pump") [flowNode "flow"]).exec
        ⟨.waiting, 0, .new (.child_device "pump") true, [], []⟩ failingReads = some state ∧
      state.phase = .gaveUp ∧ state.handed.length = 1 := ⟨_, rfl, by decide, by decide⟩
  have hreach : (read_loop plainRendering (.child_device "pump") [flowNode "flow"]).Reachable state :=
    Machine.Reachable.exec (.start rfl) hrun
  obtain ⟨-, hsettled, -⟩ := read_loop_cycles plainRendering (.child_device "pump") [flowNode "flow"] hreach
  obtain ⟨hcycles, -⟩ := hsettled (by simp [hphase])
  exact ⟨state, hreach, hphase, hhanded, hcycles⟩

end gateway.server_task
