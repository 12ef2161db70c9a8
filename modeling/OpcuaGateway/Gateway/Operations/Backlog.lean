import OpcuaGateway.Foundation.Mailbox
import OpcuaGateway.Foundation.Progress
import OpcuaGateway.Gateway.Main
import OpcuaGateway.Gateway.Operations

open json transition mailbox tedge.mqtt tedge.event_loop gateway.config gateway.cloud_servers gateway.main

namespace gateway.operations

/-- Where the loop of `run` stands. -/
inductive HandlerPhase where
  /-- In the select, waiting for a message or for the cancellation. -/
  | receiving
  /-- Waiting for the client to take a record or to refuse it. -/
  | publishing
  | returned
  deriving DecidableEq

/-- The handler of operations with its queue of messages, which the event loop fills. -/
structure Handler where
  queue : Mailbox IncomingMessage
  /-- The event loop has returned, and its end of the queue with it. -/
  dropped : Bool
  cancelled : Bool
  cloud : CloudServers
  phase : HandlerPhase
  /-- The messages received, each with the servers adopted at that moment. -/
  received : List (CloudServers × IncomingMessage)
  /-- The records that the client was called with. -/
  called : List Publish

inductive HandlerLabel where
  | forwarded (message : IncomingMessage)
  | senderDropped
  | adopted (cloud : CloudServers)
  | cancelled
  | received
  /-- The call of the client returns. An error is only logged. -/
  | finished
  | returned

/-- The moves of the handler itself. -/
def HandlerLabel.isOwn : HandlerLabel → Bool
  | .received => true
  | .finished => true
  | .returned => true
  | _ => false

section Handler

variable (parse : String → Option Value) (config : Config)

/-- Receive a message and call the client with the record for it, if it asks for one. -/
def receiveNext (state : Handler) : Option Handler := do
  let (message, queue) ← state.queue.receive
  let record := answer parse config state.cloud message
  some { state with
    queue
    phase := if record.isSome then .publishing else .receiving
    received := state.received ++ [(state.cloud, message)]
    called := state.called ++ record.toList }

/-- The event loop forwards a message without waiting for room. -/
def handlerStep (state : Handler) : HandlerLabel → Option Handler
  | .forwarded message =>
    when (state.dropped = false)
      { state with queue := state.queue.offer INCOMING_CAPACITY (state.phase != .returned) message }
  | .senderDropped => some { state with dropped := true }
  | .adopted cloud => some { state with cloud }
  | .cancelled => some { state with cancelled := true }
  | .received => if state.phase = .receiving then receiveNext parse config state else none
  | .finished => when (state.phase = .publishing) { state with phase := .receiving }
  | .returned =>
    when (state.phase = .receiving ∧ (state.cancelled = true ∨ state.dropped = true ∧ state.queue.queue = []))
      { state with phase := .returned }

/-- The loop of `run` from its start, with whatever servers are adopted by then. -/
def handler : Machine Handler HandlerLabel where
  start state := state.queue = .empty ∧ state.dropped = false ∧ state.cancelled = false ∧ state.phase = .receiving ∧
    state.received = [] ∧ state.called = []
  step := handlerStep parse config

/-- Every message in the queue was looked at, or the handler is gone. -/
def AtRest (state : Handler) : Prop :=
  state.phase = .returned ∨ (state.phase = .receiving ∧ state.queue.queue = [])

/-- What is called is what `run` answers to the messages received, and these are the
oldest ones of those that the queue took. -/
structure Answering (state : Handler) : Prop where
  kept : state.queue.Kept INCOMING_CAPACITY
  attended : ∀ message, .offered message .closed ∈ state.queue.history → state.phase = .returned
  heard : state.received.map Prod.snd = receivedIn state.queue.history
  answers : state.called = run parse config state.received
  ended : state.phase = .returned → state.cancelled = false → state.dropped = true ∧ state.queue.queue = []

variable {parse config} {state next : Handler}

theorem receiveNext_eq_some (h : receiveNext parse config state = some next) :
    ∃ message rest, state.queue.queue = message :: rest ∧ next = { state with
      queue := ⟨rest, state.queue.history ++ [.received message]⟩
      phase := if (answer parse config state.cloud message).isSome then .publishing else .receiving
      received := state.received ++ [(state.cloud, message)]
      called := state.called ++ (answer parse config state.cloud message).toList } := by
  obtain ⟨⟨message, queue⟩, hreceive, hnext⟩ := Option.bind_eq_some_iff.mp h
  obtain ⟨rest, hqueue, rfl⟩ := Mailbox.receive_eq_some.mp hreceive
  exact ⟨message, rest, hqueue, (Option.some.inj hnext).symm⟩

theorem run_concat (received : List (CloudServers × IncomingMessage)) (cloud : CloudServers)
    (message : IncomingMessage) : run parse config (received ++ [(cloud, message)]) =
      run parse config received ++ (answer parse config cloud message).toList := by
  rw [run, List.filterMap_append]
  cases hanswer : answer parse config cloud message <;> simp [run, hanswer]

theorem answering_start (h : (handler parse config).start state) : Answering parse config state := by
  obtain ⟨hqueue, -, -, hphase, hreceived, hcalled⟩ := h
  refine ⟨?_, fun message hmem => ?_, ?_, ?_, fun hreturned => ?_⟩
  · rw [hqueue]
    exact Mailbox.kept_empty INCOMING_CAPACITY
  · rw [hqueue] at hmem
    cases hmem
  · rw [hreceived, hqueue]
    rfl
  · rw [hcalled, hreceived]
    rfl
  · rw [hphase] at hreturned
    cases hreturned

theorem Answering.receiveNext (h : Answering parse config state) (hphase : state.phase = .receiving)
    (hstep : receiveNext parse config state = some next) : Answering parse config next := by
  obtain ⟨message, rest, hqueue, rfl⟩ := receiveNext_eq_some hstep
  have hreceive : state.queue.receive = some (message, ⟨rest, state.queue.history ++ [.received message]⟩) :=
    Mailbox.receive_eq_some.mpr ⟨rest, hqueue, rfl⟩
  refine ⟨h.kept.receive hreceive, fun other hmem => ?_, ?_, ?_, fun hreturned => ?_⟩
  · have hbefore := h.attended other (by simpa using hmem)
    rw [hphase] at hbefore
    cases hbefore
  · rw [List.map_append, h.heard, Mailbox.receivedIn_receive hreceive]
    rfl
  · rw [run_concat, ← h.answers]
  · dsimp only at hreturned
    split at hreturned <;> cases hreturned

theorem Answering.step (h : Answering parse config state) {label : HandlerLabel}
    (hstep : handlerStep parse config state label = some next) : Answering parse config next := by
  cases label with
  | forwarded message =>
    obtain ⟨hopen, rfl⟩ := when_eq_some.mp hstep
    refine ⟨h.kept.offer _ message, fun other hmem => ?_, ?_, h.answers, fun hreturned hrunning => ?_⟩
    · rcases Mailbox.closed_of_offer hmem with hgone | hbefore
      · simpa using hgone
      · exact h.attended other hbefore
    · rw [Mailbox.receivedIn_offer]
      exact h.heard
    · have hdropped := (h.ended hreturned hrunning).1
      rw [hopen] at hdropped
      cases hdropped
  | senderDropped =>
    cases hstep
    exact ⟨h.kept, h.attended, h.heard, h.answers, fun hreturned hrunning => ⟨rfl, (h.ended hreturned hrunning).2⟩⟩
  | adopted cloud =>
    cases hstep
    exact ⟨h.kept, h.attended, h.heard, h.answers, h.ended⟩
  | cancelled =>
    cases hstep
    exact ⟨h.kept, h.attended, h.heard, h.answers, fun _ hrunning => by cases hrunning⟩
  | received =>
    obtain ⟨hphase, hnext⟩ := Option.ite_none_right_eq_some.mp hstep
    exact h.receiveNext hphase hnext
  | finished =>
    obtain ⟨hphase, rfl⟩ := when_eq_some.mp hstep
    refine ⟨h.kept, fun message hmem => ?_, h.heard, h.answers, fun hreturned => by cases hreturned⟩
    have hbefore := h.attended message hmem
    rw [hphase] at hbefore
    cases hbefore
  | returned =>
    obtain ⟨⟨-, hwhy⟩, rfl⟩ := when_eq_some.mp hstep
    refine ⟨h.kept, fun _ _ => rfl, h.heard, h.answers, fun _ hrunning => hwhy.resolve_left ?_⟩
    rw [hrunning]
    exact Bool.false_ne_true

/-- What the handler has to do yet. -/
def todo (state : Handler) : Nat :=
  match state.phase with
  | .publishing => 2 * state.queue.queue.length + 2
  | .receiving => 2 * state.queue.queue.length + 1
  | .returned => 0

theorem todo_step {label : HandlerLabel} (hown : label.isOwn = true)
    (hstep : handlerStep parse config state label = some next) : todo next < todo state := by
  cases label with
  | received =>
    obtain ⟨hphase, hnext⟩ := Option.ite_none_right_eq_some.mp hstep
    obtain ⟨message, rest, hqueue, rfl⟩ := receiveNext_eq_some hnext
    simp only [todo, hphase, hqueue, List.length_cons]
    cases (answer parse config state.cloud message).isSome with
    | true =>
      simp only [if_true]
      omega
    | false =>
      simp only [Bool.false_eq_true, if_false]
      omega
  | finished =>
    obtain ⟨hphase, rfl⟩ := when_eq_some.mp hstep
    simp [todo, hphase]
  | returned =>
    obtain ⟨⟨hphase, -⟩, rfl⟩ := when_eq_some.mp hstep
    simp [todo, hphase]
  | forwarded | senderDropped | adopted | cancelled => cases hown

theorem live_of_not_atRest (hbusy : ¬ AtRest state) :
    ∃ label next, label.isOwn = true ∧ handlerStep parse config state label = some next := by
  cases hphase : state.phase with
  | returned => exact absurd (Or.inl hphase) hbusy
  | publishing => exact ⟨.finished, _, rfl, when_eq_some.mpr ⟨hphase, rfl⟩⟩
  | receiving =>
    cases hqueue : state.queue.queue with
    | nil => exact absurd (Or.inr ⟨hphase, hqueue⟩) hbusy
    | cons message rest =>
      have hreceive := Mailbox.receive_eq_some.mpr ⟨rest, hqueue, rfl⟩
      have hsome : (receiveNext parse config state).isSome = true := by
        rw [operations.receiveNext, hreceive]
        rfl
      obtain ⟨next, hnext⟩ := Option.isSome_iff_exists.mp hsome
      exact ⟨.received, next, rfl, (if_pos hphase).trans hnext⟩

theorem inevitable_rest (state : Handler) :
    (handler parse config).Inevitable (fun _ label => label.isOwn = true) AtRest state :=
  Machine.inevitable_of_measure Nat.lt_wfRel.wf todo (fun _ => True)
    (fun _ _ _ _ hown hstep => ⟨trivial, todo_step hown hstep⟩) (fun _ _ hbusy => live_of_not_atRest hbusy) trivial

variable (parse config) in
/-- The way of an operation from the event loop to the record that answers it. The queue
is first in, first out, and turns a message away only when it is full or the handler
has returned. In any interleaving the client is called with what `run` answers to the
messages received, each with the servers of its moment. A handler that nobody has
cancelled returns only when every message in the queue was received. And the handler
always gets through its queue, whatever becomes of its calls. -/
theorem operations_answered (h : (handler parse config).Reachable state) :
    Faithful INCOMING_CAPACITY state.queue.history ∧
      (∀ message, .offered message .closed ∈ state.queue.history → state.phase = .returned) ∧
      (state.received.map Prod.snd = receivedIn state.queue.history ∧
        state.called = run parse config state.received) ∧
      (state.phase = .returned → state.cancelled = false →
        state.dropped = true ∧ receivedIn state.queue.history = sentIn state.queue.history) ∧
      (handler parse config).Inevitable (fun _ label => label.isOwn = true) AtRest state := by
  have hanswering : Answering parse config state :=
    h.invariant (Answering parse config) (fun _ hstart => answering_start hstart)
      fun _ _ _ hinv _ hstep => hinv.step hstep
  refine ⟨hanswering.kept.faithful, hanswering.attended, ⟨hanswering.heard, hanswering.answers⟩, ?_,
    inevitable_rest state⟩
  intro hreturned hrunning
  obtain ⟨hdropped, hempty⟩ := hanswering.ended hreturned hrunning
  have hbooks := hanswering.kept.books
  rw [hempty, List.append_nil] at hbooks
  exact ⟨hdropped, hbooks.symm⟩

end Handler

section Sample

def configurationRequest : IncomingMessage := ⟨C8Y_OPERATION_TOPIC, "configuration"⟩

def readRequest (_ : String) : Option Value := some (.object (operationWith [("c8y_OpcuaConfiguration", .null)]).entries)

/-- Two requests, an error of the client, and the end of the event loop. -/
def requestsRun : List HandlerLabel :=
  [.forwarded configurationRequest, .forwarded configurationRequest, .received, .finished, .senderDropped, .received,
    .finished, .returned]

def idleHandler : Handler := ⟨.empty, false, false, [], .receiving, [], []⟩

theorem operations_answered_requests : ∃ state, (handler readRequest sampleConfig).Reachable state ∧
    state.phase = .returned ∧ receivedIn state.queue.history = sentIn state.queue.history ∧
    state.called.length = 2 ∧ state.called = run readRequest sampleConfig state.received := by
  obtain ⟨state, hrun, hreturned, hrunning, hlength⟩ : ∃ state,
      (handler readRequest sampleConfig).exec idleHandler requestsRun = some state ∧
        state.phase = .returned ∧ state.cancelled = false ∧ state.called.length = 2 :=
    ⟨_, rfl, rfl, rfl, rfl⟩
  have hreach : (handler readRequest sampleConfig).Reachable state :=
    Machine.Reachable.exec (.start ⟨rfl, rfl, rfl, rfl, rfl, rfl⟩) hrun
  obtain ⟨-, -, ⟨-, hanswers⟩, hended, -⟩ := operations_answered readRequest sampleConfig hreach
  exact ⟨state, hreach, hreturned, (hended hreturned hrunning).2, hlength, hanswers⟩

end Sample

end gateway.operations
