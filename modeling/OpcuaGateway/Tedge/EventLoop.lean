import OpcuaGateway.Foundation.Transition
import OpcuaGateway.Tedge.Mqtt

open json tedge.topic tedge.mqtt transition

namespace tedge.event_loop

/-- An identifier written in the conservative set, as every child device has. -/
structure DeviceId where
  id : String
  clean : ∀ c ∈ id.toList, isIdChar c

def DeviceId.sanitized (input : String) : DeviceId := ⟨sanitize_id input, fun _ => sanitize_id_isIdChar⟩

def DeviceId.entity (device : DeviceId) : EntityTopicId := .child_device device.id

/-- The publishes of the tasks that share the client: registrations, telemetry
and SmartREST records, all below child devices or outside of `te/`. -/
inductive Call where
  | register_child_device (device : DeviceId) (parent : EntityTopicId) (name type : String)
      (external_id : Option String)
  | publish_twin (device : DeviceId) (fragment : String) (payload : Value)
  | clear_twin (device : DeviceId) (fragment : String)
  | publish_smartrest (external_id record : String)
  | publish_measurement (device : DeviceId) (type : String) (payload : Value)
  | publish_measurement_meta (device : DeviceId) (type : String) (payload : Value)
  | publish_event (device : DeviceId) (type : String) (payload : Value)
  | raise_alarm (device : DeviceId) (type : String) (payload : Value)
  | clear_alarm (device : DeviceId) (type : String)

def Call.message : Call → Publish
  | .register_child_device device parent name type external_id =>
    TedgeMqtt.register_child_device device.entity parent name type external_id
  | .publish_twin device fragment payload => TedgeMqtt.publish_twin device.entity fragment payload
  | .clear_twin device fragment => TedgeMqtt.clear_twin device.entity fragment
  | .publish_smartrest external_id record => TedgeMqtt.publish_smartrest external_id record
  | .publish_measurement device type payload =>
    TedgeMqtt.publish_measurement device.entity type payload
  | .publish_measurement_meta device type payload =>
    TedgeMqtt.publish_measurement_meta device.entity type payload
  | .publish_event device type payload => TedgeMqtt.publish_event device.entity type payload
  | .raise_alarm device type payload => TedgeMqtt.raise_alarm device.entity type payload
  | .clear_alarm device type => TedgeMqtt.clear_alarm device.entity type

structure IncomingMessage where
  topic : String
  payload : String
  deriving DecidableEq

/-- Where the event-loop task is: in its `select!` on `poll`, inside the branch of
a connection acknowledgement with these topics left to subscribe, in the reconnect
delay, or returned. -/
inductive Phase where
  | polling
  | subscribing (rest : List String)
  | sleeping
  | stopped
  deriving DecidableEq

/-- The event-loop task with the queue it drains, the client library's list of
requests to replay, the publishes sent on the current connection and not yet
acknowledged (with whether the broker has processed them), and the broker's
retained messages. `startup` is what `main` has not queued yet. -/
structure State where
  phase : Phase
  connected : Bool
  startup : List Publish
  queue : List Request
  pending : List Request
  unacked : List (Publish × Bool)
  incoming : List IncomingMessage
  retained : String → Option Payload

inductive Label where
  | startup
  | publish (call : Call)
  | connAck
  | subscribe
  | send
  | receive
  | ack
  | incomingPublish (message : IncomingMessage)
  | handle
  | otherEvent
  | lost (drained : Nat)
  | connectFailed
  | wake
  | cancel

/-- What the broker keeps of one message: a retained message replaces the stored
one, an empty retained message removes it, any other leaves the store alone. -/
def store (retained : String → Option Payload) (message : Publish) : String → Option Payload :=
  if message.retain then
    Function.update retained message.topic
      (if message.payload = .bytes "" then none else some message.payload)
  else retained

/-- The broker processes the oldest message it has not processed yet. -/
def receiveNext (retained : String → Option Payload) :
    List (Publish × Bool) → Option (List (Publish × Bool) × (String → Option Payload))
  | [] => none
  | (message, true) :: rest =>
    (receiveNext retained rest).map fun r => ((message, true) :: r.1, r.2)
  | (message, false) :: rest => some ((message, true) :: rest, store retained message)

/-- Hand one request to the network. Subscriptions are not tracked any further. -/
def transmit (s : State) : Request → State
  | .publish message => { s with unacked := s.unacked ++ [(message, false)] }
  | .subscribe _ => s

@[simp] theorem transmit_phase (s : State) (request : Request) :
    (transmit s request).phase = s.phase := by
  cases request <;> rfl

@[simp] theorem transmit_queue (s : State) (request : Request) :
    (transmit s request).queue = s.queue := by
  cases request <;> rfl

def afterSubscribe (rest : List String) : Phase :=
  if rest = [] then .polling else .subscribing rest

section Machine

variable (config : MqttConfig) (incomingCapacity : Nat) (subscriptions : List String)

/-- A slot of the bounded request queue is free. -/
abbrev hasRoom (s : State) : Prop := s.queue.length < config.capacity

/-- One step of the event loop, of a publishing task, of the broker or of the
network. A publishing task without a free slot waits, so its step is not enabled;
requests leave the queue inside `poll` only, and the `poll` that reports a
connection takes none. -/
def step (s : State) : Label → Option State
  | .startup =>
    match s.startup with
    | [] => none
    | message :: rest =>
      when (hasRoom config s) { s with startup := rest, queue := s.queue ++ [.publish message] }
  | .publish call =>
    when (s.startup = [] ∧ hasRoom config s) { s with queue := s.queue ++ [.publish call.message] }
  | .connAck =>
    when (s.phase = .polling ∧ s.connected = false)
      { s with connected := true, phase := afterSubscribe subscriptions }
  | .subscribe =>
    match s.phase with
    | .subscribing (topic :: rest) =>
      when (hasRoom config s)
        { s with queue := s.queue ++ [.subscribe topic], phase := afterSubscribe rest }
    | _ => none
  | .send =>
    match s.pending, s.queue with
    | request :: rest, _ =>
      when (s.phase = .polling ∧ s.connected = true) (transmit { s with pending := rest } request)
    | [], request :: rest =>
      when (s.phase = .polling ∧ s.connected = true) (transmit { s with queue := rest } request)
    | [], [] => none
  | .receive =>
    if s.connected then
      (receiveNext s.retained s.unacked).map fun r => { s with unacked := r.1, retained := r.2 }
    else none
  | .ack =>
    match s.unacked with
    | (_, true) :: rest => when (s.phase = .polling ∧ s.connected = true) { s with unacked := rest }
    | _ => none
  | .incomingPublish message =>
    when (s.phase = .polling ∧ s.connected = true)
      { s with
        incoming :=
          if s.incoming.length < incomingCapacity then s.incoming ++ [message] else s.incoming }
  | .handle =>
    match s.incoming with
    | [] => none
    | _ :: rest => some { s with incoming := rest }
  | .otherEvent => when (s.phase = .polling ∧ s.connected = true) s
  | .lost drained =>
    when (s.phase = .polling ∧ s.connected = true)
      { s with
        phase := .sleeping
        connected := false
        pending := s.pending ++ s.unacked.map (fun sent => .publish sent.1) ++ s.queue.take drained
        queue := s.queue.drop drained
        unacked := []
        retained := store s.retained (TedgeMqtt.last_will config) }
  | .connectFailed => when (s.phase = .polling ∧ s.connected = false) { s with phase := .sleeping }
  | .wake => when (s.phase = .sleeping) { s with phase := .polling }
  | .cancel =>
    when (s.phase = .polling ∨ s.phase = .sleeping)
      { s with
        phase := .stopped
        connected := false
        retained :=
          if s.connected then store s.retained (TedgeMqtt.last_will config) else s.retained }

/-- What a step can be, with its guards. -/
inductive Steps (s : State) : Label → State → Prop
  | startup {message : Publish} {rest : List Publish} (hstartup : s.startup = message :: rest)
      (hroom : hasRoom config s) :
      Steps s .startup { s with startup := rest, queue := s.queue ++ [.publish message] }
  | publish (call : Call) (hregistered : s.startup = []) (hroom : hasRoom config s) :
      Steps s (.publish call) { s with queue := s.queue ++ [.publish call.message] }
  | connAck (hpolling : s.phase = .polling) (hoffline : s.connected = false) :
      Steps s .connAck { s with connected := true, phase := afterSubscribe subscriptions }
  | subscribe {topic : String} {rest : List String} (hphase : s.phase = .subscribing (topic :: rest))
      (hroom : hasRoom config s) :
      Steps s .subscribe { s with queue := s.queue ++ [.subscribe topic], phase := afterSubscribe rest }
  | resend {request : Request} {rest : List Request} (hpending : s.pending = request :: rest)
      (hpolling : s.phase = .polling) (honline : s.connected = true) :
      Steps s .send (transmit { s with pending := rest } request)
  | send {request : Request} {rest : List Request} (hpending : s.pending = []) (hqueue : s.queue = request :: rest)
      (hpolling : s.phase = .polling) (honline : s.connected = true) :
      Steps s .send (transmit { s with queue := rest } request)
  | receive {unacked : List (Publish × Bool)} {retained : String → Option Payload} (honline : s.connected = true)
      (hreceive : receiveNext s.retained s.unacked = some (unacked, retained)) :
      Steps s .receive { s with unacked := unacked, retained := retained }
  | ack {message : Publish} {rest : List (Publish × Bool)} (hunacked : s.unacked = (message, true) :: rest)
      (hpolling : s.phase = .polling) (honline : s.connected = true) : Steps s .ack { s with unacked := rest }
  | incomingPublish (message : IncomingMessage) (hpolling : s.phase = .polling) (honline : s.connected = true) :
      Steps s (.incomingPublish message)
        { s with
          incoming :=
            if s.incoming.length < incomingCapacity then s.incoming ++ [message] else s.incoming }
  | handle {message : IncomingMessage} {rest : List IncomingMessage} (hincoming : s.incoming = message :: rest) :
      Steps s .handle { s with incoming := rest }
  | otherEvent (hpolling : s.phase = .polling) (honline : s.connected = true) : Steps s .otherEvent s
  | lost (drained : Nat) (hpolling : s.phase = .polling) (honline : s.connected = true) :
      Steps s (.lost drained)
        { s with
          phase := .sleeping
          connected := false
          pending := s.pending ++ s.unacked.map (fun sent => .publish sent.1) ++ s.queue.take drained
          queue := s.queue.drop drained
          unacked := []
          retained := store s.retained (TedgeMqtt.last_will config) }
  | connectFailed (hpolling : s.phase = .polling) (hoffline : s.connected = false) :
      Steps s .connectFailed { s with phase := .sleeping }
  | wake (hsleeping : s.phase = .sleeping) : Steps s .wake { s with phase := .polling }
  | cancel (hidle : s.phase = .polling ∨ s.phase = .sleeping) :
      Steps s .cancel
        { s with
          phase := .stopped
          connected := false
          retained :=
            if s.connected then store s.retained (TedgeMqtt.last_will config) else s.retained }

variable {config incomingCapacity subscriptions} in
theorem steps_of_step {s next : State} {l : Label} (hstep : step config incomingCapacity subscriptions s l = some next) :
    Steps config incomingCapacity subscriptions s l next := by
  cases l with
  | startup =>
    simp only [step] at hstep
    split at hstep
    · cases hstep
    · rename_i hstartup
      obtain ⟨hroom, rfl⟩ := when_eq_some.mp hstep
      exact .startup hstartup hroom
  | publish call =>
    obtain ⟨⟨hregistered, hroom⟩, rfl⟩ := when_eq_some.mp hstep
    exact .publish call hregistered hroom
  | connAck =>
    obtain ⟨⟨hpolling, hoffline⟩, rfl⟩ := when_eq_some.mp hstep
    exact .connAck hpolling hoffline
  | subscribe =>
    simp only [step] at hstep
    split at hstep
    · rename_i hphase
      obtain ⟨hroom, rfl⟩ := when_eq_some.mp hstep
      exact .subscribe hphase hroom
    · cases hstep
  | send =>
    simp only [step] at hstep
    split at hstep
    · rename_i hpending
      obtain ⟨⟨hpolling, honline⟩, rfl⟩ := when_eq_some.mp hstep
      exact .resend hpending hpolling honline
    · rename_i hpending hqueue
      obtain ⟨⟨hpolling, honline⟩, rfl⟩ := when_eq_some.mp hstep
      exact .send hpending hqueue hpolling honline
    · cases hstep
  | receive =>
    simp only [step] at hstep
    split at hstep
    · rename_i honline
      obtain ⟨⟨unacked, retained⟩, hreceive, rfl⟩ := Option.map_eq_some_iff.mp hstep
      exact .receive honline hreceive
    · cases hstep
  | ack =>
    simp only [step] at hstep
    split at hstep
    · rename_i hunacked
      obtain ⟨⟨hpolling, honline⟩, rfl⟩ := when_eq_some.mp hstep
      exact .ack hunacked hpolling honline
    · cases hstep
  | incomingPublish message =>
    obtain ⟨⟨hpolling, honline⟩, rfl⟩ := when_eq_some.mp hstep
    exact .incomingPublish message hpolling honline
  | handle =>
    simp only [step] at hstep
    split at hstep
    · cases hstep
    · rename_i hincoming
      cases hstep
      exact .handle hincoming
  | otherEvent =>
    obtain ⟨⟨hpolling, honline⟩, rfl⟩ := when_eq_some.mp hstep
    exact .otherEvent hpolling honline
  | lost drained =>
    obtain ⟨⟨hpolling, honline⟩, rfl⟩ := when_eq_some.mp hstep
    exact .lost drained hpolling honline
  | connectFailed =>
    obtain ⟨⟨hpolling, hoffline⟩, rfl⟩ := when_eq_some.mp hstep
    exact .connectFailed hpolling hoffline
  | wake =>
    obtain ⟨hsleeping, rfl⟩ := when_eq_some.mp hstep
    exact .wake hsleeping
  | cancel =>
    obtain ⟨hidle, rfl⟩ := when_eq_some.mp hstep
    exact .cancel hidle

/-- The client before its first poll, against a broker that already retains
whatever earlier runs have left there. -/
structure Start (startup : List Publish) (s : State) : Prop where
  phase : s.phase = .polling
  connected : s.connected = false
  startup : s.startup = startup
  queue : s.queue = []
  pending : s.pending = []
  unacked : s.unacked = []
  incoming : s.incoming = []

def machine (startup : List Publish) : Machine State Label where
  start := Start startup
  step := step config incomingCapacity subscriptions

end Machine

end tedge.event_loop
