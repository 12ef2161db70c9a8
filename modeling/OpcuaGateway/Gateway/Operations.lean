import OpcuaGateway.Foundation.Csv
import OpcuaGateway.Gateway.CloudServers
import OpcuaGateway.Tedge.EventLoop

open json ordered_map text tedge.mqtt tedge.event_loop gateway.config gateway.cloud_servers

namespace gateway.operations

/-- Envelope fields of an operation, none of which name the operation itself. -/
def ENVELOPE_FIELDS : List String :=
  ["id", "status", "deviceId", "agentId", "creationTime", "description", "delivery", "externalSource", "self",
    "failureReason"]

/-- The one field naming what the operation asks for. -/
def operation_fragment : Value → Option String
  | .object members => (members.map Prod.fst).find? fun key => !ENVELOPE_FIELDS.contains key
  | _ => none

/-- Quote a SmartREST field. -/
def smartrest_field (value : String) : String := "\"" ++ replace "\"" "\"\"" value ++ "\""

/-- SmartREST 502: set the oldest pending operation of this type to failed, with a reason. -/
def failure_record (fragment reason : String) : String := "502," ++ fragment ++ "," ++ smartrest_field reason

def reasonFor (fragment : String) : String := fragment ++ " is not implemented by c8y-opcua-gateway-rs"

/-- The external id that an operation is addressed to. -/
def addressee (operation : Value) : Option String :=
  (operation.get "externalSource").bind (stringMember "externalId")

def isOurs (config : Config) (cloud : CloudServers) (external_id : String) : Bool :=
  external_id == config.gateway.external_id || cloud.any fun server => server.external_id == some external_id

section Run

variable (parse : String → Option Value) (config : Config)

/-- One pass of the loop: what is published for a message, with the servers adopted
at that moment. -/
def answer (cloud : CloudServers) (message : IncomingMessage) : Option Publish :=
  if message.topic != C8Y_OPERATION_TOPIC then none
  else do
    let operation ← parse message.payload
    if stringMember "status" operation != some "PENDING" then none
    else
      let external_id ← addressee operation
      if !isOurs config cloud external_id then none
      else
        let fragment ← operation_fragment operation
        some (TedgeMqtt.publish_smartrest external_id (failure_record fragment (reasonFor fragment)))

/-- Answer operations until the queue of messages is closed. -/
def run (incoming : List (CloudServers × IncomingMessage)) : List Publish :=
  incoming.filterMap fun received => answer parse config received.1 received.2

end Run

/-- A pending operation that is addressed to the gateway or to one of its servers. The
members of a JSON object are kept in key order. -/
structure Addressed (parse : String → Option Value) (config : Config) (cloud : CloudServers)
    (message : IncomingMessage) (members : OrderedMap String Value) (external_id : String) : Prop where
  topic : message.topic = C8Y_OPERATION_TOPIC
  payload : parse message.payload = some (.object members.entries)
  status : members.get "status" = some (.string "PENDING")
  addressee : addressee (.object members.entries) = some external_id
  ours : external_id = config.gateway.external_id ∨ ∃ server ∈ cloud, server.external_id = some external_id

/-- Among the other messages that the client takes of a run there is one record for
the message, and it is read as the failure of that operation. -/
def FailsAs (client : Client) (parse : String → Option Value) (config : Config) (cloud : CloudServers)
    (message : IncomingMessage) (external_id fragment : String) : Prop :=
  ∀ before after, ∃ record reason,
    client.taken (run parse config (before ++ (cloud, message) :: after)) =
        client.taken (run parse config before) ++
          TedgeMqtt.publish_smartrest external_id record :: client.taken (run parse config after) ∧
      csv.decode record = some ["502", fragment, reason]

/-- A name that is written into a record is read as the fragment: it needs no quotes,
or is the fragment in quotes. -/
def ReadsAs (name fragment : String) : Prop :=
  (name = fragment ∧ csv.IsPlain fragment.toList) ∨ name = smartrest_field fragment

section Records

theorem toList_smartrest_field (value : String) :
    (smartrest_field value).toList = '"' :: csv.escape value.toList ++ ['"'] := by
  have hreplace : (replace "\"" "\"\"" value).toList = csv.escape value.toList := by
    have hlength : value.toList.length < value.length + 1 := by
      rw [String.length_toList]
      omega
    rw [replace, String.toList_ofList]
    exact replaceFrom_char hlength
  rw [smartrest_field, String.toList_append, String.toList_append, hreplace]
  rfl

theorem toList_failure_record (fragment reason : String) :
    (failure_record fragment reason).toList =
      "502".toList ++ ',' :: (fragment.toList ++ ',' :: ('"' :: csv.escape reason.toList ++ ['"'])) := by
  simp [failure_record, toList_smartrest_field, String.toList_append]

/-- A record has three fields at least. -/
theorem exists_length_failure_record (fragment reason : String) :
    ∃ n, (failure_record fragment reason).length + 1 = n + 1 + 1 + 1 := by
  refine ⟨(failure_record fragment reason).length - 2, ?_⟩
  have hlength := congrArg List.length (toList_failure_record fragment reason)
  rw [String.length_toList] at hlength
  simp only [List.length_append, List.length_cons] at hlength
  omega

theorem isPlain_code : csv.IsPlain "502".toList := by simp [csv.IsPlain, csv.isSpecial]

/-- The reason is quoted and the name of the operation is not: a record reads back
exactly when the name needs no quotes. -/
theorem decode_failure_record_iff (fragment reason : String) :
    csv.decode (failure_record fragment reason) = some ["502", fragment, reason] ↔
      csv.IsPlain fragment.toList := by
  obtain ⟨n, hn⟩ := exists_length_failure_record fragment reason
  rw [csv.decode_eq_some_iff, toList_failure_record, hn]
  simp only [List.map_cons, List.map_nil]
  rw [csv.readRecord_raw_iff, csv.readRecord_raw_iff, csv.readRecord_quoted, and_iff_right isPlain_code,
    and_iff_left rfl]

/-- The name that is read from a record and the reason with it. -/
theorem decode_failure_record_names_iff (name reason fragment other : String) :
    csv.decode (failure_record name reason) = some ["502", fragment, other] ↔
      ReadsAs name fragment ∧ other = reason := by
  obtain ⟨n, hn⟩ := exists_length_failure_record name reason
  rw [csv.decode_eq_some_iff, toList_failure_record, hn]
  simp only [List.map_cons, List.map_nil]
  rw [csv.readRecord_raw_iff, and_iff_right isPlain_code, csv.readRecord_before_quoted_iff, String.toList_inj,
    String.toList_inj, ReadsAs, ← toList_smartrest_field, String.toList_inj]

end Records

section Fragment

theorem operation_fragment_eq_some_iff (members : OrderedMap String Value) (fragment : String) :
    operation_fragment (.object members.entries) = some fragment ↔
      fragment ∉ ENVELOPE_FIELDS ∧ (members.get fragment).isSome = true ∧
        ∀ key < fragment, (members.get key).isSome = true → key ∈ ENVELOPE_FIELDS := by
  have hfind := members.find?_keys_eq_some_iff (fun key => !ENVELOPE_FIELDS.contains key) fragment
  simpa [operation_fragment, OrderedMap.keys] using hfind

variable {parse : String → Option Value} {config : Config} {cloud : CloudServers} {message : IncomingMessage}
  {members : OrderedMap String Value} {external_id : String} (client : Client)

/-- All that is left to decide about an addressed operation is what it asks for. -/
theorem Addressed.answer (h : Addressed parse config cloud message members external_id) :
    answer parse config cloud message = (operation_fragment (.object members.entries)).map fun fragment =>
      TedgeMqtt.publish_smartrest external_id (failure_record fragment (reasonFor fragment)) := by
  have hstatus : stringMember "status" (.object members.entries) = some "PENDING" := by
    have hget : (Value.object members.entries).get "status" = some (.string "PENDING") := h.status
    rw [stringMember, hget]
    rfl
  have hours : isOurs config cloud external_id = true := by
    rw [isOurs, Bool.or_eq_true, beq_iff_eq, List.any_eq_true]
    refine h.ours.imp_right ?_
    rintro ⟨server, hmem, hserver⟩
    exact ⟨server, hmem, beq_iff_eq.mpr hserver⟩
  simp only [operations.answer, h.topic, h.payload, hstatus, h.addressee, hours, bne_self_eq_false,
    Bool.not_true, Bool.false_eq_true, if_false, Option.bind_eq_bind, Option.bind_some]
  cases operation_fragment (.object members.entries) <;> rfl

/-- Inside a run the message is answered with the record for what it asks for. -/
theorem Addressed.run (h : Addressed parse config cloud message members external_id)
    (before after : List (CloudServers × IncomingMessage)) :
    run parse config (before ++ (cloud, message) :: after) =
      run parse config before ++ ((operation_fragment (.object members.entries)).map fun fragment =>
        TedgeMqtt.publish_smartrest external_id (failure_record fragment (reasonFor fragment))).toList ++
          run parse config after := by
  rw [operations.run, List.filterMap_append, List.filterMap_cons]
  simp only [h.answer]
  cases operation_fragment (.object members.entries) <;> simp [operations.run]

/-- The message is answered under the name of what it asks for, if the client takes
the record. -/
theorem Addressed.failsAs_iff_named (h : Addressed parse config cloud message members external_id)
    (fragment : String) :
    FailsAs client parse config cloud message external_id fragment ↔
      client.takes (smartrest_topic external_id) = true ∧
        ∃ name, ReadsAs name fragment ∧ operation_fragment (.object members.entries) = some name := by
  simp only [FailsAs, h.run, Client.taken_append]
  constructor
  · intro hfails
    obtain ⟨record, reason, hone, hread⟩ := hfails [] []
    simp only [operations.run, List.filterMap_nil, Client.taken_nil, List.nil_append, List.append_nil] at hone
    have htaken : TedgeMqtt.publish_smartrest external_id record ∈
        client.taken ((operation_fragment (.object members.entries)).map fun fragment =>
          TedgeMqtt.publish_smartrest external_id (failure_record fragment (reasonFor fragment))).toList := by
      simp [hone]
    obtain ⟨hmem, htakes⟩ := Client.mem_taken.mp htaken
    obtain ⟨name, hnamed, hrecord⟩ := Option.map_eq_some_iff.mp (Option.mem_toList.mp hmem)
    have hsame : failure_record name (reasonFor name) = record := by
      simpa [TedgeMqtt.publish_smartrest] using hrecord
    rw [← hsame, decode_failure_record_names_iff] at hread
    exact ⟨htakes, name, hread.1, hnamed⟩
  · rintro ⟨htakes, name, hreads, hnamed⟩ before after
    refine ⟨failure_record name (reasonFor name), reasonFor name, ?_, ?_⟩
    · have hone : client.taken [TedgeMqtt.publish_smartrest external_id (failure_record name (reasonFor name))] =
          [TedgeMqtt.publish_smartrest external_id (failure_record name (reasonFor name))] := by
        rw [Client.taken_cons, TedgeMqtt.publish_smartrest, if_pos htakes, Client.taken_nil]
      rw [hnamed, Option.map_some, Option.toList_some, hone, List.append_assoc, List.singleton_append]
    · exact (decode_failure_record_names_iff ..).mpr ⟨hreads, rfl⟩

/-- The operation is failed under this name exactly when the client takes the record
and the name, written as a field, is that of the first member that is no envelope
field. -/
theorem failsAs_iff (h : Addressed parse config cloud message members external_id) (fragment : String) :
    FailsAs client parse config cloud message external_id fragment ↔
      client.takes (smartrest_topic external_id) = true ∧
        ∃ name, ReadsAs name fragment ∧ name ∉ ENVELOPE_FIELDS ∧ (members.get name).isSome = true ∧
          ∀ key < name, (members.get key).isSome = true → key ∈ ENVELOPE_FIELDS := by
  rw [h.failsAs_iff_named]
  simp only [operation_fragment_eq_some_iff]

end Fragment

section Tenant

/-- A gateway that takes operations for `c8y_OpcuaConfiguration`. -/
def sampleConfig : Config := { Config.default with gateway := { GatewayConfig.default with device_id := "tedge001" } }

/-- An operation for the gateway device with these members beside those of the envelope. -/
def operationWith (members : List (String × Value)) : OrderedMap String Value :=
  .ofList ([("id", .string "69050137"), ("status", .string "PENDING"),
    ("externalSource", .ofMembers [("externalId", .string "tedge001:device:opcua-gateway")])] ++ members)

def sampleMessage : IncomingMessage := ⟨C8Y_OPERATION_TOPIC, "operation"⟩

theorem addressed_operationWith {members : List (String × Value)}
    (hstatus : (operationWith members).get "status" = some (.string "PENDING"))
    (haddressee : addressee (.object (operationWith members).entries) = some "tedge001:device:opcua-gateway") :
    Addressed (fun _ => some (.object (operationWith members).entries)) sampleConfig [] sampleMessage
      (operationWith members) "tedge001:device:opcua-gateway" :=
  ⟨rfl, rfl, hstatus, haddressee, .inl (by decide)⟩

/-- Without any other fragment the operation is failed under its own name. -/
theorem failsAs_iff_configuration :
    FailsAs .checking (fun _ => some (.object (operationWith [("c8y_OpcuaConfiguration", .null)]).entries)) sampleConfig
      [] sampleMessage "tedge001:device:opcua-gateway" "c8y_OpcuaConfiguration" := by
  have hkeys : ∀ key ∈ (operationWith [("c8y_OpcuaConfiguration", .null)]).keys,
      key < "c8y_OpcuaConfiguration" → key ∈ ENVELOPE_FIELDS := by decide
  have hplain : csv.IsPlain "c8y_OpcuaConfiguration".toList := by decide
  have htakes : Client.checking.takes (smartrest_topic "tedge001:device:opcua-gateway") = true := by decide
  refine (failsAs_iff _ (addressed_operationWith (by decide) (by decide)) _).mpr ⟨htakes, ?_⟩
  refine ⟨"c8y_OpcuaConfiguration", Or.inl ⟨rfl, hplain⟩, by decide, by decide, ?_⟩
  exact fun key hlt hsome => hkeys key ((OrderedMap.mem_keys_iff _).mpr hsome) hlt

/-- The operation of a bulk operation carries its id, which comes first and is taken for
the name. -/
theorem bulk_operation_stays_pending :
    ¬ ∀ (client : Client) (parse : String → Option Value) (config : Config) (cloud : CloudServers)
        (message : IncomingMessage) (members : OrderedMap String Value) (external_id fragment : String),
      Addressed parse config cloud message members external_id → fragment ∈ config.gateway.supported_operations →
        (members.get fragment).isSome = true → FailsAs client parse config cloud message external_id fragment := by
  intro hall
  have haddressed := @addressed_operationWith [("bulkOperationId", .string "7"), ("c8y_OpcuaConfiguration", .null)]
    (by decide) (by decide)
  have hfails := hall .checking _ _ _ _ _ _ "c8y_OpcuaConfiguration" haddressed (by decide) (by decide)
  obtain ⟨-, name, hreads, hnamed⟩ := (haddressed.failsAs_iff_named _ _).mp hfails
  have hbulk : name = "bulkOperationId" := by
    have hfirst : operation_fragment (.object (operationWith
        [("bulkOperationId", .string "7"), ("c8y_OpcuaConfiguration", .null)]).entries) = some "bulkOperationId" := by
      decide
    exact Option.some.inj (hnamed.symm.trans hfirst)
  subst hbulk
  rcases hreads with ⟨heq, -⟩ | heq
  · revert heq
    decide
  · revert heq
    decide

/-- A key of the operation with a comma in it shifts the fields of the record that is
published. -/
theorem comma_shifts_record :
    ¬ ∀ (parse : String → Option Value) (config : Config) (incoming : List (CloudServers × IncomingMessage))
        (external_id fragment : String),
      TedgeMqtt.publish_smartrest external_id (failure_record fragment (reasonFor fragment)) ∈
          run parse config incoming →
        csv.decode (failure_record fragment (reasonFor fragment)) = some ["502", fragment, reasonFor fragment] := by
  intro hall
  have haddressed := @addressed_operationWith [("c8y_A,b", .null)] (by decide) (by decide)
  have hnamed : operation_fragment (.object (operationWith [("c8y_A,b", .null)]).entries) = some "c8y_A,b" := by decide
  have hrun := haddressed.run [] []
  rw [hnamed] at hrun
  have hread := hall _ _ _ "tedge001:device:opcua-gateway" "c8y_A,b" (by
    rw [hrun]
    simp [run])
  revert hread
  decide

end Tenant

end gateway.operations
