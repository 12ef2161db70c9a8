import Mathlib.Data.List.Basic
import Mathlib.Logic.Function.Basic
import OpcuaGateway.Foundation.Text
import OpcuaGateway.Tedge.Proxy

open json text ordered_map
open tedge.proxy

namespace tedge.proxy

def hexValue (c : Char) : Nat :=
  if c.toNat < 'A'.toNat then c.toNat - '0'.toNat else c.toNat - 'A'.toNat + 10

/-- The bytes a percent-encoded text stands for. -/
def percentDecode : List Char → List UInt8
  | '%' :: high :: low :: rest => UInt8.ofNat (16 * hexValue high + hexValue low) :: percentDecode rest
  | c :: rest => String.utf8EncodeChar c ++ percentDecode rest
  | [] => []

/-- The text of one received path segment. -/
def decodeSegment (segment : List Char) : Option String :=
  String.fromUTF8? (percentDecode segment).toByteArray

theorem hexValue_hexDigit : ∀ n < 16, hexValue (hexDigit n) = n := by decide

theorem isAlphanum_hexDigit : ∀ n < 16, (hexDigit n).isAlphanum = true := by decide

theorem percentDecode_escape (byte : UInt8) (rest : List Char) :
    percentDecode ('%' :: hexDigit (byte.toNat / 16) :: hexDigit (byte.toNat % 16) :: rest) =
      byte :: percentDecode rest := by
  have hbyte := byte.toNat_lt
  rw [percentDecode, hexValue_hexDigit _ (by omega), hexValue_hexDigit _ (by omega), Nat.div_add_mod]
  simp

theorem percentDecode_cons_of_ne {c : Char} (hc : c ≠ '%') (rest : List Char) :
    percentDecode (c :: rest) = String.utf8EncodeChar c ++ percentDecode rest := by
  rw [percentDecode]
  rintro high low tail rfl
  exact absurd rfl hc

theorem percentDecode_escapes (bytes : List UInt8) (rest : List Char) :
    percentDecode ((bytes.flatMap fun byte =>
      ['%', hexDigit (byte.toNat / 16), hexDigit (byte.toNat % 16)]) ++ rest) =
      bytes ++ percentDecode rest := by
  induction bytes with
  | nil => rfl
  | cons byte bytes ih =>
    simp only [List.flatMap_cons, List.cons_append, List.nil_append, percentDecode_escape, ih]

theorem percentDecode_urlencode (segment : String) :
    percentDecode (urlencode segment).toList = segment.toList.flatMap String.utf8EncodeChar := by
  rw [urlencode, String.toList_ofList]
  induction segment.toList with
  | nil => rfl
  | cons c rest ih =>
    rw [List.flatMap_cons, List.flatMap_cons]
    split
    · next halnum =>
      have hc : c ≠ '%' := fun heq => absurd halnum (by subst heq; decide)
      rw [List.singleton_append, percentDecode_cons_of_ne hc, ih]
    · rw [percentDecode_escapes, ih]

/-- What is sent as one segment is received as that segment. -/
theorem decodeSegment_urlencode (segment : String) :
    decodeSegment (urlencode segment).toList = some segment := by
  have hbytes : (percentDecode (urlencode segment).toList).toByteArray = segment.toByteArray := by
    rw [percentDecode_urlencode, ← String.utf8Encode_toList]
    rfl
  rw [decodeSegment, hbytes, String.fromUTF8?, dif_pos segment.isValidUTF8]
  rfl

theorem urlencode_written {segment : String} {c : Char} (hc : c ∈ (urlencode segment).toList) :
    c.isAlphanum = true ∨ c = '%' := by
  rw [urlencode, String.toList_ofList, List.mem_flatMap] at hc
  obtain ⟨source, -, hc⟩ := hc
  split at hc
  · next halnum =>
    rw [List.mem_singleton.mp hc]
    exact .inl halnum
  · obtain ⟨byte, -, hdigits⟩ := List.mem_flatMap.mp hc
    have hbyte := byte.toNat_lt
    simp only [List.mem_cons, List.not_mem_nil, or_false] at hdigits
    rcases hdigits with rfl | rfl | rfl
    · exact .inr rfl
    · exact .inl (isAlphanum_hexDigit _ (by omega))
    · exact .inl (isAlphanum_hexDigit _ (by omega))

end tedge.proxy

namespace tedge.external_ids

/-- What the identity service keeps: the managed object each external id of a
type names. -/
abbrev Identities := String × String → Option String

/-- What is planted stays with the object that held it first. -/
def Identities.plant (identities : Identities) (key : String × String) (mo_id : String) : Identities :=
  match identities key with
  | some _ => identities
  | none => Function.update identities key (some mo_id)

/-- A text that stands in a path as it is: no parser of URLs finds a separator, an escape or
a way to another level in it. -/
def IsLevel (level : String) : Prop :=
  level ≠ "" ∧ ∀ c ∈ level.toList, c.isAlphanum = true ∨ c = '_' ∨ c = '-'

instance (level : String) : Decidable (IsLevel level) :=
  @instDecidableAnd _ _ inferInstance (List.decidableBAll _ level.toList)

/-- An external id that can stand at the end of a path. Parsers of URLs take a dot and two
dots for the level itself and the one above, escaped or not. -/
def Nameable (external_id : String) : Prop := external_id ≠ "" ∧ external_id ≠ "." ∧ external_id ≠ ".."

/-- The external id as one level of a path. -/
structure Escapes (segment external_id : String) : Prop where
  written : ∀ c ∈ segment.toList, c.isAlphanum = true ∨ c = '%'
  read : decodeSegment segment.toList = some external_id

section Requests

variable (base_url : String)

def lookupRequest (id_type segment : String) : HttpRequest :=
  .get (base_url ++ "/identity/externalIds/" ++ id_type ++ "/" ++ segment)

def plantRequest (mo_id id_type external_id : String) : HttpRequest :=
  .post (base_url ++ "/identity/globalIds/" ++ mo_id ++ "/externalIds")
    (.ofMembers [("type", .string id_type), ("externalId", .string external_id)])

end Requests

/-- The identity service below `base_url`, as far as two kinds of requests go: it answers a
lookup of an external id with the object that holds it, and plants an external id on
an object that it has unless it is held already. -/
structure IdentityService (base_url : String) where
  has : (mo_id : String) → Prop
  answer : Identities → HttpRequest → Response
  after : Identities → HttpRequest → Identities
  lookup_held : ∀ identities id_type segment external_id mo_id, IsLevel id_type → Nameable external_id →
    Escapes segment external_id → identities (id_type, external_id) = some mo_id →
    ∃ body, answer identities (lookupRequest base_url id_type segment) = .answered 200 (some body) ∧
      C8yProxy.managedObjectId body = some mo_id
  lookup_free : ∀ identities id_type segment external_id, IsLevel id_type → Nameable external_id →
    Escapes segment external_id → identities (id_type, external_id) = none →
    ∃ body, answer identities (lookupRequest base_url id_type segment) = .answered 404 body
  lookup_keeps : ∀ identities id_type segment, after identities (lookupRequest base_url id_type segment) = identities
  plant_held : ∀ identities mo_id id_type external_id holder, IsLevel mo_id → has mo_id → Nameable external_id →
    identities (id_type, external_id) = some holder →
    (∃ body, answer identities (plantRequest base_url mo_id id_type external_id) = .answered 409 body) ∧
      after identities (plantRequest base_url mo_id id_type external_id) = identities
  plant_free : ∀ identities mo_id id_type external_id, IsLevel mo_id → has mo_id → Nameable external_id →
    identities (id_type, external_id) = none →
    (∃ body, answer identities (plantRequest base_url mo_id id_type external_id) = .answered 201 body) ∧
      after identities (plantRequest base_url mo_id id_type external_id) =
        Function.update identities (id_type, external_id) (some mo_id)

/-- How a call gets through the local proxy: at once, after one spurious 401, or
not at all while the cloud is out of reach. -/
inductive Reception where
  | prompt
  | challenged
  | unreachable
  deriving DecidableEq

inductive IdentityCall where
  | lookup (id_type external_id : String)
  | plant (mo_id id_type external_id : String)
  deriving DecidableEq

/-- A call whose unescaped parts are levels of a path, and whose object is there. -/
def IdentityCall.Addressable {base_url : String} (service : IdentityService base_url) : IdentityCall → Prop
  | .lookup id_type external_id => IsLevel id_type ∧ Nameable external_id
  | .plant mo_id _ external_id => IsLevel mo_id ∧ service.has mo_id ∧ Nameable external_id

/-- The same call against the mapping itself. -/
def settled (identities : Identities) :
    Reception × IdentityCall → Except ProxyError (Option String) × Identities
  | (.unreachable, _) => (.error .CloudUnreachable, identities)
  | (_, .lookup id_type external_id) => (.ok (identities (id_type, external_id)), identities)
  | (_, .plant mo_id id_type external_id) => (.ok none, identities.plant (id_type, external_id) mo_id)

/-- Calls one after the other: their results and what is kept at the end. -/
def session (call : Identities → Reception × IdentityCall → Except ProxyError (Option String) × Identities)
    (identities : Identities) : List (Reception × IdentityCall) →
    List (Except ProxyError (Option String)) × Identities
  | [] => ([], identities)
  | step :: steps =>
    let (result, after) := call identities step
    let (results, last) := session call after steps
    (result :: results, last)

section Service

variable (proxy : C8yProxy) (service : IdentityService proxy.base_url) (identities : Identities)

def endpoint (reception : Reception) : Endpoint :=
  fun request =>
    let answer := service.answer identities request
    match reception with
    | .prompt => ⟨answer, answer⟩
    | .challenged => ⟨.answered 401 none, answer⟩
    | .unreachable => ⟨.answered 502 none, .answered 502 none⟩

/-- What the service keeps once a request has been through. -/
def received (reception : Reception) (request : HttpRequest) : Identities :=
  match reception with
  | .prompt | .challenged => service.after identities request
  | .unreachable => identities

/-- The one request a call sends. -/
def request : IdentityCall → HttpRequest
  | .lookup id_type external_id => lookupRequest proxy.base_url id_type (urlencode external_id)
  | .plant mo_id id_type external_id => plantRequest proxy.base_url mo_id id_type external_id

def ask (endpoint : Endpoint) : IdentityCall → Except ProxyError (Option String)
  | .lookup id_type external_id => proxy.managed_object_id endpoint id_type external_id
  | .plant mo_id id_type external_id =>
    (proxy.create_external_id endpoint mo_id id_type external_id).map fun _ => none

/-- One call against the service. -/
def exchanged (step : Reception × IdentityCall) : Except ProxyError (Option String) × Identities :=
  (ask proxy (endpoint proxy service identities step.1) step.2,
    received proxy service identities step.1 (request proxy step.2))

variable {proxy identities}

/-- Nothing but the answer to its own request decides a call. -/
theorem ask_eq_answered (endpoint : Endpoint) (call : IdentityCall) :
    ask proxy endpoint call = ask proxy (fun _ => endpoint (request proxy call)) call := by
  cases call <;> rfl

theorem escapes_urlencode (external_id : String) : Escapes (urlencode external_id) external_id where
  written _ hc := urlencode_written hc
  read := decodeSegment_urlencode external_id

/-- A lookup finds the object the service has under the very external id it was
asked for, spurious 401 or not. -/
theorem lookup_settled {id_type external_id : String} (htype : IsLevel id_type) (hname : Nameable external_id)
    (reception : Reception) :
    exchanged proxy service identities (reception, .lookup id_type external_id) =
      settled identities (reception, .lookup id_type external_id) := by
  have hescapes := escapes_urlencode external_id
  rw [exchanged, ask_eq_answered]
  cases hheld : identities (id_type, external_id) with
  | none =>
    obtain ⟨body, hanswer⟩ := service.lookup_free _ _ _ _ htype hname hescapes hheld
    cases reception <;>
      simp [endpoint, received, request, hanswer, service.lookup_keeps, settled, ask, C8yProxy.managed_object_id,
        C8yProxy.get_json, C8yProxy.get_json_once, C8yProxy.is_success, hheld]
  | some mo_id =>
    obtain ⟨body, hanswer, hobject⟩ := service.lookup_held _ _ _ _ _ htype hname hescapes hheld
    cases reception <;>
      simp [endpoint, received, request, hanswer, service.lookup_keeps, settled, ask, C8yProxy.managed_object_id,
        C8yProxy.get_json, C8yProxy.get_json_once, C8yProxy.is_success, hheld, hobject]

/-- An external id is planted where nothing held it, and a conflict counts as done. -/
theorem plant_settled {mo_id external_id : String} (hlevel : IsLevel mo_id) (hobject : service.has mo_id)
    (hname : Nameable external_id) (id_type : String) (reception : Reception) :
    exchanged proxy service identities (reception, .plant mo_id id_type external_id) =
      settled identities (reception, .plant mo_id id_type external_id) := by
  rw [exchanged, ask_eq_answered]
  cases hheld : identities (id_type, external_id) with
  | none =>
    obtain ⟨⟨body, hanswer⟩, hafter⟩ := service.plant_free _ _ _ _ hlevel hobject hname hheld
    cases reception <;>
      simp [endpoint, received, request, hanswer, hafter, settled, ask, C8yProxy.create_external_id,
        C8yProxy.post_json, C8yProxy.post_json_once, C8yProxy.is_success, Except.map, Identities.plant, hheld]
  | some holder =>
    obtain ⟨⟨body, hanswer⟩, hafter⟩ := service.plant_held _ _ _ _ _ hlevel hobject hname hheld
    cases reception <;>
      simp [endpoint, received, request, hanswer, hafter, settled, ask, C8yProxy.create_external_id,
        C8yProxy.post_json, C8yProxy.post_json_once, C8yProxy.is_success, Except.map, Identities.plant, hheld]

theorem exchanged_eq_settled {step : Reception × IdentityCall} (haddressable : step.2.Addressable service) :
    exchanged proxy service identities step = settled identities step := by
  obtain ⟨reception, call⟩ := step
  cases call with
  | lookup id_type external_id => exact lookup_settled service haddressable.1 haddressable.2 reception
  | plant mo_id id_type external_id =>
    obtain ⟨hlevel, hobject, hname⟩ := haddressable
    exact plant_settled service hlevel hobject hname id_type reception

theorem session_eq_settled {steps : List (Reception × IdentityCall)}
    (haddressable : ∀ step ∈ steps, step.2.Addressable service) :
    session (exchanged proxy service) identities steps = session settled identities steps := by
  induction steps generalizing identities with
  | nil => rfl
  | cons step steps ih =>
    obtain ⟨hstep, hsteps⟩ := List.forall_mem_cons.mp haddressable
    simp only [session, exchanged_eq_settled service hstep, ih hsteps]

end Service

theorem Identities.plant_kept {identities : Identities} {key : String × String} {holder : String}
    (hheld : identities key = some holder) (key' : String × String) (mo_id : String) :
    identities.plant key' mo_id key = some holder := by
  cases hfree : identities key' with
  | some other => simpa only [Identities.plant, hfree] using hheld
  | none =>
    have hne : key ≠ key' := fun heq => by simp [← heq, hheld] at hfree
    simpa only [Identities.plant, hfree, Function.update_of_ne hne] using hheld

theorem settled_kept {identities : Identities} {key : String × String} {holder : String}
    (hheld : identities key = some holder) (step : Reception × IdentityCall) :
    (settled identities step).2 key = some holder := by
  obtain ⟨reception, call⟩ := step
  cases reception <;> cases call <;> first | exact hheld | exact Identities.plant_kept hheld _ _

theorem session_kept {identities : Identities} {key : String × String} {holder : String}
    (hheld : identities key = some holder) (steps : List (Reception × IdentityCall)) :
    (session settled identities steps).2 key = some holder := by
  induction steps generalizing identities with
  | nil => exact hheld
  | cons step steps ih => exact ih (settled_kept hheld step)

section Sample

/-- The two last levels of a path below `root`. -/
def levelsBelow (root url : String) : Option (List Char × List Char) :=
  (url.toList.dropPrefix? root.toList).bind (splitOnce '/')

/-- The type and the external id a lookup asks for. -/
def readLookup (base_url url : String) : Option (String × String) := do
  let (id_type, segment) ← levelsBelow (base_url ++ "/identity/externalIds/") url
  let external_id ← decodeSegment segment
  return (String.ofList id_type, external_id)

/-- The object an external id is planted on, with the type and the id. -/
def readPlant (base_url url : String) (body : Value) : Option (String × String × String) := do
  let (mo_id, rest) ← levelsBelow (base_url ++ "/identity/globalIds/") url
  guard (rest = "externalIds".toList)
  let id_type ← (body.get "type").bind Value.as_str
  let external_id ← (body.get "externalId").bind Value.as_str
  return (String.ofList mo_id, id_type, external_id)

def managedObject (mo_id : String) : Value :=
  .ofMembers [("managedObject", .ofMembers [("id", .string mo_id)])]

theorem IsLevel.no_separator {level : String} (h : IsLevel level) : '/' ∉ level.toList := by
  intro hmem
  rcases h.2 '/' hmem with hwrong | hwrong | hwrong <;> revert hwrong <;> decide

theorem levelsBelow_append (root : String) {first : String} (hfirst : IsLevel first) (last : String) :
    levelsBelow root (root ++ first ++ "/" ++ last) = some (first.toList, last.toList) := by
  have hurl : (root ++ first ++ "/" ++ last).toList = root.toList ++ (first.toList ++ '/' :: last.toList) := by
    simp [String.toList_append]
  rw [levelsBelow, hurl, List.dropPrefix?_append_of_beq _ BEq.rfl, Option.bind_some, splitOnce_eq_some_iff]
  exact ⟨rfl, hfirst.no_separator⟩

theorem readLookup_segment (base_url : String) {id_type segment external_id : String} (htype : IsLevel id_type)
    (hescapes : Escapes segment external_id) :
    readLookup base_url (base_url ++ "/identity/externalIds/" ++ id_type ++ "/" ++ segment) =
      some (id_type, external_id) := by
  have hlevels := levelsBelow_append (base_url ++ "/identity/externalIds/") htype segment
  simp only [readLookup, hlevels, Option.bind_eq_bind, Option.bind_some, hescapes.read, String.ofList_toList,
    Option.pure_def]

theorem readPlant_body (base_url : String) {mo_id : String} (hobject : IsLevel mo_id) (id_type external_id : String) :
    readPlant base_url (base_url ++ "/identity/globalIds/" ++ mo_id ++ "/externalIds")
      (.ofMembers [("type", .string id_type), ("externalId", .string external_id)]) =
      some (mo_id, id_type, external_id) := by
  have hurl : base_url ++ "/identity/globalIds/" ++ mo_id ++ "/externalIds" =
      base_url ++ "/identity/globalIds/" ++ mo_id ++ "/" ++ "externalIds" := by
    simp only [String.append_assoc]
    rfl
  have hlevels := levelsBelow_append (base_url ++ "/identity/globalIds/") hobject "externalIds"
  have htype : (Value.ofMembers [("type", .string id_type), ("externalId", .string external_id)]).get "type" =
      some (.string id_type) := by
    simp [Value.get_ofMembers, OrderedMap.get_ofList]
  have hexternal : (Value.ofMembers
      [("type", .string id_type), ("externalId", .string external_id)]).get "externalId" =
      some (.string external_id) := by
    simp [Value.get_ofMembers, OrderedMap.get_ofList]
  simp only [readPlant, hurl, hlevels, Option.bind_eq_bind, Option.bind_some, guard_true,
    htype, hexternal, Value.as_str, String.ofList_toList, Option.pure_def]

theorem get_managedObject (mo_id : String) : C8yProxy.managedObjectId (managedObject mo_id) = some mo_id := by
  simp [C8yProxy.managedObjectId, managedObject, Value.get_ofMembers, OrderedMap.get_ofList, Value.as_str]

/-- A service with two objects that keeps nothing but the identities. -/
def plainService (base_url : String) : IdentityService base_url where
  has mo_id := mo_id = "12" ∨ mo_id = "13"
  answer identities
    | .get url =>
      match (readLookup base_url url).bind identities with
      | some mo_id => .answered 200 (some (managedObject mo_id))
      | none => .answered 404 none
    | .post url body =>
      match readPlant base_url url body with
      | none => .answered 404 none
      | some (_, key) => .answered (if (identities key).isSome then 409 else 201) none
  after identities
    | .get _ => identities
    | .post url body =>
      match readPlant base_url url body with
      | none => identities
      | some (mo_id, key) => identities.plant key mo_id
  lookup_held := by
    intro identities id_type segment external_id mo_id htype _ hescapes hheld
    refine ⟨managedObject mo_id, ?_, get_managedObject mo_id⟩
    simp only [lookupRequest, readLookup_segment base_url htype hescapes, Option.bind_some, hheld]
  lookup_free := by
    intro identities id_type segment external_id htype _ hescapes hfree
    refine ⟨none, ?_⟩
    simp only [lookupRequest, readLookup_segment base_url htype hescapes, Option.bind_some, hfree]
  lookup_keeps _ _ _ := rfl
  plant_held := by
    intro identities mo_id id_type external_id holder hlevel _ _ hheld
    simp [plantRequest, readPlant_body base_url hlevel, hheld, Identities.plant]
  plant_free := by
    intro identities mo_id id_type external_id hlevel _ _ hfree
    simp [plantRequest, readPlant_body base_url hlevel, hfree, Identities.plant]

/-- An id with a slash and a letter outside ASCII, planted twice and looked up. -/
def serialCalls : List (Reception × IdentityCall) :=
  [(.challenged, .plant "12" "c8y_Serial" "press/é"), (.prompt, .plant "13" "c8y_Serial" "press/é"),
    (.unreachable, .lookup "c8y_Serial" "press/é"), (.prompt, .lookup "c8y_Serial" "press/é")]

end Sample

end tedge.external_ids
