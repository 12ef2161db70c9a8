import OpcuaGateway.Gateway.Publish.Topics
import OpcuaGateway.Mapping.Payload.Slots

open json ordered_map tedge.topic tedge.mqtt mapping.model mapping.payload mapping.resolve

namespace gateway.publish

/-- A measurement action of the mapping, with the text of its node. -/
def Measures (mapping : ResolvedMapping) (node_id : String) (creation : MeasurementCreation) : Prop :=
  ∃ node ∈ mapping.nodes, node.node_id_str = node_id ∧ .Measurement creation ∈ node.actions

/-- Some action writes this series of a measurement type. -/
def Writes (mapping : ResolvedMapping) (type : String) (slot : Slot) : Prop :=
  ∃ node_id creation, Measures mapping node_id creation ∧ measurement_type creation = some type ∧
    slotOf creation node_id = slot

/-- Some action that writes this series was given the unit. -/
def Authored (mapping : ResolvedMapping) (type : String) (slot : Slot) (unit : String) : Prop :=
  ∃ node_id creation, Measures mapping node_id creation ∧ measurement_type creation = some type ∧
    slotOf creation node_id = slot ∧ nonBlank creation.unit = some unit

/-- A unit document declares this unit for a series name. -/
def Declares (body : Value) (series unit : String) : Prop :=
  (body.get series).bind (Value.get "unit") = some (.string unit)

instance (body : Value) (series unit : String) : Decidable (Declares body series unit) :=
  inferInstanceAs (Decidable (_ = _))

def metaTopic (entity : EntityTopicId) (type : String) : String := entity.channel_topic ("m/" ++ type ++ "/meta")

/-- The documents that the client takes declare the unit of every action for the series
it writes, and no series has a unit that was given to another one. -/
structure DeclaresAuthored (client : Client) (entity : EntityTopicId) (mapping : ResolvedMapping) : Prop where
  declared : ∀ type slot unit, Authored mapping type slot unit → ∃ body,
    onTopic (metaTopic entity type) (client.taken (publish_units entity mapping)) =
      [TedgeMqtt.publish_measurement_meta entity type body] ∧ Declares body slot.series unit
  authored : ∀ type slot unit body,
    TedgeMqtt.publish_measurement_meta entity type body ∈ client.taken (publish_units entity mapping) →
    Writes mapping type slot → Declares body slot.series unit → Authored mapping type slot unit

/-- The client refuses no type that has a unit. -/
def TakesUnits (client : Client) (entity : EntityTopicId) (mapping : ResolvedMapping) : Prop :=
  ∀ type slot unit, Authored mapping type slot unit → client.takes (metaTopic entity type) = true

/-- Within a type, series of the same name have the same unit, whatever their fragments. -/
def UnitsByName (mapping : ResolvedMapping) : Prop :=
  ∀ type slot unit, Authored mapping type slot unit → ∀ other, Writes mapping type other →
    other.series = slot.series → ∀ unit', Authored mapping type other unit' ↔ unit' = unit

section Units

variable {entity : EntityTopicId} {mapping : ResolvedMapping}

/-- The type, series name and unit that one action declares. -/
def unitOf (node_id : String) : Action → Option (String × String × String)
  | .Measurement m =>
    match nonBlank m.unit, measurement_type m with
    | some unit, some type => some (type, m.series_name node_id, unit)
    | _, _ => none
  | _ => none

def unitsOf (mapping : ResolvedMapping) : List (String × String × String) :=
  mapping.nodes.flatMap fun node => node.actions.filterMap (unitOf node.node_id_str)

theorem declareUnit_eq (node_id : String) (out : OrderedMap String (List (String × String))) (action : Action) :
    declareUnit node_id out action = (unitOf node_id action).elim out out.push := by
  unfold declareUnit unitOf
  cases action with
  | Measurement m =>
    dsimp only
    cases nonBlank m.unit <;> cases measurement_type m <;> rfl
  | Event creation => rfl
  | Alarm creation => rfl

theorem measurement_units_eq : mapping.measurement_units = (unitsOf mapping).foldl OrderedMap.push .empty := by
  rw [unitsOf, List.foldl_flatMap, ResolvedMapping.measurement_units]
  congr 1
  funext out node
  rw [List.foldl_filterMap]
  congr 1
  funext out action
  rw [declareUnit_eq]
  cases unitOf node.node_id_str action <;> rfl

/-- The declarations for one type, in order. -/
def declarations (mapping : ResolvedMapping) (type : String) : List (String × String) :=
  ((unitsOf mapping).filter (·.1 = type)).map (·.2)

theorem mem_declarations {type series unit : String} : (series, unit) ∈ declarations mapping type ↔
    ∃ slot, slot.series = series ∧ Authored mapping type slot unit := by
  have hunit : ∀ node_id action, unitOf node_id action = some (type, series, unit) ↔
      ∃ creation, action = .Measurement creation ∧ nonBlank creation.unit = some unit ∧
        measurement_type creation = some type ∧ creation.series_name node_id = series := by
    intro node_id action
    cases action with
    | Measurement m =>
      unfold unitOf
      cases hunit : nonBlank m.unit <;> cases htype : measurement_type m <;> simp [hunit, htype]
      tauto
    | Event creation => simp [unitOf]
    | Alarm creation => simp [unitOf]
  simp only [declarations, unitsOf, List.mem_map, List.mem_filter, List.mem_flatMap, List.mem_filterMap,
    decide_eq_true_eq]
  constructor
  · rintro ⟨⟨_, _, _⟩, ⟨⟨node, hnode, action, haction, hdeclared⟩, rfl⟩, heq⟩
    cases heq
    obtain ⟨creation, rfl, hauthored, htype, hseries⟩ := (hunit _ _).mp hdeclared
    exact ⟨slotOf creation node.node_id_str, hseries, node.node_id_str, creation, ⟨node, hnode, rfl, haction⟩,
      htype, rfl, hauthored⟩
  · rintro ⟨slot, rfl, node_id, creation, ⟨node, hnode, rfl, haction⟩, htype, rfl, hauthored⟩
    exact ⟨_, ⟨⟨node, hnode, _, haction, (hunit _ _).mpr ⟨creation, rfl, hauthored, htype, rfl⟩⟩, rfl⟩, rfl⟩

theorem get_measurement_units (type : String) : mapping.measurement_units.get type =
    if declarations mapping type = [] then none else some (declarations mapping type) := by
  rw [measurement_units_eq, OrderedMap.get_foldl_push, declarations]
  simp only [List.map_eq_nil_iff]

/-- The document of a type, made of its declarations. -/
def unitDocument (declared : List (String × String)) : Value :=
  .ofMembers (declared.map fun (series, unit) => (series, .ofMembers [("unit", .string unit)]))

/-- The last declaration for a series name is the one that counts. -/
theorem declares_unitDocument {declared : List (String × String)} {series unit : String} :
    Declares (unitDocument declared) series unit ↔
      (declared.filter (·.1 = series)).getLast? = some (series, unit) := by
  have hget : (unitDocument declared).get series = ((declared.filter (·.1 = series)).getLast?).map
      fun declaration => .ofMembers [("unit", .string declaration.2)] := by
    rw [unitDocument, Value.get_ofMembers, OrderedMap.get_ofList, List.filter_map, List.getLast?_map, Option.map_map]
    rfl
  rw [Declares, hget]
  cases hlast : (declared.filter (·.1 = series)).getLast? with
  | none => simp
  | some declaration =>
    have hkey : declaration.1 = series := by
      simpa using (List.mem_filter.mp (List.mem_of_getLast? hlast)).2
    have hunit : (Value.ofMembers [("unit", .string declaration.2)]).get "unit" = some (.string declaration.2) := by
      rw [Value.get_ofMembers, OrderedMap.get_ofList]
      rfl
    simp [hunit, Prod.ext_iff, hkey]

theorem onTopic_publish_units (type : String) :
    onTopic (metaTopic entity type) (publish_units entity mapping) =
      if declarations mapping type = [] then []
      else [TedgeMqtt.publish_measurement_meta entity type (unitDocument (declarations mapping type))] := by
  have hmessages := onTopic_entries mapping.measurement_units
    (fun type series => (measurement_meta series).map (TedgeMqtt.publish_measurement_meta entity type))
    (metaTopic entity) type
    (fun other hsame => by simpa [metaTopic, channel_topic_inj, String.append_right_inj] using hsame)
    (fun other series published hpublished => by
      obtain ⟨body, -, rfl⟩ := Option.map_eq_some_iff.mp hpublished
      rfl)
  refine hmessages.trans ?_
  rw [get_measurement_units]
  split
  · rfl
  · rename_i hsome
    have hnonempty : (declarations mapping type).isEmpty = false := by simpa using hsome
    rw [Option.bind_some, measurement_meta, hnonempty]
    rfl

theorem Authored.writes {type unit : String} {slot : Slot} (h : Authored mapping type slot unit) :
    Writes mapping type slot := by
  obtain ⟨node_id, creation, hmeasures, htype, hslot, -⟩ := h
  exact ⟨node_id, creation, hmeasures, htype, hslot⟩

/-- The only document of a type is made of its declarations. -/
theorem eq_of_mem_publish_units {type : String} {body : Value}
    (hmem : TedgeMqtt.publish_measurement_meta entity type body ∈ publish_units entity mapping) :
    body = unitDocument (declarations mapping type) := by
  have htopic : TedgeMqtt.publish_measurement_meta entity type body ∈
      onTopic (metaTopic entity type) (publish_units entity mapping) :=
    List.mem_filter.mpr ⟨hmem, by simp [TedgeMqtt.publish_measurement_meta, metaTopic]⟩
  rw [onTopic_publish_units] at htopic
  split at htopic
  · cases htopic
  · have hpayload := congrArg Publish.payload (List.mem_singleton.mp htopic)
    exact Payload.json.inj hpayload

/-- The unit a type declares for a series name was given to some series of the name. -/
theorem Declares.exists_authored {type series unit : String}
    (h : Declares (unitDocument (declarations mapping type)) series unit) :
    ∃ slot, slot.series = series ∧ Authored mapping type slot unit :=
  mem_declarations.mp (List.mem_filter.mp (List.mem_of_getLast? (declares_unitDocument.mp h))).1

/-- A type with a unit for a series name declares one. -/
theorem exists_declares {type series unit : String} (hmem : (series, unit) ∈ declarations mapping type) :
    ∃ unit', Declares (unitDocument (declarations mapping type)) series unit' := by
  have hsome : ((declarations mapping type).filter (·.1 = series)).getLast?.isSome = true := by
    rw [List.getLast?_isSome]
    exact List.ne_nil_of_mem (List.mem_filter.mpr ⟨hmem, by simp⟩)
  obtain ⟨⟨name, unit'⟩, hlast⟩ := Option.isSome_iff_exists.mp hsome
  have hname : name = series := by simpa using (List.mem_filter.mp (List.mem_of_getLast? hlast)).2
  subst hname
  exact ⟨unit', declares_unitDocument.mpr hlast⟩

end Units

/-- The declared units are the authored ones exactly when the name of a series alone
decides about its unit within a type, and the client takes the topics of the units. -/
theorem publish_units_declares_iff (client : Client) (entity : EntityTopicId) (mapping : ResolvedMapping) :
    DeclaresAuthored client entity mapping ↔ UnitsByName mapping ∧ TakesUnits client entity mapping := by
  constructor
  · intro h
    refine ⟨fun type slot unit hauthored other hwrites hseries unit' => ?_, fun type slot unit hauthored => ?_⟩
    · obtain ⟨body, htopic, hdeclares⟩ := h.declared type slot unit hauthored
      have hmem := mem_of_onTopic_eq htopic
      rw [← hseries] at hdeclares
      have hother := h.authored type other unit body hmem hwrites hdeclares
      refine ⟨fun hunit' => ?_, fun heq => heq ▸ hother⟩
      obtain ⟨body', htopic', hdeclares'⟩ := h.declared type other unit' hunit'
      rw [eq_of_mem_publish_units (Client.mem_taken.mp hmem).1] at hdeclares
      rw [eq_of_mem_publish_units (Client.mem_taken.mp (mem_of_onTopic_eq htopic')).1] at hdeclares'
      simpa using hdeclares'.symm.trans hdeclares
    · obtain ⟨body, htopic, -⟩ := h.declared type slot unit hauthored
      exact (Client.mem_taken.mp (mem_of_onTopic_eq htopic)).2
  · rintro ⟨hunits, htakes⟩
    constructor
    · intro type slot unit hauthored
      have hmem : (slot.series, unit) ∈ declarations mapping type := mem_declarations.mpr ⟨slot, rfl, hauthored⟩
      have htopic : onTopic (metaTopic entity type) (client.taken (publish_units entity mapping)) =
          [TedgeMqtt.publish_measurement_meta entity type (unitDocument (declarations mapping type))] := by
        rw [onTopic_taken, if_pos (htakes type slot unit hauthored), onTopic_publish_units,
          if_neg (List.ne_nil_of_mem hmem)]
      refine ⟨_, htopic, ?_⟩
      obtain ⟨unit', hdeclares⟩ := exists_declares hmem
      obtain ⟨other, hseries, hother⟩ := hdeclares.exists_authored
      rw [(hunits type other unit' hother slot hauthored.writes hseries.symm unit).mp hauthored]
      exact hdeclares
    · intro type slot unit body hmem hwrites hdeclares
      rw [eq_of_mem_publish_units (Client.mem_taken.mp hmem).1] at hdeclares
      obtain ⟨other, hseries, hother⟩ := hdeclares.exists_authored
      exact (hunits type other unit hother slot hwrites hseries.symm unit).mpr rfl

section Sample

/-- A measurement of the type `pump` that is called `value`. -/
def pumpValue (fragment unit : String) : Action :=
  .Measurement ⟨some "pump", some "value", some fragment, some unit, none⟩

/-- Temperature and pressure of a pump, told apart by their fragments. -/
def pumpMapping : ResolvedMapping where
  device_type_id := "1"
  device_type_name := "Pump"
  root_node_id := "i=85"
  nodes := [⟨⟨2, .String "Pump"⟩, "ns=2;s=Pump", [pumpValue "Temperature" "C", pumpValue "Pressure" "bar"],
    .Subscription .default⟩]

/-- The temperature is declared in bar. -/
theorem fragments_share_unit :
    ¬ ∀ (entity : EntityTopicId) (mapping : ResolvedMapping), DeclaresAuthored .checking entity mapping := by
  intro hall
  have hmember : ∀ action ∈ [pumpValue "Temperature" "C", pumpValue "Pressure" "bar"],
      ∀ creation, action = .Measurement creation → Measures pumpMapping "ns=2;s=Pump" creation := by
    intro action hmem creation haction
    exact ⟨_, List.mem_singleton_self _, rfl, haction ▸ hmem⟩
  have htemperature : Authored pumpMapping "pump" ⟨"Temperature", "value"⟩ "C" :=
    ⟨_, _, hmember _ List.mem_cons_self _ rfl, by decide, by decide, by decide⟩
  obtain ⟨body, htopic, hdeclares⟩ := (hall (.child_device "pump") pumpMapping).declared _ _ _ htemperature
  have hdocument : onTopic (metaTopic (.child_device "pump") "pump")
      (Client.checking.taken (publish_units (.child_device "pump") pumpMapping)) =
      [TedgeMqtt.publish_measurement_meta (.child_device "pump") "pump"
        (.ofMembers [("value", .ofMembers [("unit", .string "bar")])])] := by decide
  rw [hdocument] at htopic
  obtain rfl := Payload.json.inj (congrArg Publish.payload (List.cons.inj htopic).1)
  revert hdeclares
  decide

end Sample

end gateway.publish
