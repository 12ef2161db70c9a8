import OpcuaGateway.Mapping.Model
import OpcuaGateway.Mapping.Value

open text json ordered_map mapping.model mapping.value

namespace mapping.payload

/-- Fragment prefix carrying the originating OPC UA node. -/
def NODE_ID_FRAGMENT_PREFIX : String := "c8y_ua_SourceNodeId_"

def VALUE_PLACEHOLDER : String := "${value}"

def add_static_fragments {V : Type} (emptyObject : V) (out : OrderedMap String V)
    (fragments : Option (List String)) : OrderedMap String V :=
  (fragments.getD []).foldl (fun out fragment => out.orInsert fragment emptyObject) out

/-- A static fragment takes the place of nothing. -/
theorem get_add_static_fragments_of_some {V : Type} (emptyObject : V) {out : OrderedMap String V} {key : String}
    {v : V} (hget : out.get key = some v) (fragments : Option (List String)) :
    (add_static_fragments emptyObject out fragments).get key = some v := by
  unfold add_static_fragments
  generalize fragments.getD [] = names
  induction names generalizing out with
  | nil => exact hget
  | cons name rest ih => exact ih (OrderedMap.get_orInsert_of_some _ hget name emptyObject)

section Render

variable (render : Rendering)

/-- Timestamp of a data value: source, then server, then now. -/
def timestamp (now : DateTime) (value : DataValue) : String :=
  render.to_rfc3339 ((value.source_timestamp.or value.server_timestamp).getD now)

/-- The series of a message by fragment. -/
abbrev Fragments := OrderedMap String (OrderedMap String Value)

/-- One measurement message, grouping every series read in the same cycle. It is
dated as soon as it holds a series. -/
structure MeasurementBuilder where
  fragments : Fragments
  time : Option String
  series_count : Nat
  dated : 0 < series_count → time.isSome
  deriving DecidableEq

namespace MeasurementBuilder

def new : MeasurementBuilder := ⟨.empty, none, 0, fun h => absurd h (lt_irrefl 0)⟩

/-- Write one series into its fragment. -/
def insertSeries (fragments : Fragments) (fragment series : String) (number : Number) : Fragments :=
  fragments.insert fragment (((fragments.get fragment).getD .empty).insert series (.number number))

/-- The number a data value contributes to a measurement. -/
def numberOf (data_value : DataValue) : Option Number := do
  let variant ← data_value.value
  let number ← as_number variant
  from_f64 number

/-- Add one series. The flag is false when the value could not be read as a number. -/
def add (self : MeasurementBuilder) (now : DateTime) (creation : MeasurementCreation) (node_id : String)
    (data_value : DataValue) : MeasurementBuilder × Bool :=
  match numberOf data_value with
  | none => (self, false)
  | some number =>
    let fragments := insertSeries self.fragments (creation.fragmentName node_id)
      (creation.series_name node_id) number
    ({ fragments := add_static_fragments .empty fragments creation.static_fragments
       time := self.time.or (some (timestamp render now data_value))
       series_count := self.series_count + 1
       dated := by simp }, true)

def is_empty (self : MeasurementBuilder) : Bool := self.series_count == 0

/-- Finish the message; nothing when nothing publishable was added. -/
def build (self : MeasurementBuilder) (now : DateTime) : Option Value :=
  if self.series_count = 0 then none
  else
    let time := self.time.getD (render.to_rfc3339 now)
    some (.object ((self.fragments.mapValues fun series => .object series.entries).insert "time" (.string time)).entries)

/-- A message that holds a series is never dated by its flush. -/
theorem build_now_irrelevant (self : MeasurementBuilder) (now now' : DateTime) :
    self.build render now = self.build render now' := by
  unfold build
  split
  · rfl
  · rename_i hcount
    obtain ⟨time, htime⟩ := Option.isSome_iff_exists.mp (self.dated (Nat.pos_of_ne_zero hcount))
    rw [htime, Option.getD_some, Option.getD_some]

theorem build_isSome (self : MeasurementBuilder) (now : DateTime) :
    (self.build render now).isSome = decide (0 < self.series_count) := by
  unfold build
  split
  · simp_all
  · rename_i hcount
    simpa using Nat.pos_of_ne_zero hcount

/-- The series is written in its fragment. -/
def Holds (fragments : Fragments) (fragment series : String) : Prop :=
  ∃ members, fragments.get fragment = some members ∧ (members.get series).isSome

theorem holds_insertSeries_self (fragments : Fragments) (fragment series : String) (number : Number) :
    Holds (insertSeries fragments fragment series number) fragment series :=
  ⟨_, OrderedMap.get_insert_self .., by rw [OrderedMap.get_insert_self, Option.isSome_some]⟩

variable {fragments : Fragments} {fragment series : String}

/-- Writing a series keeps those already written. -/
theorem Holds.insertSeries (h : Holds fragments fragment series) (fragment' series' : String) (number : Number) :
    Holds (insertSeries fragments fragment' series' number) fragment series := by
  obtain ⟨members, hmembers, hseries⟩ := h
  rw [Holds, MeasurementBuilder.insertSeries, OrderedMap.get_insert]
  by_cases hfragment : fragment = fragment'
  · subst hfragment
    refine ⟨_, if_pos rfl, ?_⟩
    rw [hmembers, Option.getD_some, OrderedMap.get_insert]
    split
    · rfl
    · exact hseries
  · exact ⟨members, by rw [if_neg hfragment, hmembers], hseries⟩

theorem Holds.add_static_fragments (h : Holds fragments fragment series) (statics : Option (List String)) :
    Holds (add_static_fragments .empty fragments statics) fragment series := by
  obtain ⟨members, hmembers, hseries⟩ := h
  exact ⟨members, get_add_static_fragments_of_some .empty hmembers statics, hseries⟩

/-- The message has every series under its fragment, but for a fragment that has the
name of the timestamp. -/
theorem Holds.build (self : MeasurementBuilder) (now : DateTime) (h : Holds self.fragments fragment series)
    (hcount : 0 < self.series_count) : ∃ body, self.build render now = some body ∧
      (fragment ≠ "time" → ((body.get fragment).bind (Value.get series)).isSome) := by
  obtain ⟨members, hmembers, hseries⟩ := h
  rw [MeasurementBuilder.build, if_neg (Nat.pos_iff_ne_zero.mp hcount)]
  refine ⟨_, rfl, fun hfragment => ?_⟩
  have hget : (Value.object ((self.fragments.mapValues fun series => Value.object series.entries).insert "time"
      (.string (self.time.getD (render.to_rfc3339 now)))).entries).get fragment =
      some (.object members.entries) := by
    refine (OrderedMap.get_insert_of_ne _ hfragment _).trans ?_
    rw [OrderedMap.get_mapValues, hmembers, Option.map_some]
  rw [hget]
  exact hseries

end MeasurementBuilder

/-- Retained `m/<type>/meta` payload declaring the unit of each series. -/
def measurement_meta (series_units : List (String × String)) : Option Value :=
  if series_units.isEmpty then none
  else some (.ofMembers (series_units.map fun (series, unit) => (series, .ofMembers [("unit", .string unit)])))

def optionalText (text : Option String) : Value := text.elim .null .string

/-- `te/…/e/<type>` payload. `${value}` in the configured text is replaced by the value. -/
def event (now : DateTime) (creation : EventCreation) (node_id : String) (data_value : DataValue) : Value :=
  let variant := data_value.value.getD .Empty
  let text := replace VALUE_PLACEHOLDER (as_text render variant) (creation.text.getD "")
  let out : OrderedMap String Value := .ofList [
    ("time", .string (timestamp render now data_value)),
    ("text", .string text),
    (NODE_ID_FRAGMENT_PREFIX ++ node_id, .object []),
    ("c8y_DataValue", .ofMembers [
      ("value", as_json render variant),
      ("statusCode", data_value.status.elim .null fun s => .number (.PosInt s.toNat)),
      ("sourceTimestamp", optionalText (data_value.source_timestamp.map render.to_rfc3339)),
      ("serverTimestamp", optionalText (data_value.server_timestamp.map render.to_rfc3339))])]
  .object (add_static_fragments (.object []) out creation.static_fragments).entries

/-- The text of an event message. -/
def eventText (creation : EventCreation) (data_value : DataValue) : String :=
  replace VALUE_PLACEHOLDER (as_text render (data_value.value.getD .Empty)) (creation.text.getD "")

/-- Nothing else in an event message takes the place of its text. -/
theorem event_text (now : DateTime) (creation : EventCreation) (node_id : String) (data_value : DataValue) :
    (event render now creation node_id data_value).get "text" =
      some (.string (eventText render creation data_value)) := by
  refine get_add_static_fragments_of_some _ ?_ _
  have hnode : NODE_ID_FRAGMENT_PREFIX ++ node_id ≠ "text" := by
    intro h
    simpa [NODE_ID_FRAGMENT_PREFIX, String.toList_append] using congrArg String.toList h
  rw [OrderedMap.get_ofList]
  simp [hnode, eventText]

/-- A lower-case severity; device types store the Cumulocity spelling. -/
def severity (creation : AlarmCreation) : String :=
  render.to_lowercase (((creation.severity.map trim).filter (· != "")).getD "major")

/-- `te/…/a/<type>` payload for a raised alarm. -/
def alarm (now : DateTime) (creation : AlarmCreation) (node_id : String) (data_value : DataValue) : Value :=
  let out : OrderedMap String Value := .ofList [
    ("time", .string (timestamp render now data_value)),
    ("text", .string (creation.text.getD "")),
    ("severity", .string (severity render creation)),
    (NODE_ID_FRAGMENT_PREFIX ++ node_id, .object [])]
  .object (add_static_fragments (.object []) out creation.static_fragments).entries

end Render

end mapping.payload
