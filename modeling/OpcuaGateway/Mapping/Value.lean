import OpcuaGateway.Foundation.Json
import OpcuaGateway.Foundation.Text

open text binary64 json

set_option linter.dupNamespace false

namespace mapping.value

/-- An instant on the OPC UA time line, in ticks. -/
abbrev DateTime := Int

/-- How the standard library writes what has no spelling of its own in this model:
instants, floating point numbers of either width, and text in lower case. -/
structure Rendering where
  to_rfc3339 : DateTime → String
  single : Binary64 → String
  double : Binary64 → String
  to_lowercase : String → String

/-- The value of a node. A single precision number is kept as the double it widens
to, and the variants that are only ever written for debugging as that text. -/
inductive Variant where
  | Empty
  | Boolean (v : Bool)
  | SByte (v : Int8)
  | Byte (v : UInt8)
  | Int16 (v : Int16)
  | UInt16 (v : UInt16)
  | Int32 (v : Int32)
  | UInt32 (v : UInt32)
  | Int64 (v : Int64)
  | UInt64 (v : UInt64)
  | Float (v : Binary64)
  | Double (v : Binary64)
  | String (v : String)
  | DateTime (v : DateTime)
  | LocalizedText (text : String)
  | Other (debug : String)
  deriving DecidableEq

/-- A status code; its two highest bits are the severity. -/
abbrev StatusCode := UInt32

def is_good (status : StatusCode) : Bool := status >>> 30 == 0

structure DataValue where
  value : Option Variant
  status : Option StatusCode
  source_timestamp : Option DateTime
  server_timestamp : Option DateTime
  deriving DecidableEq

/-- A data value that must not be published: bad status code, or no value at all. -/
def is_bad (value : DataValue) : Bool :=
  !(value.status.all is_good) || value.value == none || value.value == some .Empty

/-- Read a variant as a measurement value; nothing when it is no number, or one
that is not finite. -/
def as_number (variant : Variant) : Option Binary64 :=
  let n :=
    match variant with
    | .Boolean b => some (ofInt (if b then 1 else 0))
    | .SByte v => some (ofInt v.toInt)
    | .Byte v => some (ofInt v.toNat)
    | .Int16 v => some (ofInt v.toInt)
    | .UInt16 v => some (ofInt v.toNat)
    | .Int32 v => some (ofInt v.toInt)
    | .UInt32 v => some (ofInt v.toNat)
    | .Int64 v => some (ofInt v.toInt)
    | .UInt64 v => some (ofInt v.toNat)
    | .Float v => some v
    | .Double v => some v
    | .String s => parse (trim s)
    | _ => none
  n.filter is_finite

/-- Read a variant as an alarm active flag. -/
def as_bool : Variant → Option Bool
  | .Boolean b => some b
  | .String s => some (eq_ignore_ascii_case s "true")
  | other => (as_number other).map isPositive

section Text

variable (render : Rendering)

/-- Render a variant for `${value}` substitution in event text. -/
def as_text : Variant → String
  | .Empty => ""
  | .Boolean v => if v then "true" else "false"
  | .SByte v => toString v.toInt
  | .Byte v => toString v.toNat
  | .Int16 v => toString v.toInt
  | .UInt16 v => toString v.toNat
  | .Int32 v => toString v.toInt
  | .UInt32 v => toString v.toNat
  | .Int64 v => toString v.toInt
  | .UInt64 v => toString v.toNat
  | .Float v => render.single v
  | .Double v => render.double v
  | .String v => v
  | .DateTime v => render.to_rfc3339 v
  | .LocalizedText text => text
  | .Other debug => debug

/-- A JSON number holds finite doubles only. -/
def from_f64 : Binary64 → Option Number
  | .finite x => some (.Float x)
  | _ => none

/-- Render a variant as JSON, for the `c8y_DataValue` fragment on events. -/
def as_json : Variant → Value
  | .Empty => .null
  | .Boolean v => .bool v
  | .String v => .string v
  | .DateTime v => .string (render.to_rfc3339 v)
  | .LocalizedText text => .string text
  | other =>
    match as_number other with
    | some n => (from_f64 n).elim (.string (as_text render other)) .number
    | none => .string (as_text render other)

end Text

theorem as_number_is_finite {variant : Variant} {n : Binary64} (h : as_number variant = some n) :
    is_finite n = true :=
  (Option.filter_eq_some_iff.mp h).2

/-- What reads as a number is a JSON number too. -/
theorem from_f64_as_number {variant : Variant} {n : Binary64} (h : as_number variant = some n) :
    ∃ number, from_f64 n = some number := by
  have hfinite := as_number_is_finite h
  cases n with
  | finite x => exact ⟨.Float x, rfl⟩
  | nan => cases hfinite
  | infinite negative => cases hfinite

example : as_bool (.Int32 3) = some true ∧ as_bool (.Int32 0) = some false ∧
    as_bool (.String "TRUE") = some true ∧ as_bool (.Double .nan) = none := by decide

end mapping.value
