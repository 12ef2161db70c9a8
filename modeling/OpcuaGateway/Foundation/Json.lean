import OpcuaGateway.Foundation.OrderedMap
import OpcuaGateway.Foundation.Binary64

namespace json

open ordered_map

/-- JSON numbers keep integers apart from floating point. -/
inductive Number where
  | PosInt (n : Nat)
  | NegInt (n : Int)
  | Float (x : binary64.Finite)
  deriving DecidableEq

/-- A JSON tree. The members of an object are listed in the order in which the
object is traversed. -/
inductive Value where
  | null
  | bool (b : Bool)
  | number (n : Number)
  | string (s : String)
  | array (items : List Value)
  | object (members : List (String × Value))

mutual

def decEqValue : (a b : Value) → Decidable (a = b)
  | .null, .null => isTrue rfl
  | .bool a, .bool b => decidable_of_iff (a = b) (by simp)
  | .number a, .number b => decidable_of_iff (a = b) (by simp)
  | .string a, .string b => decidable_of_iff (a = b) (by simp)
  | .array a, .array b =>
    have := decEqItems a b
    decidable_of_iff (a = b) (by simp)
  | .object a, .object b =>
    have := decEqMembers a b
    decidable_of_iff (a = b) (by simp)
  | .null, .bool _ | .null, .number _ | .null, .string _ | .null, .array _ | .null, .object _
  | .bool _, .null | .bool _, .number _ | .bool _, .string _ | .bool _, .array _
  | .bool _, .object _ | .number _, .null | .number _, .bool _ | .number _, .string _
  | .number _, .array _ | .number _, .object _ | .string _, .null | .string _, .bool _
  | .string _, .number _ | .string _, .array _ | .string _, .object _ | .array _, .null
  | .array _, .bool _ | .array _, .number _ | .array _, .string _ | .array _, .object _
  | .object _, .null | .object _, .bool _ | .object _, .number _ | .object _, .string _
  | .object _, .array _ => isFalse (by simp)

def decEqItems : (a b : List Value) → Decidable (a = b)
  | [], [] => isTrue rfl
  | [], _ :: _ | _ :: _, [] => isFalse (by simp)
  | a :: as, b :: bs =>
    have := decEqValue a b
    have := decEqItems as bs
    decidable_of_iff (a = b ∧ as = bs) (by simp)

def decEqMembers : (a b : List (String × Value)) → Decidable (a = b)
  | [], [] => isTrue rfl
  | [], _ :: _ | _ :: _, [] => isFalse (by simp)
  | (k, a) :: as, (k', b) :: bs =>
    have := decEqValue a b
    have := decEqMembers as bs
    decidable_of_iff ((k = k' ∧ a = b) ∧ as = bs) (by simp)

end

instance : DecidableEq Value := decEqValue

namespace Value

/-- The member of an object under a key; nothing for any other tree. -/
def get (key : String) : Value → Option Value
  | .object members => lookup key members
  | _ => none

def as_str : Value → Option String
  | .string s => some s
  | _ => none

def as_bool : Value → Option Bool
  | .bool b => some b
  | _ => none

def as_array : Value → Option (List Value)
  | .array items => some items
  | _ => none

/-- The object with these members, kept in key order. -/
def ofMembers (members : List (String × Value)) : Value :=
  .object (OrderedMap.ofList members).entries

theorem get_ofMembers (key : String) (members : List (String × Value)) :
    (ofMembers members).get key = (OrderedMap.ofList members).get key := rfl

end Value

end json
