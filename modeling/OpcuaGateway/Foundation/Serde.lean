import OpcuaGateway.Foundation.Json

open binary64 json

namespace serde

/-- Read a JSON tree as a value of some type; nothing where the tree has another shape. -/
abbrev Deserialize (A : Type) := Value → Option A

def string : Deserialize String := Value.as_str

def bool : Deserialize Bool := Value.as_bool

/-- An unsigned integer below `bound`. -/
def unsigned (bound : Nat) : Deserialize Nat
  | .number (.PosInt n) => if n < bound then some n else none
  | _ => none

/-- Integers are read as floating point numbers as well. -/
def float : Deserialize Binary64
  | .number (.PosInt n) => some (ofInt n)
  | .number (.NegInt n) => some (ofInt n)
  | .number (.Float x) => some (.finite x)
  | _ => none

/-- Any tree at all. -/
def raw : Deserialize Value := some

section Combine

variable {A : Type}

/-- An explicit `null` is read as nothing. -/
def option (read : Deserialize A) : Deserialize (Option A)
  | .null => some none
  | value => (read value).map some

def vec (read : Deserialize A) : Deserialize (List A)
  | .array items => items.mapM read
  | _ => none

/-- An explicit `null` is read as the default. -/
def nullAs (default : A) (read : Deserialize A) : Deserialize A :=
  fun value => (option read value).map (·.getD default)

/-- The fields of a struct as they stand in the tree. -/
abbrev Fields := String → Option Value

/-- The fields of a struct with these names. A field must not be repeated, and other
members are ignored. A list gives the fields in order and may end early. -/
def structFields (names : List String) : Deserialize Fields
  | .object members =>
    if names.all fun name => (members.filter (·.1 == name)).length ≤ 1 then
      some fun name => ordered_map.lookup name members
    else none
  | .array items => if items.length ≤ names.length then some fun name => (names.zip items).lookup name else none
  | _ => none

/-- A field that may be absent. -/
def field (fields : Fields) (name : String) (default : A) (read : Deserialize A) : Option A :=
  match fields name with
  | some value => read value
  | none => some default

/-- A field that is absent or `null` unless it is given. -/
def optional (fields : Fields) (name : String) (read : Deserialize A) : Option (Option A) :=
  field fields name none (option read)

end Combine

/-- What a field asks of its value. -/
structure Check where
  name : String
  accepts : Value → Bool

/-- The fields of a struct are read one by one: whether they are readable says
nothing more than what each check says of its own field. -/
def Accepts {A : Type} (checks : List Check) (read : Fields → Option A) : Prop :=
  ∀ fields, (read fields).isSome = true ↔
    ∀ check ∈ checks, ∀ value, fields check.name = some value → check.accepts value = true

section Lemmas

variable {A B : Type} {checks : List Check} {name : String}

theorem Accepts.some (a : A) : Accepts [] fun _ => Option.some a := by
  intro fields
  simp

theorem Accepts.bind_field {default : A} {read : Deserialize A} {rest : A → Fields → Option B}
    (hrest : ∀ a, Accepts checks (rest a)) :
    Accepts (⟨name, fun value => (read value).isSome⟩ :: checks)
      fun fields => field fields name default read >>= fun a => rest a fields := by
  intro fields
  rw [List.forall_mem_cons]
  cases hfield : fields name with
  | none => simpa [field, hfield] using hrest default fields
  | some value =>
    cases hread : read value with
    | none => simp [field, hfield, hread]
    | some a => simpa [field, hfield, hread] using hrest a fields

theorem Accepts.bind_optional {read : Deserialize A} {rest : Option A → Fields → Option B}
    (hrest : ∀ a, Accepts checks (rest a)) :
    Accepts (⟨name, fun value => (option read value).isSome⟩ :: checks)
      fun fields => optional fields name read >>= fun a => rest a fields :=
  Accepts.bind_field hrest

end Lemmas

section Struct

variable {A : Type} {checks : List Check} {read : Fields → Option A} {members : List (String × Value)}

theorem lookup_eq_some_iff_mem {name : String} {value : Value}
    (hsingle : (members.filter (·.1 == name)).length ≤ 1) :
    ordered_map.lookup name members = some value ↔ (name, value) ∈ members := by
  induction members with
  | nil => simp [ordered_map.lookup]
  | cons member members ih =>
    obtain ⟨other, first⟩ := member
    rw [ordered_map.lookup, List.mem_cons, Prod.mk.injEq]
    by_cases hname : name = other
    · subst hname
      have hrest : ∀ member ∈ members, member.1 ≠ name := by
        simpa [List.filter_cons, List.length_eq_zero_iff] using hsingle
      have habsent : (name, value) ∉ members := fun hmem => hrest _ hmem rfl
      simp [habsent, eq_comm]
    · rw [if_neg hname, ih (by simpa [List.filter_cons, Ne.symm hname] using hsingle)]
      simp [hname]

theorem isSome_structFields_object {names : List String} :
    ((structFields names (.object members)).bind read).isSome = true ↔
      (∀ name ∈ names, (members.filter (·.1 == name)).length ≤ 1) ∧
        (read fun name => ordered_map.lookup name members).isSome = true := by
  rw [structFields]
  by_cases hsingle : ∀ name ∈ names, (members.filter (·.1 == name)).length ≤ 1
  · rw [if_pos (by simpa using hsingle), Option.bind_some, and_iff_right hsingle]
  · rw [if_neg (by simpa using hsingle), Option.bind_none, iff_false_intro hsingle, false_and]
    simp

/-- A member alone is readable when the checks of its field accept it. -/
theorem Accepts.isSome_alone_iff (haccepts : Accepts checks read) {names : List String} {member : String × Value} :
    ((structFields names (.object [member])).bind read).isSome = true ↔
      ∀ check ∈ checks, check.name = member.1 → check.accepts member.2 = true := by
  have hsingle : ∀ name ∈ names, ([member].filter (·.1 == name)).length ≤ 1 :=
    fun name _ => List.length_filter_le _ _
  rw [isSome_structFields_object, and_iff_right hsingle, haccepts]
  simp [ordered_map.lookup]

/-- A struct is read from an object exactly when none of its fields is repeated and
each is readable alone. -/
theorem Accepts.isSome_struct_iff (haccepts : Accepts checks read) :
    ((structFields (checks.map (·.name)) (.object members)).bind read).isSome = true ↔
      ∀ member ∈ members, member.1 ∈ checks.map (·.name) →
        (members.filter (·.1 == member.1)).length ≤ 1 ∧
          ((structFields (checks.map (·.name)) (.object [member])).bind read).isSome = true := by
  simp only [haccepts.isSome_alone_iff]
  rw [isSome_structFields_object, haccepts]
  constructor
  · rintro ⟨hsingle, hread⟩ member hmem hname
    refine ⟨hsingle _ hname, fun check hcheck heq => hread check hcheck member.2 ?_⟩
    rw [heq, lookup_eq_some_iff_mem (hsingle _ hname)]
    exact hmem
  · intro hall
    have hsingle : ∀ name ∈ checks.map (·.name), (members.filter (·.1 == name)).length ≤ 1 := by
      intro name hname
      cases hfilter : members.filter (·.1 == name) with
      | nil => simp
      | cons member rest =>
        have hmember : member ∈ members.filter (·.1 == name) := by simp [hfilter]
        obtain ⟨hmem, heq⟩ := List.mem_filter.mp hmember
        obtain rfl : member.1 = name := by simpa using heq
        rw [← hfilter]
        exact (hall member hmem hname).1
    refine ⟨hsingle, fun check hcheck value hlookup => ?_⟩
    have hname := List.mem_map_of_mem (f := (·.name)) hcheck
    rw [lookup_eq_some_iff_mem (hsingle _ hname)] at hlookup
    exact (hall _ hlookup hname).2 check hcheck rfl

end Struct

section Narrow

variable {A B C D : Type} {view : A → B} {wide : Deserialize A} {read : Deserialize B}

/-- The reader keeps the part of a wider value that `view` shows. -/
def Narrows (view : A → B) (wide : Deserialize A) (read : Deserialize B) : Prop :=
  ∀ value, read value = (wide value).map view

theorem Narrows.option (h : Narrows view wide read) : Narrows (Option.map view) (option wide) (option read) := by
  intro value
  cases value with
  | null => rfl
  | _ =>
    simp only [serde.option, h _, Option.map_map]
    rfl

theorem Narrows.vec (h : Narrows view wide read) : Narrows (List.map view) (vec wide) (vec read) := by
  intro value
  cases value with
  | array items =>
    rw [serde.vec, serde.vec]
    induction items with
    | nil => rfl
    | cons item items ih =>
      rw [List.mapM_cons, List.mapM_cons, ih, h item]
      cases wide item <;> cases items.mapM wide <;> rfl
  | _ => rfl

theorem Narrows.nullAs (h : Narrows view wide read) (default : A) :
    Narrows view (nullAs default wide) (nullAs (view default) read) := by
  intro value
  rw [serde.nullAs, serde.nullAs, h.option value]
  cases serde.option wide value with
  | none => rfl
  | some found => cases found <;> rfl

theorem Narrows.field (h : Narrows view wide read) (fields : Fields) (name : String) (default : A) :
    field fields name (view default) read = (field fields name default wide).map view := by
  rw [serde.field, serde.field]
  cases fields name with
  | none => rfl
  | some value => exact h value

theorem Narrows.optional (h : Narrows view wide read) (fields : Fields) (name : String) :
    optional fields name read = (optional fields name wide).map (Option.map view) :=
  h.option.field fields name none

/-- A step that reads more, followed by steps that keep only what is shown. -/
theorem bind_eq_map {F : C → D} {first : Option B} {other : Option A} {next : B → Option D} {nextOther : A → Option C}
    (hfirst : first = other.map view) (hnext : ∀ a, next (view a) = (nextOther a).map F) :
    (first >>= next) = (other >>= nextOther).map F := by
  rw [hfirst]
  cases other with
  | none => rfl
  | some a => exact hnext a

theorem bind_eq_map_same {F : C → D} {first : Option A} {next : A → Option D} {nextOther : A → Option C}
    (hnext : ∀ a, next a = (nextOther a).map F) : (first >>= next) = (first >>= nextOther).map F :=
  bind_eq_map Option.map_id_apply.symm hnext

end Narrow

end serde
