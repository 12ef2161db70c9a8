import OpcuaGateway.Mapping.Namespace.NodeIds
import OpcuaGateway.Mapping.Payload
import OpcuaGateway.Mapping.Resolve

open text ordered_map mapping.model mapping.value mapping.namespace_table mapping.resolve

namespace mapping.payload

/-- The ASCII letters and digits of a text. -/
def alphanumerics (s : String) : List Char := s.toList.filter Char.isAlphanum

/-- The place of a measurement in a message. -/
structure Slot where
  fragment : String
  series : String
  deriving DecidableEq

def slotOf (creation : MeasurementCreation) (node_id : String) : Slot :=
  ⟨creation.fragmentName node_id, creation.series_name node_id⟩

/-- What a message holds at a slot. -/
def readSlot (fragments : Fragments) (slot : Slot) : Option json.Value :=
  (fragments.get slot.fragment).bind fun members => members.get slot.series

/-- Both names are derived from the node. -/
def FallsBack (creation : MeasurementCreation) : Prop :=
  nonBlank creation.fragment_name = none ∧ nonBlank creation.series = none

instance (creation : MeasurementCreation) : Decidable (FallsBack creation) := inferInstanceAs (Decidable (_ ∧ _))

/-- The texts of two NodeIds with the same letters and digits: one namespace, one kind
of identifier, and identifiers that differ in other characters at most. -/
def SameAlphanumerics (codec : TextCodec) (a b : NodeId) : Prop :=
  a.namespace_index = b.namespace_index ∧ a.kind = b.kind ∧
    alphanumerics (a.identifierText codec) = alphanumerics (b.identifierText codec)

/-- The two measurements have slots of their own, and no value of the second node
replaces one of the first. -/
def KeptApart (codec : TextCodec) (creation : MeasurementCreation) (a : NodeId) (other : MeasurementCreation)
    (b : NodeId) : Prop :=
  slotOf creation (a.to_string codec) ≠ slotOf other (b.to_string codec) ∧
    ∀ (render : Rendering) (now : DateTime) (builder : MeasurementBuilder) (data_value : DataValue),
      readSlot (builder.add render now other (b.to_string codec) data_value).1.fragments
        (slotOf creation (a.to_string codec)) =
      readSlot builder.fragments (slotOf creation (a.to_string codec))

section Simplify

/-- A number in front of something else is read back from its digits. -/
theorem toDigits_append_inj {n m : Nat} {c d : Char} {rest rest' : List Char} (hc : c.isDigit = false)
    (hd : d.isDigit = false) (h : Nat.toDigits 10 n ++ c :: rest = Nat.toDigits 10 m ++ d :: rest') :
    n = m ∧ c = d ∧ rest = rest' := by
  have hdigits : ∀ n, ∀ c ∈ Nat.toDigits 10 n, c.isDigit = true :=
    fun n c hmem => Nat.isDigit_of_mem_toDigits (by omega) (by omega) hmem
  have htake := congrArg (List.takeWhile Char.isDigit) h
  rw [List.takeWhile_append_of_pos (hdigits n), List.takeWhile_append_of_pos (hdigits m)] at htake
  simp only [List.takeWhile_cons, hc, hd, Bool.false_eq_true, if_false, List.append_nil] at htake
  rw [htake] at h
  obtain ⟨hcd, hrest⟩ := List.cons.inj (List.append_cancel_left h)
  refine ⟨?_, hcd, hrest⟩
  rw [← Nat.ofDigitChars_ten_toDigits (n := n), htake, Nat.ofDigitChars_ten_toDigits]

theorem isAlphanum_of_isDigit {c : Char} (h : c.isDigit = true) : c.isAlphanum = true := by
  simp [Char.isAlphanum, h]

/-- The letter of a kind of identifier is not that of a namespace. -/
theorem kind_letter (a : NodeId) : a.kind.isAlphanum = true ∧ a.kind ≠ 'n' ∧ a.kind.isDigit = false := by
  unfold NodeId.kind
  split <;> decide

/-- The letters and digits of the text of a NodeId. -/
theorem simplify_to_string (codec : TextCodec) (a : NodeId) :
    (simplify (a.to_string codec)).toList =
      (if a.namespace_index = 0 then [] else 'n' :: 's' :: Nat.toDigits 10 a.namespace_index) ++
        a.kind :: alphanumerics (a.identifierText codec) := by
  have hdigits : (Nat.toDigits 10 a.namespace_index).filter Char.isAlphanum = Nat.toDigits 10 a.namespace_index :=
    List.filter_eq_self.mpr fun c hmem =>
      isAlphanum_of_isDigit (Nat.isDigit_of_mem_toDigits (by omega) (by omega) hmem)
  have hkind : a.kind.isAlphanum = true := (kind_letter a).1
  have hidentifier : (a.kind :: '=' :: (a.identifierText codec).toList).filter Char.isAlphanum =
      a.kind :: alphanumerics (a.identifierText codec) := by
    rw [List.filter_cons_of_pos hkind, List.filter_cons_of_neg (by decide), alphanumerics]
  rw [simplify, String.toList_ofList, NodeId.to_string_toList, List.filter_append, hidentifier, NodeId.namespaceText]
  congr 1
  split
  · rfl
  · rw [List.filter_append]
    simp [hdigits, Char.isAlphanum]

theorem simplify_eq_iff (codec : TextCodec) (a b : NodeId) :
    simplify (a.to_string codec) = simplify (b.to_string codec) ↔ SameAlphanumerics codec a b := by
  rw [← String.toList_inj, simplify_to_string, simplify_to_string, SameAlphanumerics]
  have hne : ∀ a : NodeId, a.kind ≠ 'n' := fun a => (kind_letter a).2.1
  have hdigit : ∀ a : NodeId, a.kind.isDigit = false := fun a => (kind_letter a).2.2
  constructor
  · intro h
    by_cases ha : a.namespace_index = 0 <;> by_cases hb : b.namespace_index = 0
    · rw [if_pos ha, if_pos hb] at h
      obtain ⟨hkind, hrest⟩ := List.cons.inj h
      exact ⟨ha.trans hb.symm, hkind, hrest⟩
    · rw [if_pos ha, if_neg hb] at h
      exact absurd (List.cons.inj h).1 (hne a)
    · rw [if_neg ha, if_pos hb] at h
      exact absurd (List.cons.inj h).1.symm (hne b)
    · rw [if_neg ha, if_neg hb] at h
      exact toDigits_append_inj (hdigit a) (hdigit b) (List.cons.inj (List.cons.inj h).2).2
  · rintro ⟨hnamespace, hkind, hidentifier⟩
    rw [hnamespace, hkind, hidentifier]

end Simplify

section Read

variable {fragments : Fragments} {slot : Slot}

theorem readSlot_insertSeries (fragment series : String) (number : json.Number) :
    readSlot (MeasurementBuilder.insertSeries fragments fragment series number) slot =
      if slot = ⟨fragment, series⟩ then some (.number number) else readSlot fragments slot := by
  obtain ⟨slot_fragment, slot_series⟩ := slot
  rw [readSlot, readSlot, MeasurementBuilder.insertSeries, OrderedMap.get_insert]
  simp only [Slot.mk.injEq]
  by_cases hfragment : slot_fragment = fragment
  · subst hfragment
    rw [if_pos rfl, Option.bind_some, OrderedMap.get_insert]
    cases fragments.get slot_fragment <;> simp
  · simp [hfragment]

/-- A static fragment is added only where there is none, so it displaces nothing. -/
theorem readSlot_add_static_fragments (statics : Option (List String)) :
    readSlot (add_static_fragments .empty fragments statics) slot = readSlot fragments slot := by
  unfold add_static_fragments
  generalize statics.getD [] = names
  induction names generalizing fragments with
  | nil => rfl
  | cons name rest ih =>
    refine ih.trans ?_
    rw [readSlot, readSlot, OrderedMap.get_orInsert]
    split
    · rename_i hname
      rw [hname]
      cases fragments.get name <;> simp
    · rfl

/-- A value is written to its own slot only, and only if it is a number. -/
theorem readSlot_add (render : Rendering) (now : DateTime) (builder : MeasurementBuilder)
    (creation : MeasurementCreation) (node_id : String) (data_value : DataValue) :
    readSlot (builder.add render now creation node_id data_value).1.fragments slot =
      if slot = slotOf creation node_id then
        ((MeasurementBuilder.numberOf data_value).map json.Value.number).or (readSlot builder.fragments slot)
      else readSlot builder.fragments slot := by
  unfold MeasurementBuilder.add
  cases MeasurementBuilder.numberOf data_value with
  | none => simp
  | some number =>
    refine (readSlot_add_static_fragments _).trans ?_
    rw [readSlot_insertSeries]
    rfl

end Read

section Fallback

variable {creation other : MeasurementCreation}

theorem slotOf_fallsBack (h : FallsBack creation) (node_id : String) :
    slotOf creation node_id = ⟨"measurement_" ++ simplify node_id, "series_" ++ simplify node_id⟩ := by
  rw [slotOf, MeasurementCreation.fragmentName, MeasurementCreation.series_name, h.1, h.2]
  rfl

theorem keptApart_iff {codec : TextCodec} {a b : NodeId} :
    KeptApart codec creation a other b ↔ slotOf creation (a.to_string codec) ≠ slotOf other (b.to_string codec) := by
  refine ⟨fun h => h.1, fun hne => ⟨hne, fun render now builder data_value => ?_⟩⟩
  rw [readSlot_add, if_neg hne]

/-- Nodes whose measurements have no names of their own are kept apart unless their
NodeIds agree in every letter and digit. -/
theorem fallback_keptApart_iff (codec : TextCodec) (creation other : MeasurementCreation) (a b : NodeId)
    (hcreation : FallsBack creation) (hother : FallsBack other) :
    KeptApart codec creation a other b ↔ ¬ SameAlphanumerics codec a b := by
  rw [keptApart_iff, slotOf_fallsBack hcreation, slotOf_fallsBack hother, ← simplify_eq_iff]
  simp

/-- A measurement of a type without names of its own. -/
def unnamed (type : String) : MeasurementCreation := ⟨some type, none, some " ", none, none⟩

def blankCodec : TextCodec := ⟨fun _ => none, fun _ => "", fun _ => none, fun _ => ""⟩

/-- The dot in the name of a node is lost, and so is its value. -/
theorem punctuation_collides :
    ¬ ∀ (codec : TextCodec) (creation other : MeasurementCreation) (a b : NodeId),
      measurement_type creation = measurement_type other → FallsBack creation → FallsBack other → a ≠ b →
        KeptApart codec creation a other b := by
  intro hall
  have hapart := hall blankCodec (unnamed "pump") (unnamed "pump") ⟨2, .String "Flow.1"⟩ ⟨2, .String "Flow1"⟩
    rfl (by decide) (by decide) (by decide)
  exact hapart.1 (by decide)

theorem fallback_keptApart_iff_flow :
    KeptApart blankCodec (unnamed "pump") ⟨2, .String "Flow.1"⟩ (unnamed "pump") ⟨2, .String "Flow.2"⟩ ↔
      ¬ SameAlphanumerics blankCodec ⟨2, .String "Flow.1"⟩ ⟨2, .String "Flow.2"⟩ :=
  fallback_keptApart_iff blankCodec (unnamed "pump") (unnamed "pump") _ _ (by decide) (by decide)

end Fallback

end mapping.payload
