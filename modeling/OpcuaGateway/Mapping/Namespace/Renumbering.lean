import Mathlib.Data.List.Perm.Basic
import OpcuaGateway.Mapping.Namespace.Segments

open text

namespace mapping.namespace_table

/-- A server may list its namespaces in another order after a restart. The two tables
resolve the same URIs, each to an index of its own, and the standard namespace stays
where it is. -/
structure Renumbering (table table' : NamespaceTable) where
  renumber : Nat → Nat
  injective : Function.Injective renumber
  standard : renumber 0 = 0
  index_of : ∀ uri, table'.index_of uri = (table.index_of uri).map renumber

/-- The text names no namespace by a number, but for the standard one. -/
def PortableHead (head : String) : Prop := (parse_unsigned (2 ^ 16) head).all (· == 0) = true

instance (head : String) : Decidable (PortableHead head) := inferInstanceAs (Decidable (_ = true))

/-- No part of the segment in front of a colon reads as such a number. -/
def PortableSegment (segment : String) : Prop :=
  ∀ n < segment.length, segment.toList[n]? = some ':' → PortableHead (String.ofList (segment.toList.take n))

instance (segment : String) : Decidable (PortableSegment segment) := inferInstanceAs (Decidable (∀ n < _, _))

/-- None of the leading heads that are read gives such a number. -/
def portableHeads : Nat → List Char → Bool
  | 0, _ => true
  | n + 1, rest =>
    match splitOnce ';' rest with
    | none => true
    | some (head, tail) =>
      if (stripName "nsu=" head).isSome then portableHeads n tail
      else
        match stripName "ns=" head with
        | some digits =>
          decide (PortableHead (String.ofList (digits.map to_ascii_lowercase))) && portableHeads n tail
        | none => if (stripName "svr=" head).isSome then portableHeads n tail else true

/-- The NodeId is written against a namespace URI, or is one of the standard namespace. -/
def PortableNodeId (s : String) : Prop := portableHeads 3 s.toList = true

instance (s : String) : Decidable (PortableNodeId s) := inferInstanceAs (Decidable (_ = true))

namespace Renumbering

variable {table table' : NamespaceTable} (σ : Renumbering table table')

def node_id (id : NodeId) : NodeId := { id with namespace_index := σ.renumber id.namespace_index }

def qualified_name (qn : QualifiedName) : QualifiedName :=
  { qn with namespace_index := σ.renumber qn.namespace_index }

theorem node_id_injective : Function.Injective σ.node_id := by
  rintro ⟨index, identifier⟩ ⟨index', identifier'⟩ h
  obtain ⟨hindex, hidentifier⟩ := NodeId.mk.inj h
  exact congrArg₂ NodeId.mk (σ.injective hindex) hidentifier

theorem qualified_name_injective : Function.Injective σ.qualified_name := by
  rintro ⟨index, name⟩ ⟨index', name'⟩ h
  obtain ⟨hindex, hname⟩ := QualifiedName.mk.inj h
  exact congrArg₂ QualifiedName.mk (σ.injective hindex) hname

@[simp] theorem node_id_inj {id other : NodeId} : σ.node_id id = σ.node_id other ↔ id = other :=
  σ.node_id_injective.eq_iff

@[simp] theorem node_id_standard (identifier : Identifier) : σ.node_id ⟨0, identifier⟩ = ⟨0, identifier⟩ := by
  simp only [node_id, σ.standard]

@[simp] theorem qualified_name_standard (name : String) : σ.qualified_name ⟨0, name⟩ = ⟨0, name⟩ := by
  simp only [qualified_name, σ.standard]

/-- A number that is read names the standard namespace. -/
theorem map_number {head : String} (hportable : PortableHead head) :
    (parse_unsigned (2 ^ 16) head).map σ.renumber = parse_unsigned (2 ^ 16) head := by
  cases hnumber : parse_unsigned (2 ^ 16) head with
  | none => rfl
  | some number =>
    rw [PortableHead, hnumber, Option.all_some, beq_iff_eq] at hportable
    rw [Option.map_some, hportable, σ.standard]

theorem resolvePrefix {head : List Char} (hportable : PortableHead (String.ofList head)) :
    table'.resolvePrefix head = (table.resolvePrefix head).map σ.renumber := by
  rw [NamespaceTable.resolvePrefix, NamespaceTable.resolvePrefix, σ.index_of, Option.map_or, σ.map_number hportable]

/-- The delimiter stops at the same colon. -/
theorem floatDelimiter {segment : String} (hportable : PortableSegment segment) (n : Nat) {head value : List Char}
    (hsegment : segment.toList = head ++ ':' :: value) :
    namespace_table.floatDelimiter table' segment n head value =
      σ.qualified_name (namespace_table.floatDelimiter table segment n head value) := by
  induction n generalizing head value with
  | zero => exact (σ.qualified_name_standard segment).symm
  | succ n ih =>
    have hhead : PortableHead (String.ofList head) := by
      have hlength : head.length < segment.length := by
        rw [← String.length_toList, hsegment]
        simp
      have hcolon : segment.toList[head.length]? = some ':' := by
        rw [hsegment]
        simp
      have htake : segment.toList.take head.length = head := by
        rw [hsegment]
        exact List.take_left
      rw [← htake]
      exact hportable head.length hlength hcolon
    rw [namespace_table.floatDelimiter, namespace_table.floatDelimiter, σ.resolvePrefix hhead]
    cases table.resolvePrefix head with
    | some index => rfl
    | none =>
      cases hsplit : splitLastColon head with
      | none => exact (σ.qualified_name_standard segment).symm
      | some parts =>
        apply ih
        rw [hsegment, (splitLastColon_eq_some hsplit).1]
        simp

theorem to_qualified_name {segment : String} (hportable : PortableSegment segment) :
    namespace_table.to_qualified_name table' segment =
      σ.qualified_name (namespace_table.to_qualified_name table segment) := by
  rw [namespace_table.to_qualified_name, namespace_table.to_qualified_name]
  cases hsplit : splitLastColon segment.toList with
  | none => exact (σ.qualified_name_standard segment).symm
  | some parts => exact σ.floatDelimiter hportable _ (splitLastColon_eq_some hsplit).1

theorem to_qualified_names {browse_path : List String} (hportable : ∀ segment ∈ browse_path, PortableSegment segment) :
    namespace_table.to_qualified_names table' browse_path =
      (namespace_table.to_qualified_names table browse_path).map σ.qualified_name := by
  rw [namespace_table.to_qualified_names, namespace_table.to_qualified_names, List.map_map]
  exact List.map_congr_left fun segment hmem => σ.to_qualified_name (hportable segment hmem)

/-- The heads are read alike, whatever number they were entered with. -/
theorem parseHeads (s : String) {n : Nat} {rest : List Char} (hportable : portableHeads n rest = true) (index : Nat) :
    namespace_table.parseHeads table' s n (σ.renumber index) rest =
      (namespace_table.parseHeads table s n index rest).map fun parsed => (σ.renumber parsed.1, parsed.2) := by
  induction n generalizing index rest with
  | zero => rfl
  | succ n ih =>
    rw [portableHeads] at hportable
    rw [namespace_table.parseHeads, namespace_table.parseHeads]
    cases hsplit : splitOnce ';' rest with
    | none => rfl
    | some parts =>
      obtain ⟨head, tail⟩ := parts
      simp only [hsplit] at hportable
      cases huri : stripName "nsu=" head with
      | some uri =>
        rw [huri, Option.isSome_some, if_pos rfl] at hportable
        simp only [huri, σ.index_of]
        cases table.index_of (String.ofList uri) with
        | some found => exact ih hportable found
        | none => rfl
      | none =>
        rw [huri, Option.isSome_none, if_neg Bool.false_ne_true] at hportable
        cases hindex : stripName "ns=" head with
        | some digits =>
          simp only [hindex, Bool.and_eq_true, decide_eq_true_eq] at hportable
          obtain ⟨hhead, htail⟩ := hportable
          rw [PortableHead] at hhead
          cases hnumber : parse_unsigned (2 ^ 16) (String.ofList (digits.map to_ascii_lowercase)) with
          | none => simp only [huri, hindex, hnumber, Except.map]
          | some number =>
            rw [hnumber, Option.all_some, beq_iff_eq] at hhead
            subst hhead
            have hrest := ih htail 0
            rw [σ.standard] at hrest
            simpa only [huri, hindex, hnumber] using hrest
        | none =>
          simp only [hindex] at hportable
          cases hserver : (stripName "svr=" head).isSome with
          | true =>
            rw [hserver, if_pos rfl] at hportable
            simpa only [huri, hindex, hserver, if_true] using ih hportable index
          | false => simp only [huri, hindex, hserver, Bool.false_eq_true, if_false, Except.map]

/-- A portable NodeId reads as the same node of the renumbered namespace, or is
refused with the same error. -/
theorem parse_node_id (codec : TextCodec) {s : String} (hportable : PortableNodeId s) :
    namespace_table.parse_node_id codec table' s = (namespace_table.parse_node_id codec table s).map σ.node_id := by
  have hheads := σ.parseHeads s hportable 0
  rw [σ.standard] at hheads
  rw [namespace_table.parse_node_id, namespace_table.parse_node_id, hheads]
  cases namespace_table.parseHeads table s 3 0 s.toList with
  | error error => rfl
  | ok parsed =>
    simp only [Except.map]
    cases parse_identifier codec (String.ofList parsed.2) <;> rfl

end Renumbering

section Reordered

variable {uris uris' : List String}

/-- Where the URI at an index stands in the other list. -/
def renumberOf (uris uris' : List String) (index : Nat) : Nat :=
  match uris[index]? with
  | some uri => uris'.idxOf uri
  | none => index

theorem renumberOf_of_getElem? {index : Nat} {uri : String} (h : uris[index]? = some uri) :
    renumberOf uris uris' index = uris'.idxOf uri := by
  rw [renumberOf, h]

theorem renumberOf_of_length_le {index : Nat} (h : uris.length ≤ index) : renumberOf uris uris' index = index := by
  rw [renumberOf, List.getElem?_eq_none h]

theorem renumberOf_lt (hperm : uris.Perm uris') {index : Nat} (h : index < uris.length) :
    renumberOf uris uris' index < uris'.length := by
  rw [renumberOf_of_getElem? (List.getElem?_eq_getElem h)]
  exact List.idxOf_lt_length_iff.mpr (hperm.subset (List.getElem_mem h))

theorem renumberOf_injective (hperm : uris.Perm uris') (hnodup : uris.Nodup) :
    Function.Injective (renumberOf uris uris') := by
  intro i j h
  have hlength := hperm.length_eq
  by_cases hi : i < uris.length
  · by_cases hj : j < uris.length
    · rw [renumberOf_of_getElem? (List.getElem?_eq_getElem hi),
        renumberOf_of_getElem? (List.getElem?_eq_getElem hj)] at h
      have huri : uris[i] = uris[j] :=
        (List.idxOf_inj (hperm.subset (List.getElem_mem hi))).mp h
      exact (hnodup.getElem_inj_iff).mp huri
    · have hlt := renumberOf_lt hperm hi
      rw [h, renumberOf_of_length_le (by omega)] at hlt
      omega
  · by_cases hj : j < uris.length
    · have hlt := renumberOf_lt hperm hj
      rw [← h, renumberOf_of_length_le (by omega)] at hlt
      omega
    · rwa [renumberOf_of_length_le (by omega), renumberOf_of_length_le (by omega)] at h

/-- A URI is resolved to where it first stands. -/
theorem index_of_eq_idxOf {uri : String} (hlength : uris.length ≤ 2 ^ 16) :
    (NamespaceTable.mk uris).index_of uri = if uri ∈ uris then some (uris.idxOf uri) else none := by
  split
  · rename_i hmem
    have hlt := List.idxOf_lt_length_iff.mpr hmem
    refine index_of_eq_some_iff.mpr ⟨by omega, ?_, fun j hj hget => ?_⟩
    · exact List.getElem?_idxOf hmem
    · obtain ⟨_, hsame⟩ := List.getElem?_eq_some_iff.mp hget
      have hother := List.not_of_lt_findIdx (p := (· == uri)) hj
      rw [hsame, beq_self_eq_true] at hother
      cases hother
  · rename_i hmem
    refine Option.eq_none_iff_forall_ne_some.mpr fun index hindex => hmem ?_
    exact List.mem_of_getElem? (index_of_eq_some_iff.mp hindex).2.1

/-- The same namespaces in another order, with the standard one in front. -/
def Renumbering.ofPerm (hperm : uris.Perm uris') (hnodup : uris.Nodup) (hhead : uris.head? = uris'.head?)
    (hlength : uris.length ≤ 2 ^ 16) : Renumbering ⟨uris⟩ ⟨uris'⟩ where
  renumber := renumberOf uris uris'
  injective := renumberOf_injective hperm hnodup
  standard := by
    cases huris : uris with
    | nil => rfl
    | cons first rest =>
      rw [huris, List.head?_cons] at hhead
      obtain ⟨rest', rfl⟩ := List.head?_eq_some_iff.mp hhead.symm
      rw [renumberOf_of_getElem? (List.getElem?_cons_zero), List.idxOf_cons_self]
  index_of uri := by
    rw [index_of_eq_idxOf hlength, index_of_eq_idxOf (hperm.length_eq ▸ hlength)]
    by_cases hmem : uri ∈ uris
    · rw [if_pos hmem, if_pos (hperm.subset hmem), Option.map_some, renumberOf_of_getElem? (List.getElem?_idxOf hmem)]
    · rw [if_neg hmem, if_neg fun h => hmem (hperm.symm.subset h), Option.map_none]

end Reordered

end mapping.namespace_table
