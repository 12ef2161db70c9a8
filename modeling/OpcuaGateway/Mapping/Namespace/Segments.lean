import Mathlib.Data.List.Nodup
import OpcuaGateway.Mapping.Namespace

open text

namespace mapping.namespace_table

theorem splitLastColon_eq_some {cs head value : List Char} (h : splitLastColon cs = some (head, value)) :
    cs = head ++ ':' :: value ∧ ':' ∉ value := by
  rw [splitLastColon, Option.map_eq_some_iff] at h
  obtain ⟨⟨after, before⟩, hsplit, hparts⟩ := h
  cases hparts
  obtain ⟨hcs, hnot⟩ := splitOnce_eq_some_iff.mp hsplit
  refine ⟨?_, fun hmem => hnot (List.mem_reverse.mp hmem)⟩
  rw [← List.reverse_reverse cs, hcs]
  simp

theorem splitLastColon_eq_none {cs : List Char} (h : splitLastColon cs = none) : ':' ∉ cs := by
  rw [splitLastColon, Option.map_eq_none_iff, splitOnce_eq_none_iff] at h
  exact fun hmem => h (List.mem_reverse.mpr hmem)

/-- The URI first stands in the table at that unsigned 16-bit position. -/
def FirstAt (table : NamespaceTable) (uri : String) (index : Nat) : Prop :=
  index < 2 ^ 16 ∧ table.uris[index]? = some uri ∧ ∀ j < index, table.uris[j]? ≠ some uri

/-- The namespace a text names: the number it reads as, or else the first position
at which it stands in the table. -/
def Names (table : NamespaceTable) (head : List Char) (index : Nat) : Prop :=
  parse_unsigned (2 ^ 16) (String.ofList head) = some index ∨
    (parse_unsigned (2 ^ 16) (String.ofList head) = none ∧ FirstAt table (String.ofList head) index)

theorem index_of_eq_some_iff {table : NamespaceTable} {uri : String} {index : Nat} :
    table.index_of uri = some index ↔ FirstAt table uri index := by
  rw [NamespaceTable.index_of, Option.filter_eq_some_iff, List.findIdx?_eq_some_iff_getElem, decide_eq_true_iff,
    FirstAt]
  constructor
  · rintro ⟨⟨hlt, heq, hfirst⟩, hindex⟩
    refine ⟨hindex, ?_, fun j hj hget => ?_⟩
    · rw [List.getElem?_eq_getElem hlt, eq_of_beq heq]
    · obtain ⟨hjlt, hjeq⟩ := List.getElem?_eq_some_iff.mp hget
      exact hfirst j hj (beq_iff_eq.mpr hjeq)
  · rintro ⟨hindex, hget, hfirst⟩
    obtain ⟨hlt, heq⟩ := List.getElem?_eq_some_iff.mp hget
    refine ⟨⟨hlt, beq_iff_eq.mpr heq, fun j hj hjeq => ?_⟩, hindex⟩
    exact hfirst j hj (List.getElem?_eq_some_iff.mpr ⟨hj.trans hlt, eq_of_beq hjeq⟩)

theorem resolvePrefix_eq_some_iff {table : NamespaceTable} {head : List Char} {index : Nat} :
    table.resolvePrefix head = some index ↔ Names table head index := by
  rw [NamespaceTable.resolvePrefix, Names]
  cases hnumber : parse_unsigned (2 ^ 16) (String.ofList head) with
  | some number => simp
  | none =>
    rw [Option.none_or, index_of_eq_some_iff]
    simp

theorem resolvePrefix_eq_none_iff {table : NamespaceTable} {head : List Char} :
    table.resolvePrefix head = none ↔ ∀ index, ¬ Names table head index := by
  rw [Option.eq_none_iff_forall_ne_some]
  exact forall_congr' fun index => not_congr resolvePrefix_eq_some_iff

/-- The loop over the delimiters, from one delimiter to the result it stops with. -/
inductive Floats (table : NamespaceTable) (segment : String) : List Char → List Char → QualifiedName → Prop where
  | resolved {head value index} (hresolve : table.resolvePrefix head = some index) :
      Floats table segment head value ⟨index, String.ofList value⟩
  | next {head value head' middle qn} (hresolve : table.resolvePrefix head = none)
      (hsplit : splitLastColon head = some (head', middle))
      (hrest : Floats table segment head' (middle ++ ':' :: value) qn) : Floats table segment head value qn
  | exhausted {head value} (hresolve : table.resolvePrefix head = none) (hsplit : splitLastColon head = none) :
      Floats table segment head value ⟨0, segment⟩

/-- Every delimiter makes the prefix shorter, so the loop ends. -/
theorem floats_floatDelimiter {table : NamespaceTable} {segment : String} {n : Nat} {head : List Char}
    (value : List Char) (hn : head.length < n) :
    Floats table segment head value (floatDelimiter table segment n head value) := by
  induction n generalizing head value with
  | zero => omega
  | succ n ih =>
    rw [floatDelimiter]
    cases hresolve : table.resolvePrefix head with
    | some index => exact .resolved hresolve
    | none =>
      cases hsplit : splitLastColon head with
      | none => exact .exhausted hresolve hsplit
      | some parts =>
        obtain ⟨hhead, -⟩ := splitLastColon_eq_some hsplit
        have hlength : head.length = parts.1.length + (parts.2.length + 1) := by
          conv_lhs => rw [hhead]
          simp
        exact .next hresolve hsplit (ih _ (by omega))

theorem floats_to_qualified_name {table : NamespaceTable} {segment : String} {head value : List Char}
    (hsplit : splitLastColon segment.toList = some (head, value)) :
    Floats table segment head value (to_qualified_name table segment) := by
  have hlength : segment.length = head.length + (value.length + 1) := by
    rw [← String.length_toList, (splitLastColon_eq_some hsplit).1]
    simp
  rw [to_qualified_name, hsplit]
  exact floats_floatDelimiter value (by omega)

/-- The text splits at a colon behind a prefix that names a namespace. -/
def ResolvesAt (table : NamespaceTable) (segment : String) (head value : List Char) (index : Nat) : Prop :=
  segment.toList = head ++ ':' :: value ∧ Names table head index

/-- The longest prefix that resolves decides; without one the segment is a name in
namespace 0. -/
def DecodesLongest (table : NamespaceTable) (segment : String) (qn : QualifiedName) : Prop :=
  (∃ head value index, ResolvesAt table segment head value index ∧
    (∀ head' value' index', ResolvesAt table segment head' value' index' → head'.length ≤ head.length) ∧
      qn = ⟨index, String.ofList value⟩) ∨
  ((∀ head value index, ¬ ResolvesAt table segment head value index) ∧ qn = ⟨0, segment⟩)

/-- A colon between two positions of a text stands in the part between them. -/
theorem colon_mem_of_between {head middle rest head' value' : List Char}
    (h : head ++ ':' :: (middle ++ rest) = head' ++ ':' :: value')
    (hlo : head.length < head'.length) (hhi : head'.length ≤ head.length + middle.length) : ':' ∈ middle := by
  have hget : (head' ++ ':' :: value')[head'.length]? = some ':' := by simp
  rw [← h, List.getElem?_append_right hlo.le] at hget
  obtain ⟨k, hk⟩ : ∃ k, head'.length - head.length = k + 1 := ⟨head'.length - head.length - 1, by omega⟩
  rw [hk, List.getElem?_cons_succ, List.getElem?_append_left (by omega)] at hget
  exact List.mem_of_getElem? hget

/-- The prefixes that the loop has passed do not resolve. -/
theorem Floats.decodesLongest {table : NamespaceTable} {segment : String} {head value : List Char}
    {qn : QualifiedName} (hfloats : Floats table segment head value qn)
    (hsegment : segment.toList = head ++ ':' :: value)
    (hpassed : ∀ head' value' index', ResolvesAt table segment head' value' index' →
      head'.length ≤ head.length) :
    DecodesLongest table segment qn := by
  induction hfloats with
  | resolved hresolve => exact .inl ⟨_, _, _, ⟨hsegment, resolvePrefix_eq_some_iff.mp hresolve⟩, hpassed, rfl⟩
  | @next head value head' middle qn hresolve hsplit _ ih =>
    obtain ⟨hhead, hmiddle⟩ := splitLastColon_eq_some hsplit
    have hsegment' : segment.toList = head' ++ ':' :: (middle ++ ':' :: value) := by
      rw [hsegment, hhead]
      simp
    refine ih hsegment' fun other rest index hother => ?_
    have hle := hpassed other rest index hother
    by_contra hlonger
    by_cases hsame : other.length = head.length
    · have hheads : other = head := (List.append_inj (hother.1.symm.trans hsegment) hsame).1
      rw [hheads] at hother
      exact resolvePrefix_eq_none_iff.mp hresolve index hother.2
    · have hlength := congrArg List.length hhead
      rw [List.length_append, List.length_cons] at hlength
      exact hmiddle (colon_mem_of_between (hsegment'.symm.trans hother.1) (by omega) (by omega))
  | @exhausted head value hresolve hsplit =>
    refine .inr ⟨fun other rest index hother => ?_, rfl⟩
    have hle := hpassed other rest index hother
    by_cases hsame : other.length = head.length
    · have hheads : other = head := (List.append_inj (hother.1.symm.trans hsegment) hsame).1
      rw [hheads] at hother
      exact resolvePrefix_eq_none_iff.mp hresolve index hother.2
    · have hget : (other ++ ':' :: rest)[other.length]? = some ':' := by simp
      rw [← hother.1, hsegment, List.getElem?_append_left (by omega)] at hget
      exact splitLastColon_eq_none hsplit (List.mem_of_getElem? hget)

theorem to_qualified_name_decodesLongest (table : NamespaceTable) (segment : String) :
    DecodesLongest table segment (to_qualified_name table segment) := by
  cases hsplit : splitLastColon segment.toList with
  | none =>
    have hcolon := splitLastColon_eq_none hsplit
    refine .inr ⟨fun head value index hresolves => hcolon ?_, ?_⟩
    · rw [hresolves.1]
      simp
    · rw [to_qualified_name, hsplit]
  | some parts =>
    obtain ⟨hsegment, hvalue⟩ := splitLastColon_eq_some hsplit
    refine (floats_to_qualified_name hsplit).decodesLongest hsegment fun head value index hresolves => ?_
    by_contra hlonger
    have hlength := congrArg List.length (hsegment.symm.trans hresolves.1)
    simp only [List.length_append, List.length_cons] at hlength
    have heq : parts.1 ++ ':' :: (parts.2 ++ []) = head ++ ':' :: value := by
      rw [List.append_nil, ← hsegment, hresolves.1]
    exact hvalue (colon_mem_of_between heq (by omega) (by omega))

/-- Under distinct URIs that are no numbers, every URI names its own index. -/
theorem names_of_uri_of {table : NamespaceTable} (hdistinct : table.uris.Nodup)
    (hnumber : ∀ other ∈ table.uris, parse_unsigned (2 ^ 16) other = none) {index : Fin (2 ^ 16)} {uri : String}
    (huri : table.uri_of index = some uri) : Names table uri.toList index := by
  rw [Names, String.ofList_toList]
  have hget : table.uris[index.val]? = some uri := huri
  refine .inr ⟨hnumber uri (List.mem_of_getElem? hget), index.isLt, hget, fun j hj hother => ?_⟩
  obtain ⟨hlt, heq⟩ := List.getElem?_eq_some_iff.mp hget
  obtain ⟨hjlt, hjeq⟩ := List.getElem?_eq_some_iff.mp hother
  have hsame := (List.Nodup.getElem_inj_iff hdistinct).mp (hjeq.trans heq.symm)
  omega

theorem Names.unique {table : NamespaceTable} {head : List Char} {index index' : Nat}
    (h : Names table head index) (h' : Names table head index') : index = index' := by
  have hresolve := resolvePrefix_eq_some_iff.mpr h
  rw [resolvePrefix_eq_some_iff.mpr h'] at hresolve
  exact (Option.some.inj hresolve).symm

/-- Where a prefix resolves and no longer one does, it is the one that decides. -/
theorem DecodesLongest.eq_of_resolvesAt {table : NamespaceTable} {segment : String} {qn : QualifiedName}
    (hdecodes : DecodesLongest table segment qn) {head value : List Char} {index : Nat}
    (hresolves : ResolvesAt table segment head value index)
    (hlongest : ∀ head' value' index', ResolvesAt table segment head' value' index' → head'.length ≤ head.length) :
    qn = ⟨index, String.ofList value⟩ := by
  obtain ⟨other, rest, found, hother, hmax, rfl⟩ | ⟨hnone, -⟩ := hdecodes
  · have hsame : head.length = other.length :=
      le_antisymm (hmax _ _ _ hresolves) (hlongest _ _ _ hother)
    obtain ⟨hheads, hvalues⟩ := List.append_inj (hresolves.1.symm.trans hother.1) hsame
    obtain rfl := hheads
    obtain ⟨-, rfl⟩ := List.cons.inj hvalues
    rw [hresolves.2.unique hother.2]
  · exact absurd hresolves (hnone _ _ _)

/-- A URI in front of a name decodes to its index and that name, unless a longer
prefix resolves as well. -/
theorem to_qualified_name_uri {table : NamespaceTable} (hdistinct : table.uris.Nodup)
    (hnumber : ∀ other ∈ table.uris, parse_unsigned (2 ^ 16) other = none) {index : Fin (2 ^ 16)} {uri : String}
    (huri : table.uri_of index = some uri) {name : String}
    (hlonger : ∀ before after, name.toList = before ++ ':' :: after →
      ∀ other, ¬ Names table (uri.toList ++ ':' :: before) other) :
    to_qualified_name table (uri ++ ":" ++ name) = ⟨index, name⟩ := by
  have htext : (uri ++ ":" ++ name).toList = uri.toList ++ ':' :: name.toList := by simp
  have hresolves : ResolvesAt table (uri ++ ":" ++ name) uri.toList name.toList index :=
    ⟨htext, names_of_uri_of hdistinct hnumber huri⟩
  have hdecodes := to_qualified_name_decodesLongest table (uri ++ ":" ++ name)
  refine (hdecodes.eq_of_resolvesAt hresolves fun head value other hother => ?_).trans ?_
  · by_contra hlong
    have heq : head ++ ':' :: value = uri.toList ++ ':' :: name.toList := hother.1.symm.trans htext
    -- A longer prefix takes the URI, the colon and a beginning of the name.
    obtain ⟨before, hbefore⟩ : ∃ before, head = uri.toList ++ ':' :: before := by
      obtain ⟨tail, htail⟩ := List.prefix_of_prefix_length_le ⟨':' :: name.toList, rfl⟩ ⟨_, heq⟩ (by omega)
      cases tail with
      | nil =>
        rw [← htail, List.append_nil] at hlong
        omega
      | cons c before =>
        rw [← htail, List.append_assoc] at heq
        obtain ⟨rfl, -⟩ := List.cons.inj (List.append_cancel_left heq)
        exact ⟨before, htail.symm⟩
    have hname : name.toList = before ++ ':' :: value := by
      rw [hbefore, List.append_assoc] at heq
      exact (List.cons.inj (List.append_cancel_left heq)).2.symm
    rw [hbefore] at hother
    exact hlonger before value hname other hother.2
  · rw [String.ofList_toList]

/-- The loop ends, the longest prefix that resolves decides, and a URI in front of a
name reads back where no longer prefix resolves. -/
theorem to_qualified_name_longest (table : NamespaceTable) (segment : String) :
    (∀ head value, splitLastColon segment.toList = some (head, value) →
      Floats table segment head value (to_qualified_name table segment)) ∧
    DecodesLongest table segment (to_qualified_name table segment) ∧
    (table.uris.Nodup → (∀ other ∈ table.uris, parse_unsigned (2 ^ 16) other = none) →
      ∀ (index : Fin (2 ^ 16)) (uri name : String), table.uri_of index = some uri →
        (∀ before after, name.toList = before ++ ':' :: after →
          ∀ other, ¬ Names table (uri.toList ++ ':' :: before) other) →
        to_qualified_name table (uri ++ ":" ++ name) = ⟨index, name⟩) :=
  ⟨fun _ _ => floats_to_qualified_name, to_qualified_name_decodesLongest table segment,
    fun hdistinct hnumber _ _ _ huri hlonger => to_qualified_name_uri hdistinct hnumber huri hlonger⟩

/-- The name has a colon of its own, and what stands before it names nothing. -/
theorem to_qualified_name_longest_pump :
    to_qualified_name sampleTable ("http://www.cumulocity.com" ++ ":" ++ "Pump:1") = ⟨2, "Pump:1"⟩ := by
  refine (to_qualified_name_longest sampleTable "").2.2 (by decide) (by decide) 2 _ _ rfl fun before after hname => ?_
  have hcolon : ':' ∉ before := by
    intro hmem
    have hcount := congrArg (List.count ':') hname
    have hpos := List.count_pos_iff.mpr hmem
    have hone : "Pump:1".toList.count ':' = 1 := by decide
    rw [List.count_append, List.count_cons_self] at hcount
    omega
  have hsplit := splitOnce_eq_some_iff.mpr ⟨hname, hcolon⟩
  have hpump : splitOnce ':' "Pump:1".toList = some ("Pump".toList, "1".toList) := by decide
  obtain rfl : before = "Pump".toList := congrArg Prod.fst (Option.some.inj (hsplit.symm.trans hpump))
  exact resolvePrefix_eq_none_iff.mp (by decide)

end mapping.namespace_table
