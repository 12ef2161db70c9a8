import OpcuaGateway.Mapping.Namespace.Segments

open text

namespace mapping.namespace_table

/-- The letter that stands before the identifier in the text of a NodeId. -/
def NodeId.kind (self : NodeId) : Char :=
  match self.identifier with
  | .Numeric _ => 'i'
  | .String _ => 's'
  | .Guid _ => 'g'
  | .ByteString _ => 'b'

def NodeId.identifierText (codec : TextCodec) (self : NodeId) : String :=
  match self.identifier with
  | .Numeric value => toString value
  | .String value => value
  | .Guid bytes => codec.show_guid bytes
  | .ByteString bytes => codec.as_base64 bytes

/-- The namespace part of the text of a NodeId. -/
def NodeId.namespaceText (self : NodeId) : List Char :=
  if self.namespace_index = 0 then [] else 'n' :: 's' :: '=' :: Nat.toDigits 10 self.namespace_index ++ [';']

theorem NodeId.to_string_toList (codec : TextCodec) (self : NodeId) :
    (self.to_string codec).toList =
      self.namespaceText ++ self.kind :: '=' :: (self.identifierText codec).toList := by
  obtain ⟨namespace_index, identifier⟩ := self
  unfold NodeId.to_string NodeId.namespaceText
  cases identifier <;> dsimp only <;> split <;>
    simp [NodeId.kind, NodeId.identifierText, String.toList_append]

/-- Every part of a NodeId fits the type it has there. -/
structure NodeId.Fits (id : NodeId) : Prop where
  namespace_index : id.namespace_index < 2 ^ 16
  numeric : ∀ value, id.identifier = .Numeric value → value < 2 ^ 32
  guid : ∀ bytes, id.identifier = .Guid bytes → bytes.length = 16 ∧ ∀ b ∈ bytes, b < 256
  byte_string : ∀ bytes, id.identifier = .ByteString bytes → ∀ b ∈ bytes, b < 256

/-- The library reads its own texts of GUIDs and byte strings back. -/
structure TextCodec.RoundTrips (codec : TextCodec) : Prop where
  guid : ∀ bytes, bytes.length = 16 → (∀ b ∈ bytes, b < 256) →
    codec.parse_guid (codec.show_guid bytes) = some bytes
  byte_string : ∀ bytes, (∀ b ∈ bytes, b < 256) → codec.from_base64 (codec.as_base64 bytes) = some bytes

/-- The text of the identifier alone. -/
def NodeId.identifierForm (codec : TextCodec) (self : NodeId) : String :=
  String.ofList (self.kind :: '=' :: (self.identifierText codec).toList)

/-- The ways to write a NodeId: its own text, or a namespace in front of the
identifier, by index or by URI and with a keyword in any case. -/
inductive TextOf (codec : TextCodec) (table : NamespaceTable) (id : NodeId) : String → Prop where
  | canonical : TextOf codec table id (id.to_string codec)
  | index {keyword : String} (hkeyword : eq_ignore_ascii_case keyword "ns=" = true) :
      TextOf codec table id (keyword ++ toString id.namespace_index ++ ";" ++ id.identifierForm codec)
  | uri {keyword uri : String} (hkeyword : eq_ignore_ascii_case keyword "nsu=" = true) (huri : ';' ∉ uri.toList)
      (hfirst : FirstAt table uri id.namespace_index) :
      TextOf codec table id (keyword ++ uri ++ ";" ++ id.identifierForm codec)

theorem parse_identifier_form {codec : TextCodec} (hcodec : codec.RoundTrips) {id : NodeId} (hfits : id.Fits) :
    parse_identifier codec (id.identifierForm codec) = some id.identifier := by
  rw [parse_identifier, NodeId.identifierForm, String.toList_ofList]
  cases hidentifier : id.identifier with
  | Numeric value =>
    have hread : parse_unsigned 4294967296 (String.ofList (Nat.toDigits 10 value)) = some value :=
      parse_unsigned_toDigits (hfits.numeric value hidentifier)
    simp [NodeId.kind, NodeId.identifierText, hidentifier, hread]
  | String value => simp [NodeId.kind, NodeId.identifierText, hidentifier]
  | Guid bytes =>
    obtain ⟨hlength, hbytes⟩ := hfits.guid bytes hidentifier
    have hread := hcodec.guid bytes hlength hbytes
    simp [NodeId.kind, NodeId.identifierText, hidentifier, hread]
  | ByteString bytes =>
    have hread := hcodec.byte_string bytes (hfits.byte_string bytes hidentifier)
    simp [NodeId.kind, NodeId.identifierText, hidentifier, hread]

section Heads

variable {table : NamespaceTable} {s : String}

theorem stripName_append {name : String} {keyword : List Char}
    (hkeyword : keyword.map to_ascii_lowercase = name.toList) (payload : List Char) :
    stripName name (keyword ++ payload) = some payload := by
  have hlength : keyword.length = name.length := by
    rw [← String.length_toList, ← hkeyword, List.length_map]
  have hprefix : name.toList.isPrefixOf ((keyword ++ payload).map to_ascii_lowercase) = true := by
    rw [List.isPrefixOf_iff_prefix, List.map_append, hkeyword]
    exact List.prefix_append _ _
  rw [stripName, if_pos hprefix, ← hlength, List.drop_left]

theorem stripName_eq_none {name : String} {keyword start : List Char}
    (hkeyword : keyword.map to_ascii_lowercase = start) (payload : List Char)
    (hother : ∀ rest, ¬ name.toList <+: start ++ rest) : stripName name (keyword ++ payload) = none := by
  rw [stripName, if_neg]
  rw [List.isPrefixOf_iff_prefix, List.map_append, hkeyword]
  exact hother _

theorem to_ascii_lowercase_of_isDigit {c : Char} (h : c.isDigit = true) : to_ascii_lowercase c = c := by
  rw [Char.isDigit, Bool.and_eq_true, decide_eq_true_iff, decide_eq_true_iff] at h
  refine if_neg fun hupper => ?_
  have hle : 'A' ≤ '9' := hupper.1.trans h.2
  exact absurd hle (by decide)

/-- A keyword has no semicolon in it. -/
theorem notMem_of_keyword {name : String} {keyword : List Char}
    (hkeyword : keyword.map to_ascii_lowercase = name.toList) (hname : ';' ∉ name.toList) : ';' ∉ keyword := by
  intro hmem
  rw [← hkeyword] at hname
  exact hname (List.mem_map.mpr ⟨';', hmem, by decide⟩)

theorem splitOnce_head {head : List Char} (hhead : ';' ∉ head) (tail : List Char) :
    splitOnce ';' (head ++ ';' :: tail) = some (head, tail) :=
  splitOnce_eq_some_iff.mpr ⟨rfl, hhead⟩

/-- An index in front of the rest is read, and replaces what was read before. -/
theorem parseHeads_index {keyword : List Char} (hkeyword : keyword.map to_ascii_lowercase = "ns=".toList)
    {index : Nat} (hindex : index < 2 ^ 16) (n before : Nat) (tail : List Char) :
    parseHeads table s (n + 1) before (keyword ++ Nat.toDigits 10 index ++ ';' :: tail) =
      parseHeads table s n index tail := by
  have hdigits : ∀ c ∈ Nat.toDigits 10 index, c.isDigit = true :=
    fun c hmem => Nat.isDigit_of_mem_toDigits (by omega) (by omega) hmem
  have hsemi : ';' ∉ keyword ++ Nat.toDigits 10 index := by
    rw [List.mem_append, not_or]
    exact ⟨notMem_of_keyword hkeyword (by decide), fun hmem => absurd (hdigits ';' hmem) (by decide)⟩
  have hlower : (Nat.toDigits 10 index).map to_ascii_lowercase = Nat.toDigits 10 index :=
    (List.map_congr_left fun c hmem => to_ascii_lowercase_of_isDigit (hdigits c hmem)).trans (List.map_id _)
  have huri : stripName "nsu=" (keyword ++ Nat.toDigits 10 index) = none :=
    stripName_eq_none hkeyword _ fun rest hprefix => by simp [List.cons_prefix_cons] at hprefix
  rw [parseHeads, splitOnce_head hsemi]
  simp only [huri, stripName_append hkeyword, hlower, parse_unsigned_toDigits hindex]

/-- A URI in front of the rest is looked up in the table. -/
theorem parseHeads_uri {keyword : List Char} (hkeyword : keyword.map to_ascii_lowercase = "nsu=".toList)
    {uri : String} (huri : ';' ∉ uri.toList) {index : Nat} (hindex : table.index_of uri = some index)
    (n before : Nat) (tail : List Char) :
    parseHeads table s (n + 1) before (keyword ++ uri.toList ++ ';' :: tail) = parseHeads table s n index tail := by
  have hsemi : ';' ∉ keyword ++ uri.toList := by
    rw [List.mem_append, not_or]
    exact ⟨notMem_of_keyword hkeyword (by decide), huri⟩
  rw [parseHeads, splitOnce_head hsemi]
  simp only [stripName_append hkeyword, String.ofList_toList, hindex]

theorem parseHeads_unknown {keyword : List Char} (hkeyword : keyword.map to_ascii_lowercase = "nsu=".toList)
    {uri : String} (huri : ';' ∉ uri.toList) (hunknown : table.index_of uri = none) (n before : Nat)
    (tail : List Char) :
    parseHeads table s (n + 1) before (keyword ++ uri.toList ++ ';' :: tail) = .error (.UnknownNamespace uri) := by
  have hsemi : ';' ∉ keyword ++ uri.toList := by
    rw [List.mem_append, not_or]
    exact ⟨notMem_of_keyword hkeyword (by decide), huri⟩
  rw [parseHeads, splitOnce_head hsemi]
  simp only [stripName_append hkeyword, String.ofList_toList, hunknown]

/-- A server index in front of the rest is passed over. -/
theorem parseHeads_server {server : List Char} (hserver : ';' ∉ server) (n before : Nat) (tail : List Char) :
    parseHeads table s (n + 1) before ("svr=".toList ++ server ++ ';' :: tail) =
      parseHeads table s n before tail := by
  have hkeyword : "svr=".toList.map to_ascii_lowercase = "svr=".toList := by decide
  have hsemi : ';' ∉ "svr=".toList ++ server := by
    rw [List.mem_append, not_or]
    exact ⟨by decide, hserver⟩
  have huri : stripName "nsu=" ("svr=".toList ++ server) = none :=
    stripName_eq_none hkeyword _ fun rest hprefix => by simp [List.cons_prefix_cons] at hprefix
  have hindex : stripName "ns=" ("svr=".toList ++ server) = none :=
    stripName_eq_none hkeyword _ fun rest hprefix => by simp [List.cons_prefix_cons] at hprefix
  rw [parseHeads, splitOnce_head hsemi]
  simp only [huri, hindex, stripName_append hkeyword, Option.isSome_some, if_true]

/-- No identifier looks like a head, whatever its text is. -/
theorem parseHeads_identifier (codec : TextCodec) (id : NodeId) (n index : Nat) :
    parseHeads table s n index (id.identifierForm codec).toList =
      .ok (index, (id.identifierForm codec).toList) := by
  rw [NodeId.identifierForm, String.toList_ofList]
  cases n with
  | zero => rfl
  | succ n =>
    rw [parseHeads]
    cases hsplit : splitOnce ';' (id.kind :: '=' :: (id.identifierText codec).toList) with
    | none => rfl
    | some parts =>
      obtain ⟨head, tail⟩ := parts
      obtain ⟨hform, -⟩ := splitOnce_eq_some_iff.mp hsplit
      have hkind : to_ascii_lowercase id.kind = id.kind ∧ id.kind ≠ ';' ∧ id.kind ≠ 'n' := by
        unfold NodeId.kind
        split <;> decide
      obtain ⟨payload, rfl⟩ : ∃ payload, head = [id.kind, '='] ++ payload := by
        cases head with
        | nil => exact absurd (List.cons.inj hform).1 hkind.2.1
        | cons c head =>
          obtain ⟨rfl, hrest⟩ := List.cons.inj hform
          cases head with
          | nil => exact absurd (List.cons.inj hrest).1 (by decide)
          | cons d payload =>
            obtain ⟨rfl, -⟩ := List.cons.inj hrest
            exact ⟨payload, rfl⟩
      have hkeyword : [id.kind, '='].map to_ascii_lowercase = [id.kind, '='] := by
        rw [List.map_cons, hkind.1]
        rfl
      have hnone : ∀ name ∈ ["nsu=", "ns=", "svr="], stripName name ([id.kind, '='] ++ payload) = none := by
        intro name hname
        refine stripName_eq_none hkeyword _ fun rest hprefix => ?_
        have hcases : name = "nsu=" ∨ name = "ns=" ∨ name = "svr=" := by simpa using hname
        obtain rfl | rfl | rfl := hcases
        · simp [List.cons_prefix_cons, Ne.symm hkind.2.2] at hprefix
        · simp [List.cons_prefix_cons, Ne.symm hkind.2.2] at hprefix
        · simp [List.cons_prefix_cons] at hprefix
      simp only [hnone "nsu=" (by simp), hnone "ns=" (by simp), hnone "svr=" (by simp), Option.isSome_none,
        Bool.false_eq_true, if_false]

end Heads

/-- What is read in front of the identifier is the namespace of the NodeId. -/
theorem parse_node_id_of_heads {codec : TextCodec} {table : NamespaceTable} (hcodec : codec.RoundTrips)
    {id : NodeId} (hfits : id.Fits) {s : String}
    (hheads : parseHeads table s 3 0 s.toList = .ok (id.namespace_index, (id.identifierForm codec).toList)) :
    parse_node_id codec table s = .ok id := by
  rw [parse_node_id, hheads]
  simp only [String.ofList_toList, parse_identifier_form hcodec hfits]

theorem lowercase_keyword {keyword name : String} (h : eq_ignore_ascii_case keyword name = true)
    (hname : lowercase name = name) : keyword.toList.map to_ascii_lowercase = name.toList := by
  rw [eq_ignore_ascii_case, beq_iff_eq, hname, lowercase] at h
  rw [← h, String.toList_ofList]

/-- One more head in front of a text is left for the heads of the text. -/
theorem TextOf.parseHeads {codec : TextCodec} {table : NamespaceTable} {id : NodeId} (hfits : id.Fits)
    {text : String} (htext : TextOf codec table id text) (s : String) (n : Nat) :
    namespace_table.parseHeads table s (n + 1) 0 text.toList =
      .ok (id.namespace_index, (id.identifierForm codec).toList) := by
  cases htext with
  | canonical =>
    have hform : (id.to_string codec).toList = id.namespaceText ++ (id.identifierForm codec).toList := by
      rw [NodeId.to_string_toList, NodeId.identifierForm, String.toList_ofList]
    rw [hform, NodeId.namespaceText]
    by_cases hzero : id.namespace_index = 0
    · rw [if_pos hzero, List.nil_append, parseHeads_identifier, hzero]
    · have hkeyword : "ns=".toList.map to_ascii_lowercase = "ns=".toList := by decide
      have hindex := @parseHeads_index table s _ hkeyword _ hfits.namespace_index n 0
        (id.identifierForm codec).toList
      rw [parseHeads_identifier] at hindex
      rw [if_neg hzero, ← hindex]
      simp
  | @index keyword hkeyword =>
    have hindex := @parseHeads_index table s _ (lowercase_keyword hkeyword (by decide)) _
      hfits.namespace_index n 0 (id.identifierForm codec).toList
    rw [parseHeads_identifier] at hindex
    rw [← hindex]
    simp
  | @uri keyword uri hkeyword huri hfirst =>
    have hindex := @parseHeads_uri table s _ (lowercase_keyword hkeyword (by decide)) _ huri _
      (index_of_eq_some_iff.mpr hfirst) n 0 (id.identifierForm codec).toList
    rw [parseHeads_identifier] at hindex
    rw [← hindex]
    simp

theorem notMem_toString (k : Nat) : ';' ∉ (toString k).toList := by
  intro hmem
  have hdigit : ';' ∈ Nat.toDigits 10 k := by simpa using hmem
  have hc : (';').isDigit = true := Nat.isDigit_of_mem_toDigits (by omega) (by omega) hdigit
  exact absurd hc (by decide)

/-- A URI that is not in the table is reported, and never read as a NodeId. -/
theorem parse_node_id_unknown (codec : TextCodec) {table : NamespaceTable} {keyword uri : String}
    (hkeyword : eq_ignore_ascii_case keyword "nsu=" = true) (huri : ';' ∉ uri.toList)
    (hunknown : uri ∉ table.uris) (rest : String) :
    parse_node_id codec table (keyword ++ uri ++ ";" ++ rest) = .error (.UnknownNamespace uri) := by
  have hnone : table.index_of uri = none := by
    refine Option.eq_none_iff_forall_ne_some.mpr fun index hindex => hunknown ?_
    exact List.mem_of_getElem? (index_of_eq_some_iff.mp hindex).2.1
  have hheads := @parseHeads_unknown table (keyword ++ uri ++ ";" ++ rest) _
    (lowercase_keyword hkeyword (by decide)) _ huri hnone 2 0 rest.toList
  have htext : (keyword ++ uri ++ ";" ++ rest).toList = keyword.toList ++ uri.toList ++ ';' :: rest.toList := by simp
  rw [parse_node_id, htext, hheads]

/-- Every way to write a NodeId reads back as that NodeId, with a server index in front
or not, and an unknown URI does not read as any. -/
theorem parse_node_id_round_trip {codec : TextCodec} (hcodec : codec.RoundTrips) (table : NamespaceTable) :
    (∀ (id : NodeId) (text : String), id.Fits → TextOf codec table id text →
      parse_node_id codec table text = .ok id ∧
        ∀ server : Nat, parse_node_id codec table ("svr=" ++ toString server ++ ";" ++ text) = .ok id) ∧
    ∀ keyword uri rest : String, eq_ignore_ascii_case keyword "nsu=" = true → ';' ∉ uri.toList →
      uri ∉ table.uris →
        parse_node_id codec table (keyword ++ uri ++ ";" ++ rest) = .error (.UnknownNamespace uri) := by
  refine ⟨fun id text hfits htext => ⟨?_, fun server => ?_⟩, fun keyword uri rest hkeyword huri hunknown => ?_⟩
  · exact parse_node_id_of_heads hcodec hfits (htext.parseHeads hfits text 2)
  · apply parse_node_id_of_heads hcodec hfits
    have hlist : ("svr=" ++ toString server ++ ";" ++ text).toList =
        "svr=".toList ++ (toString server).toList ++ ';' :: text.toList := by
      simp only [String.toList_append, List.append_assoc]
      rfl
    rw [hlist, parseHeads_server (notMem_toString server)]
    exact htext.parseHeads hfits _ 1
  · exact parse_node_id_unknown codec hkeyword huri hunknown rest

/-- A codec that writes every byte as one character. -/
def byteCodec : TextCodec where
  parse_guid s := some (s.toList.map Char.toNat)
  show_guid bytes := String.ofList (bytes.map Char.ofNat)
  from_base64 s := some (s.toList.map Char.toNat)
  as_base64 bytes := String.ofList (bytes.map Char.ofNat)

theorem byteCodec_roundTrips : byteCodec.RoundTrips := by
  have hread : ∀ bytes : List Nat, (∀ b ∈ bytes, b < 256) →
      some ((String.ofList (bytes.map Char.ofNat)).toList.map Char.toNat) = some bytes := by
    intro bytes hbytes
    rw [String.toList_ofList, List.map_map]
    refine congrArg some ((List.map_congr_left fun b hmem => ?_).trans (List.map_id _))
    have hb := hbytes b hmem
    have hvalid : b.isValidChar := Or.inl (by omega)
    rw [Function.comp_apply, Char.ofNat, dif_pos hvalid]
    rfl
  exact ⟨fun bytes _ hbytes => hread bytes hbytes, hread⟩

/-- The name looks like a head of its own. -/
theorem parse_node_id_round_trip_valve :
    parse_node_id byteCodec sampleTable "svr=1;nsU=http://www.cumulocity.com;s=ns=3;valve" =
      .ok ⟨2, .String "ns=3;valve"⟩ := by
  have hfits : NodeId.Fits ⟨2, .String "ns=3;valve"⟩ := ⟨by decide, by simp, by simp, by simp⟩
  have hfirst : FirstAt sampleTable "http://www.cumulocity.com" 2 := index_of_eq_some_iff.mp (by decide)
  have htext := @TextOf.uri byteCodec sampleTable ⟨2, .String "ns=3;valve"⟩ "nsU=" "http://www.cumulocity.com"
    (by decide) (by decide) hfirst
  exact ((parse_node_id_round_trip byteCodec_roundTrips sampleTable).1 _ _ hfits htext).2 1

end mapping.namespace_table
