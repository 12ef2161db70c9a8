import OpcuaGateway.Foundation.Text

open text

namespace mapping.namespace_table

/-- Errors raised while loading or resolving device types. -/
inductive MappingError where
  | InvalidNodeId (text : String)
  | UnknownNamespace (uri : String)
  | ReadFile (path : String)
  | ParseFile (path : String)
  deriving DecidableEq

inductive Identifier where
  | Numeric (value : Nat)
  | String (value : String)
  | Guid (bytes : List Nat)
  | ByteString (bytes : List Nat)
  deriving DecidableEq

structure NodeId where
  namespace_index : Nat
  identifier : Identifier
  deriving DecidableEq

structure QualifiedName where
  namespace_index : Nat
  name : String
  deriving DecidableEq

/-- The text forms of GUIDs and byte strings, which the OPC UA library reads and
writes. -/
structure TextCodec where
  parse_guid : String → Option (List Nat)
  show_guid : List Nat → String
  from_base64 : String → Option (List Nat)
  as_base64 : List Nat → String

/-- The `Server_NamespaceArray` of a live session: namespace index to URI. -/
structure NamespaceTable where
  uris : List String
  deriving DecidableEq

/-- The first index of a URI, if it is an unsigned 16-bit one. -/
def NamespaceTable.index_of (self : NamespaceTable) (uri : String) : Option Nat :=
  (self.uris.findIdx? (· == uri)).filter (· < 2 ^ 16)

/-- The URI at an unsigned 16-bit index. -/
def NamespaceTable.uri_of (self : NamespaceTable) (index : Fin (2 ^ 16)) : Option String := self.uris[index.val]?

/-- True when a browse path segment uses the unsupported `regex(...)` form. -/
def is_regex (segment : String) : Bool := starts_with "regex(" segment && ends_with ")" segment

/-- Everything before and after the last colon. -/
def splitLastColon (cs : List Char) : Option (List Char × List Char) :=
  (splitOnce ':' cs.reverse).map fun parts => (parts.2.reverse, parts.1.reverse)

/-- The namespace a prefix names, by index or by URI. -/
def NamespaceTable.resolvePrefix (self : NamespaceTable) (head : List Char) : Option Nat :=
  (parse_unsigned (2 ^ 16) (String.ofList head)).or (self.index_of (String.ofList head))

/-- Walk the delimiter backwards until the prefix resolves. The first argument
bounds the number of colons. -/
def floatDelimiter (table : NamespaceTable) (segment : String) :
    Nat → List Char → List Char → QualifiedName
  | 0, _, _ => ⟨0, segment⟩
  | n + 1, head, value =>
    match table.resolvePrefix head with
    | some index => ⟨index, String.ofList value⟩
    | none =>
      match splitLastColon head with
      | some (head', middle) => floatDelimiter table segment n head' (middle ++ ':' :: value)
      | none => ⟨0, segment⟩

/-- Convert one `<nsUriOrIndex>:<name>` browse path segment. -/
def to_qualified_name (table : NamespaceTable) (segment : String) : QualifiedName :=
  match splitLastColon segment.toList with
  | none => ⟨0, segment⟩
  | some (head, value) => floatDelimiter table segment (segment.length + 1) head value

def to_qualified_names (table : NamespaceTable) (browse_path : List String) : List QualifiedName :=
  browse_path.map (to_qualified_name table)

def parse_identifier (codec : TextCodec) (s : String) : Option Identifier :=
  match s.toList with
  | kind :: '=' :: rest =>
    let value := String.ofList rest
    if kind = 'i' then (parse_unsigned (2 ^ 32) value).map .Numeric
    else if kind = 's' then some (.String value)
    else if kind = 'g' then (codec.parse_guid value).map .Guid
    else if kind = 'b' then (codec.from_base64 value).map .ByteString
    else none
  | _ => none

/-- The part of a head behind a name that is matched in any case. -/
def stripName (name : String) (head : List Char) : Option (List Char) :=
  if name.toList.isPrefixOf (head.map to_ascii_lowercase) then some (head.drop name.length) else none

/-- Read the leading `nsu=`, `ns=` and `svr=` heads, at most as many as the first
argument says, and return the namespace with what is left. -/
def parseHeads (table : NamespaceTable) (s : String) :
    Nat → Nat → List Char → Except MappingError (Nat × List Char)
  | 0, index, rest => .ok (index, rest)
  | n + 1, index, rest =>
    match splitOnce ';' rest with
    | none => .ok (index, rest)
    | some (head, tail) =>
      match stripName "nsu=" head with
      | some uri =>
        match table.index_of (String.ofList uri) with
        | some index => parseHeads table s n index tail
        | none => .error (.UnknownNamespace (String.ofList uri))
      | none =>
        match stripName "ns=" head with
        | some digits =>
          match parse_unsigned (2 ^ 16) (String.ofList (digits.map to_ascii_lowercase)) with
          | some index => parseHeads table s n index tail
          | none => .error (.InvalidNodeId s)
        | none =>
          if (stripName "svr=" head).isSome then parseHeads table s n index tail
          else .ok (index, rest)

/-- Parse a NodeId string, accepting both the `ns=<index>;…` and the
`nsu=<uri>;…` forms. -/
def parse_node_id (codec : TextCodec) (table : NamespaceTable) (s : String) :
    Except MappingError NodeId :=
  match parseHeads table s 3 0 s.toList with
  | .error error => .error error
  | .ok (index, rest) =>
    match parse_identifier codec (String.ofList rest) with
    | some identifier => .ok ⟨index, identifier⟩
    | none => .error (.InvalidNodeId s)

/-- The string form of a NodeId; namespace 0 is left out. -/
def NodeId.to_string (codec : TextCodec) (self : NodeId) : String :=
  let identifier :=
    match self.identifier with
    | .Numeric value => "i=" ++ toString value
    | .String value => "s=" ++ value
    | .Guid bytes => "g=" ++ codec.show_guid bytes
    | .ByteString bytes => "b=" ++ codec.as_base64 bytes
  if self.namespace_index = 0 then identifier
  else "ns=" ++ toString self.namespace_index ++ ";" ++ identifier

def sampleTable : NamespaceTable :=
  ⟨["http://opcfoundation.org/UA/", "urn:freeopcua:python:server", "http://www.cumulocity.com"]⟩

example : to_qualified_name sampleTable "http://www.cumulocity.com:Pump01" = ⟨2, "Pump01"⟩ := by decide
example : to_qualified_name sampleTable "http://unknown.example/:Thing" =
    ⟨0, "http://unknown.example/:Thing"⟩ := by decide

end mapping.namespace_table
