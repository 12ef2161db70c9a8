import OpcuaGateway.Foundation.Result
import OpcuaGateway.Foundation.Transition
import OpcuaGateway.Gateway.Config
import OpcuaGateway.Mapping.Source
import OpcuaGateway.Tedge.Proxy

open transition ordered_map mapping.source gateway.config tedge.proxy

namespace gateway.device_types

structure File where
  text : String
  metadata : Metadata
  deriving DecidableEq

/-- The files of the mapping directory by name. -/
abbrev Directory := OrderedMap String File

/-- Where the provider stands in its loop. While the directory is read, the files
before and behind the current one are listed with what was loaded so far. -/
inductive ProviderPhase where
  | fetching
  | listing (delay : Nat)
  | readText (delay : Nat) (read pending : List String) (loaded : List LoadedDeviceType)
  /-- The text of file `name` has been read, its metadata has not. -/
  | readMetadata (delay : Nat) (read : List String) (name text : String) (pending : List String)
      (loaded : List LoadedDeviceType)
  | waiting (listed : List String) (delay : Nat)
  | finished
  deriving DecidableEq

/-- The provider, the directory it reads and the channel it sends on. -/
structure ProviderState where
  files : Directory
  /-- Every file there ever was, with its name. -/
  history : List (String × File)
  /-- A file was written or removed since the current poll started. -/
  written : Bool
  pulled : List LoadedDeviceType
  backoff : Nat
  revision : Revision
  /-- The set last sent on the channel. -/
  sent : List LoadedDeviceType
  phase : ProviderPhase
  deriving DecidableEq

inductive ProviderLabel where
  /-- The steps of the external writer. -/
  | wrote (name : String) (file : File)
  | removed (name : String)
  /-- The outcome of the fetch; there is none without a proxy. -/
  | fetched (outcome : Option (Except ProxyError (List ManagedObject)))
  | listed (names : List String)
  | advance
  | compared (consumers : Bool)
  | slept
  | cancelled

section Run

variable (config : Config) (decoder : Decoder)

def poll_interval : Nat := max config.proxy.poll_interval_secs 1

/-- Device types already fetched are only replaced by a good fetch. -/
def onFetch (state : ProviderState) : Option (Except ProxyError (List ManagedObject)) → ProviderState
  | none => { state with phase := .listing (poll_interval config) }
  | some (.ok objects) =>
    { state with
      pulled := objects.filterMap from_managed_object
      backoff := 1
      phase := .listing (poll_interval config) }
  | some (.error error) =>
    if error.is_transient then
      { state with backoff := min (state.backoff * 2) config.max_backoff, phase := .listing state.backoff }
    else { state with phase := .listing (poll_interval config) }

/-- The next of the two reads of a file. A file that cannot be read or loaded is
ignored; one that is gone when its metadata is read has an empty fingerprint. -/
def readNext (state : ProviderState) : Option ProviderState :=
  match state.phase with
  | .readText delay read (name :: pending) loaded =>
    match (if is_mapping_file name then state.files.get name else none) with
    | some file => some { state with phase := .readMetadata delay read name file.text pending loaded }
    | none => some { state with phase := .readText delay (read ++ [name]) pending loaded }
  | .readMetadata delay read name text pending loaded =>
    let fingerprint := (state.files.get name).elim "" (·.metadata.fingerprint)
    let found := (load_file decoder name text fingerprint).toOption.toList
    some { state with phase := .readText delay (read ++ [name]) pending (loaded ++ found) }
  | _ => none

/-- Merge both sources and send the set if its revision is a new one. -/
def compare (state : ProviderState) (consumers : Bool) : Option ProviderState :=
  match state.phase with
  | .readText delay read [] loaded =>
    let merged := merge state.pulled (sortById loaded)
    let fresh_revision := mapping.source.revision merged
    if (RevisionDiff.between state.revision fresh_revision).is_empty then
      some { state with phase := .waiting read delay }
    else if consumers then
      some { state with revision := fresh_revision, sent := merged, phase := .waiting read delay }
    else some { state with revision := fresh_revision, phase := .finished }
  | _ => none

/-- A write gives the file a fingerprint that no file has had before. -/
def Fresh (state : ProviderState) (file : File) : Prop :=
  file.metadata.fingerprint ∉ state.history.map fun entry => entry.2.metadata.fingerprint

instance (state : ProviderState) (file : File) : Decidable (Fresh state file) :=
  inferInstanceAs (Decidable (_ ∉ _))

def runStep (state : ProviderState) : ProviderLabel → Option ProviderState
  | .wrote name file =>
    when (Fresh state file) { state with
      files := state.files.insert name file
      history := (name, file) :: state.history
      written := true }
  | .removed name => some { state with files := state.files.remove name, written := true }
  | .fetched outcome => when (state.phase = .fetching) (onFetch config state outcome)
  | .listed names =>
    match state.phase with
    | .listing delay =>
      when (names.Perm state.files.keys) { state with phase := .readText delay [] names [] }
    | _ => none
  | .advance => readNext decoder state
  | .compared consumers => compare state consumers
  | .slept =>
    match state.phase with
    | .waiting _ _ => some { state with written := false, phase := .fetching }
    | _ => none
  | .cancelled =>
    match state.phase with
    | .waiting _ _ => some { state with phase := .finished }
    | _ => none

/-- Poll both mapping sources until cancelled, publishing every change. -/
def run : Machine ProviderState ProviderLabel where
  start state := (state.files.values.map (·.metadata.fingerprint)).Nodup ∧
    state.history = state.files.entries ∧ state.written = false ∧ state.pulled = [] ∧ state.backoff = 1 ∧
    state.revision = .empty ∧ state.sent = [] ∧ state.phase = .fetching
  step := runStep config decoder

end Run

end gateway.device_types
