import OpcuaGateway.Gateway.DeviceTypes
import OpcuaGateway.Mapping.Source.Directory

open transition ordered_map text mapping.source mapping.namespace_table gateway.config tedge.proxy

namespace gateway.device_types

/-- What a file loads as. -/
def loadOf (decoder : Decoder) (name : String) (file : File) : Except MappingError LoadedDeviceType :=
  load_file decoder name file.text file.metadata.fingerprint

/-- What the mapping file of this name loads as, if it is there and can be loaded. -/
def loadNow (decoder : Decoder) (files : Directory) (name : String) : Option LoadedDeviceType :=
  (if is_mapping_file name then files.get name else none).bind fun file => (loadOf decoder name file).toOption

/-- What the directory loads as, read at once in this order. -/
def directoryNow (decoder : Decoder) (files : Directory) (names : List String) : List LoadedDeviceType :=
  sortById (names.filterMap (loadNow decoder files))

/-- The pushed members of the set are what the files hold: of several files with one
id, the one that wins the merge. -/
def ServesFiles (decoder : Decoder) (files : Directory) (names : List String)
    (sent : List LoadedDeviceType) : Prop :=
  ∀ l, l.origin = .Push → (l ∈ sent ↔ (merged [] (directoryNow decoder files names)).get l.id = some l)

section Load

variable {decoder : Decoder} {name text fingerprint : String} {l : LoadedDeviceType}

theorem load_file_eq_ok (h : load_file decoder name text fingerprint = .ok l) :
    l.origin = .Push ∧ l.fingerprint = fingerprint := by
  unfold load_file at h
  dsimp only at h
  split at h
  · cases h
    exact ⟨rfl, rfl⟩
  · split at h
    · cases h
      exact ⟨rfl, rfl⟩
    · cases h

theorem fingerprint_ne_empty (metadata : Metadata) : metadata.fingerprint ≠ "" := by
  intro h
  have hcolon : ':' ∈ metadata.fingerprint.toList := by simp [Metadata.fingerprint]
  rw [h] at hcolon
  cases hcolon

theorem loadNow_eq_some {files : Directory} (h : loadNow decoder files name = some l) :
    ∃ file, files.get name = some file ∧ loadOf decoder name file = .ok l := by
  obtain ⟨file, hfile, hload⟩ := Option.bind_eq_some_iff.mp h
  split at hfile
  · exact ⟨file, hfile, result.toOption_eq_some.mp hload⟩
  · cases hfile

/-- The entries of the directory, listed in this order. -/
def entriesOf (files : Directory) (names : List String) : List DirEntry :=
  names.filterMap fun name => (files.get name).map fun file => ⟨name, some file.text, file.metadata.fingerprint⟩

/-- Read at once, the directory loads as `load_dir` loads it. -/
theorem directoryNow_eq_load_dir (decoder : Decoder) (files : Directory) (names : List String) :
    directoryNow decoder files names = load_dir decoder (entriesOf files names) := by
  rw [directoryNow, load_dir, entriesOf, List.filterMap_filterMap]
  congr 2
  funext name
  cases hfile : files.get name with
  | none => simp [loadNow, hfile]
  | some file => cases hname : is_mapping_file name <;> simp [loadNow, loadEntry, loadOf, hfile, hname]

theorem mem_sortById {loaded : List LoadedDeviceType} : l ∈ sortById loaded ↔ l ∈ loaded :=
  List.mem_insertionSort _

end Load

section History

variable (decoder : Decoder) (history : List (String × File))

/-- The device type is what some file loaded as at some time. -/
def Genuine (l : LoadedDeviceType) : Prop :=
  ∃ name file, (name, file) ∈ history ∧ loadOf decoder name file = .ok l

/-- It is genuine, or its file was gone when the metadata was read. -/
def Recorded (l : LoadedDeviceType) : Prop :=
  l.origin = .Push ∧ (Genuine decoder history l ∨ l.fingerprint = "")

variable {decoder history} {l other : LoadedDeviceType}

theorem Genuine.fingerprint_ne (h : Genuine decoder history l) : l.fingerprint ≠ "" := by
  obtain ⟨name, file, -, hload⟩ := h
  rw [(load_file_eq_ok hload).2]
  exact fingerprint_ne_empty _

/-- A fingerprint tells what was loaded. -/
theorem Genuine.eq_of_fingerprint (hdistinct : (history.map fun entry => entry.2.metadata.fingerprint).Nodup)
    (hl : Genuine decoder history l) (hother : Recorded decoder history other)
    (hsame : other.fingerprint = l.fingerprint) : other = l := by
  rcases hother.2 with ⟨name', file', hmem', hload'⟩ | hempty
  · obtain ⟨name, file, hmem, hload⟩ := hl
    have hfingerprint : file'.metadata.fingerprint = file.metadata.fingerprint := by
      rw [← (load_file_eq_ok hload').2, ← (load_file_eq_ok hload).2, hsame]
    have hentry := List.inj_on_of_nodup_map hdistinct hmem' hmem hfingerprint
    cases hentry
    exact Except.ok.inj (hload'.symm.trans hload)
  · exact absurd (hsame.symm.trans hempty) hl.fingerprint_ne

theorem Recorded.mono {history' : List (String × File)} (h : Recorded decoder history l)
    (hsub : ∀ entry ∈ history, entry ∈ history') : Recorded decoder history' l := by
  refine ⟨h.1, h.2.imp_left ?_⟩
  rintro ⟨name, file, hmem, hload⟩
  exact ⟨name, file, hsub _ hmem, hload⟩

end History

section Merge

variable {pulled pushed : List LoadedDeviceType} {l : LoadedDeviceType}

/-- The pushed members of a merged set are those of the pushed files alone. -/
theorem mem_merge_push (hpulled : ∀ p ∈ pulled, p.origin = .Pull) (hpush : l.origin = .Push) :
    l ∈ merge pulled pushed ↔ (merged [] pushed).get l.id = some l := by
  rw [mem_merge_iff, get_merged]
  cases hget : (merged [] pushed).get l.id with
  | some other => rw [Option.some_or]
  | none =>
    rw [Option.none_or]
    constructor
    · intro hpull
      have horigin := hpulled l (by simpa using (of_get_merged hpull).2)
      rw [hpush] at horigin
      cases horigin
    · intro hnone
      cases hnone

theorem mem_of_mem_merge (h : l ∈ merge pulled pushed) : l ∈ pulled ++ pushed :=
  (of_get_merged (mem_merge_iff.mp h)).2

end Merge

section Merged

variable {pulled pushed pulled' pushed' : List LoadedDeviceType} {l : LoadedDeviceType}

/-- Sets of one revision have members with the same marker under every id. -/
theorem exists_of_revision_eq (hsame : revision (merge pulled pushed) = revision (merge pulled' pushed'))
    (hmem : l ∈ merge pulled pushed) : ∃ other ∈ merge pulled' pushed',
      other.origin = l.origin ∧ other.fingerprint = l.fingerprint := by
  have hget := congrArg (OrderedMap.get · l.id) hsame
  simp only [revision_merge, OrderedMap.get_mapValues, mem_merge_iff.mp hmem, Option.map_some] at hget
  obtain ⟨other, hother, hmarker⟩ := Option.map_eq_some_iff.mp hget.symm
  obtain ⟨horigin, hfingerprint⟩ := Prod.mk.inj hmarker
  obtain ⟨hid, -⟩ := of_get_merged hother
  refine ⟨other, mem_merge_iff.mpr ?_, horigin, hfingerprint⟩
  rw [hid, hother]

/-- Where both sets were loaded from files, equal revisions mean equal pushed members. -/
theorem mem_merge_iff_of_revision_eq {decoder : Decoder} {history : List (String × File)}
    (hdistinct : (history.map fun entry => entry.2.metadata.fingerprint).Nodup)
    (hpulled : ∀ p ∈ pulled, p.origin = .Pull) (hpulled' : ∀ p ∈ pulled', p.origin = .Pull)
    (hpushed : ∀ p ∈ pushed, Recorded decoder history p)
    (hpushed' : ∀ p ∈ pushed', Genuine decoder history p)
    (hsame : revision (merge pulled pushed) = revision (merge pulled' pushed')) (hpush : l.origin = .Push) :
    l ∈ merge pulled pushed ↔ l ∈ merge pulled' pushed' := by
  have hfile : ∀ {other pulled pushed}, (∀ p ∈ pulled, p.origin = .Pull) → other ∈ merge pulled pushed →
      other.origin = .Push → other ∈ pushed := by
    intro other pulled pushed hpulled hmem horigin
    refine (List.mem_append.mp (mem_of_mem_merge hmem)).resolve_left fun hpull => ?_
    have hother := hpulled other hpull
    rw [horigin] at hother
    cases hother
  constructor
  · intro hmem
    obtain ⟨other, hother, horigin, hfingerprint⟩ := exists_of_revision_eq hsame hmem
    have hgenuine := hpushed' other (hfile hpulled' hother (horigin.trans hpush))
    have hrecorded := hpushed l (hfile hpulled hmem hpush)
    obtain rfl := hgenuine.eq_of_fingerprint hdistinct hrecorded hfingerprint.symm
    exact hother
  · intro hmem
    obtain ⟨other, hother, horigin, hfingerprint⟩ := exists_of_revision_eq hsame.symm hmem
    have hgenuine := hpushed' l (hfile hpulled' hmem hpush)
    have hrecorded := hpushed other (hfile hpulled hother (horigin.trans hpush))
    obtain rfl := hgenuine.eq_of_fingerprint hdistinct hrecorded hfingerprint
    exact hother

end Merged

section Run

/-- The file between its two reads, with the text that was read. -/
def ProviderPhase.reading : ProviderPhase → Option (String × String)
  | .readMetadata _ _ name text _ _ => some (name, text)
  | _ => none

def ProviderPhase.loaded : ProviderPhase → List LoadedDeviceType
  | .readText _ _ _ loaded => loaded
  | .readMetadata _ _ _ _ _ loaded => loaded
  | _ => []

variable (decoder : Decoder)

/-- A write between the two reads of a file leaves what the file loads as. -/
def NotTorn (state : ProviderState) (label : ProviderLabel) : Prop :=
  ∀ name file text, label = .wrote name file → state.phase.reading = some (name, text) →
    load_file decoder name text file.metadata.fingerprint = loadOf decoder name file

/-- While no file was written since the poll started, the provider has read what the
directory holds now. -/
def Snapshot (state : ProviderState) : Prop :=
  match state.phase with
  | .readText _ read pending loaded =>
    (read ++ pending).Perm state.files.keys ∧ loaded = read.filterMap (loadNow decoder state.files)
  | .readMetadata _ read name text pending loaded =>
    (read ++ name :: pending).Perm state.files.keys ∧ loaded = read.filterMap (loadNow decoder state.files) ∧
      is_mapping_file name = true ∧ ∃ file, state.files.get name = some file ∧ file.text = text
  | .waiting listed _ =>
    listed.Perm state.files.keys ∧ ServesFiles decoder state.files listed state.sent
  | _ => True

/-- The set that was sent, and the revision it is remembered by. -/
structure SentFrom (state : ProviderState) (pulled pushed : List LoadedDeviceType) : Prop where
  origin : ∀ l ∈ pulled, l.origin = .Pull
  recorded : ∀ l ∈ pushed, Recorded decoder state.history l
  sent : state.sent = merge pulled pushed
  revision : state.revision = mapping.source.revision state.sent

structure ProviderInv (state : ProviderState) : Prop where
  known : ∀ name file, state.files.get name = some file → (name, file) ∈ state.history
  distinct : (state.history.map fun entry => entry.2.metadata.fingerprint).Nodup
  pulled : ∀ l ∈ state.pulled, l.origin = .Pull
  sent : state.phase ≠ .finished → ∃ pulled pushed, SentFrom decoder state pulled pushed
  loaded : ∀ l ∈ state.phase.loaded, Recorded decoder state.history l
  reading : ∀ name text, state.phase.reading = some (name, text) → ∀ file, state.files.get name = some file →
    load_file decoder name text file.metadata.fingerprint = loadOf decoder name file
  snapshot : state.written = false → Snapshot decoder state

variable {decoder} {config : Config} {state next : ProviderState}

theorem providerInv_start (h : (run config decoder).start state) : ProviderInv decoder state := by
  obtain ⟨hdistinct, hhistory, -, hpulled, -, hrevision, hsent, hphase⟩ := h
  constructor
  · intro name file hfile
    rw [hhistory]
    exact state.files.get_eq_some_iff_mem.mp hfile
  · rw [OrderedMap.values, List.map_map] at hdistinct
    rw [hhistory]
    exact hdistinct
  · simp [hpulled]
  · exact fun _ => ⟨[], [], by simp, by simp, hsent, by rw [hrevision, hsent]; rfl⟩
  · simp [hphase, ProviderPhase.loaded]
  · simp [hphase, ProviderPhase.reading]
  · simp [hphase, Snapshot]

theorem ProviderInv.wrote (h : ProviderInv decoder state) {name : String} {file : File}
    (hfresh : Fresh state file) (hguard : NotTorn decoder state (.wrote name file)) :
    ProviderInv decoder { state with
      files := state.files.insert name file, history := (name, file) :: state.history, written := true } where
  known := by
    intro other found hfound
    rw [OrderedMap.get_insert] at hfound
    split at hfound
    · rename_i heq
      cases hfound
      rw [heq]
      exact List.mem_cons_self
    · exact List.mem_cons_of_mem _ (h.known other found hfound)
  distinct := List.nodup_cons.mpr ⟨hfresh, h.distinct⟩
  pulled := h.pulled
  sent := by
    intro hphase
    obtain ⟨pulled, pushed, hsent⟩ := h.sent hphase
    exact ⟨pulled, pushed, hsent.origin,
      fun l hl => (hsent.recorded l hl).mono fun _ hmem => List.mem_cons_of_mem _ hmem, hsent.sent, hsent.revision⟩
  loaded := fun l hl => (h.loaded l hl).mono fun _ hmem => List.mem_cons_of_mem _ hmem
  reading := by
    intro other text hreading found hfound
    rw [OrderedMap.get_insert] at hfound
    split at hfound
    · rename_i heq
      subst heq
      cases hfound
      exact hguard other file text rfl hreading
    · exact h.reading other text hreading found hfound
  snapshot := by
    intro hwritten
    cases hwritten

theorem ProviderInv.removed (h : ProviderInv decoder state) (name : String) :
    ProviderInv decoder { state with files := state.files.remove name, written := true } where
  known := by
    intro other found hfound
    rw [OrderedMap.get_remove] at hfound
    split at hfound
    · cases hfound
    · exact h.known other found hfound
  distinct := h.distinct
  pulled := h.pulled
  sent := fun hphase => by
    obtain ⟨pulled, pushed, hsent⟩ := h.sent hphase
    exact ⟨pulled, pushed, hsent.origin, hsent.recorded, hsent.sent, hsent.revision⟩
  loaded := h.loaded
  reading := by
    intro other text hreading found hfound
    rw [OrderedMap.get_remove] at hfound
    split at hfound
    · cases hfound
    · exact h.reading other text hreading found hfound
  snapshot := by
    intro hwritten
    cases hwritten

/-- Steps that only move on in the loop, with nothing loaded yet. -/
theorem ProviderInv.move (h : ProviderInv decoder state) (halive : state.phase ≠ .finished)
    {pulled : List LoadedDeviceType} (hpulled : ∀ l ∈ pulled, l.origin = .Pull) (backoff : Nat) (written : Bool)
    {phase : ProviderPhase} (hloaded : phase.loaded = []) (hreading : phase.reading = none)
    (hsnapshot : Snapshot decoder { state with pulled, backoff, written, phase }) :
    ProviderInv decoder { state with pulled, backoff, written, phase } where
  known := h.known
  distinct := h.distinct
  pulled := hpulled
  sent := fun _ => by
    obtain ⟨pulled, pushed, hsent⟩ := h.sent halive
    exact ⟨pulled, pushed, hsent.origin, hsent.recorded, hsent.sent, hsent.revision⟩
  loaded := by simp [hloaded]
  reading := by simp [hreading]
  snapshot := fun _ => hsnapshot

theorem ProviderInv.onFetch (h : ProviderInv decoder state) (hphase : state.phase = .fetching)
    (outcome : Option (Except ProxyError (List ManagedObject))) :
    ProviderInv decoder (onFetch config state outcome) := by
  have halive : state.phase ≠ .finished := by simp [hphase]
  unfold gateway.device_types.onFetch
  split
  · exact h.move halive h.pulled state.backoff state.written rfl rfl trivial
  · rename_i objects
    refine h.move halive (fun l hl => ?_) 1 state.written rfl rfl trivial
    obtain ⟨mo, -, hmo⟩ := List.mem_filterMap.mp hl
    obtain ⟨device_type, -, rfl⟩ := Option.map_eq_some_iff.mp hmo
    rfl
  · split
    · exact h.move halive h.pulled _ state.written rfl rfl trivial
    · exact h.move halive h.pulled state.backoff state.written rfl rfl trivial

/-- The first read of a file. A name that is no mapping file, or is gone, is passed. -/
theorem ProviderInv.readText (h : ProviderInv decoder state) {delay : Nat} {read pending : List String}
    {name : String} {loaded : List LoadedDeviceType}
    (hphase : state.phase = .readText delay read (name :: pending) loaded)
    (hstep : readNext decoder state = some next) : ProviderInv decoder next := by
  have hloaded : ∀ l ∈ loaded, Recorded decoder state.history l := by
    simpa [hphase, ProviderPhase.loaded] using h.loaded
  have hsent := h.sent (by simp [hphase])
  simp only [readNext, hphase] at hstep
  split at hstep
  · rename_i file hfile
    cases hstep
    obtain ⟨hmapping, hfile⟩ : is_mapping_file name = true ∧ state.files.get name = some file := by
      simpa using hfile
    refine ⟨h.known, h.distinct, h.pulled, fun _ => ?_, hloaded, ?_, fun hwritten => ?_⟩
    · obtain ⟨pulled, pushed, hsent⟩ := hsent
      exact ⟨pulled, pushed, hsent.origin, hsent.recorded, hsent.sent, hsent.revision⟩
    · intro other text hreading found hfound
      obtain ⟨rfl, rfl⟩ := Prod.mk.inj (Option.some.inj hreading)
      cases hfile.symm.trans hfound
      rfl
    · have hsnapshot := h.snapshot hwritten
      simp only [Snapshot, hphase] at hsnapshot
      exact ⟨hsnapshot.1, hsnapshot.2, hmapping, file, hfile, rfl⟩
  · rename_i hnone
    cases hstep
    refine ⟨h.known, h.distinct, h.pulled, fun _ => ?_, hloaded, by simp [ProviderPhase.reading],
      fun hwritten => ?_⟩
    · obtain ⟨pulled, pushed, hsent⟩ := hsent
      exact ⟨pulled, pushed, hsent.origin, hsent.recorded, hsent.sent, hsent.revision⟩
    · have hsnapshot := h.snapshot hwritten
      simp only [Snapshot, hphase] at hsnapshot
      obtain ⟨hperm, hread⟩ := hsnapshot
      refine ⟨by simpa using hperm, ?_⟩
      simp [loadNow, hnone, hread]

/-- The second read of a file: what is loaded is what the file holds, or the file is
gone. -/
theorem ProviderInv.readMetadata (h : ProviderInv decoder state) {delay : Nat} {read pending : List String}
    {name text : String} {loaded : List LoadedDeviceType}
    (hphase : state.phase = .readMetadata delay read name text pending loaded)
    (hstep : readNext decoder state = some next) : ProviderInv decoder next := by
  have hloaded : ∀ l ∈ loaded, Recorded decoder state.history l := by
    simpa [hphase, ProviderPhase.loaded] using h.loaded
  have hreading := h.reading name text (by rw [hphase]; rfl)
  simp only [readNext, hphase] at hstep
  cases hstep
  refine ⟨h.known, h.distinct, h.pulled, fun _ => ?_, fun l hl => ?_, by simp [ProviderPhase.reading],
    fun hwritten => ?_⟩
  · obtain ⟨pulled, pushed, hsent⟩ := h.sent (by simp [hphase])
    exact ⟨pulled, pushed, hsent.origin, hsent.recorded, hsent.sent, hsent.revision⟩
  · rcases List.mem_append.mp hl with hl | hl
    · exact hloaded l hl
    · have hload := result.toOption_eq_some.mp (Option.mem_toList.mp hl)
      refine ⟨(load_file_eq_ok hload).1, ?_⟩
      cases hfile : state.files.get name with
      | none =>
        rw [hfile] at hload
        exact Or.inr (load_file_eq_ok hload).2
      | some file =>
        rw [hfile, Option.elim_some, hreading file hfile] at hload
        exact Or.inl ⟨name, file, h.known name file hfile, hload⟩
  · have hsnapshot := h.snapshot hwritten
    simp only [Snapshot, hphase] at hsnapshot
    obtain ⟨hperm, hread, hmapping, file, hfile, rfl⟩ := hsnapshot
    refine ⟨by simpa using hperm, ?_⟩
    rw [List.filterMap_append, hread, hfile]
    simp only [List.append_cancel_left_eq]
    cases hload : (loadOf decoder name file).toOption <;>
      simp_all [loadNow, loadOf]

theorem ProviderInv.compare (h : ProviderInv decoder state) {consumers : Bool}
    (hstep : compare state consumers = some next) : ProviderInv decoder next := by
  unfold gateway.device_types.compare at hstep
  split at hstep
  · rename_i delay read loaded hphase
    have hloaded : ∀ l ∈ sortById loaded, Recorded decoder state.history l := by
      intro l hl
      refine h.loaded l ?_
      rw [hphase]
      exact mem_sortById.mp hl
    have hsnapshot : state.written = false → read.Perm state.files.keys ∧
        loaded = read.filterMap (loadNow decoder state.files) := by
      intro hwritten
      have hsnapshot := h.snapshot hwritten
      simp only [Snapshot, hphase, List.append_nil] at hsnapshot
      exact hsnapshot
    dsimp only at hstep
    split at hstep
    · rename_i hsame
      cases hstep
      obtain ⟨pulled, pushed, hsent⟩ := h.sent (by simp [hphase])
      refine ⟨h.known, h.distinct, h.pulled, fun _ => ⟨pulled, pushed, hsent.origin, hsent.recorded,
        hsent.sent, hsent.revision⟩, by simp [ProviderPhase.loaded], by simp [ProviderPhase.reading],
        fun hwritten => ?_⟩
      obtain ⟨hperm, hread⟩ := hsnapshot hwritten
      refine ⟨hperm, fun l hpush => ?_⟩
      have hrevision := is_empty_between_iff.mp hsame
      rw [hsent.revision, hsent.sent] at hrevision
      have hgenuine : ∀ p ∈ sortById loaded, Genuine decoder state.history p := by
        intro p hp
        rw [mem_sortById, hread] at hp
        obtain ⟨name, -, hname⟩ := List.mem_filterMap.mp hp
        obtain ⟨file, hfile, hload⟩ := loadNow_eq_some hname
        exact ⟨name, file, h.known name file hfile, hload⟩
      change l ∈ state.sent ↔ _
      rw [hsent.sent, mem_merge_iff_of_revision_eq h.distinct hsent.origin h.pulled hsent.recorded hgenuine
        hrevision hpush, mem_merge_push h.pulled hpush, directoryNow, ← hread]
    · split at hstep
      · cases hstep
        refine ⟨h.known, h.distinct, h.pulled, fun _ => ⟨_, _, h.pulled, hloaded, rfl, rfl⟩,
          by simp [ProviderPhase.loaded], by simp [ProviderPhase.reading], fun hwritten => ?_⟩
        obtain ⟨hperm, hread⟩ := hsnapshot hwritten
        refine ⟨hperm, fun l hpush => ?_⟩
        rw [mem_merge_push h.pulled hpush, directoryNow, ← hread]
      · cases hstep
        exact ⟨h.known, h.distinct, h.pulled, fun halive => absurd rfl halive,
          by simp [ProviderPhase.loaded], by simp [ProviderPhase.reading], fun _ => trivial⟩
  · cases hstep

theorem ProviderInv.step (h : ProviderInv decoder state) {label : ProviderLabel}
    (hguard : NotTorn decoder state label) (hstep : runStep config decoder state label = some next) :
    ProviderInv decoder next := by
  cases label with
  | wrote name file =>
    obtain ⟨hfresh, rfl⟩ := when_eq_some.mp hstep
    exact h.wrote hfresh hguard
  | removed name =>
    cases hstep
    exact h.removed name
  | fetched outcome =>
    obtain ⟨hphase, rfl⟩ := when_eq_some.mp hstep
    exact h.onFetch hphase outcome
  | listed names =>
    simp only [runStep] at hstep
    split at hstep
    · rename_i delay hphase
      obtain ⟨hperm, rfl⟩ := when_eq_some.mp hstep
      exact h.move (by simp [hphase]) h.pulled state.backoff state.written rfl rfl ⟨hperm, rfl⟩
    · cases hstep
  | advance =>
    change readNext decoder state = some next at hstep
    cases hphase : state.phase with
    | readText delay read pending loaded =>
      cases pending with
      | nil => simp [readNext, hphase] at hstep
      | cons name pending => exact h.readText hphase hstep
    | readMetadata delay read name text pending loaded => exact h.readMetadata hphase hstep
    | fetching => simp [readNext, hphase] at hstep
    | listing delay => simp [readNext, hphase] at hstep
    | waiting listed delay => simp [readNext, hphase] at hstep
    | finished => simp [readNext, hphase] at hstep
  | compared consumers => exact h.compare hstep
  | slept =>
    simp only [runStep] at hstep
    split at hstep
    · rename_i listed delay hphase
      cases hstep
      exact h.move (by simp [hphase]) h.pulled state.backoff false rfl rfl trivial
    · cases hstep
  | cancelled =>
    simp only [runStep] at hstep
    split at hstep
    · rename_i listed delay hphase
      cases hstep
      exact h.move (by simp [hphase]) h.pulled state.backoff state.written rfl rfl trivial
    · cases hstep

/-- A mapping file that shares its id with no other one is in the served set. -/
theorem ServesFiles.mem {files : Directory} {names : List String} {sent : List LoadedDeviceType}
    (h : ServesFiles decoder files names sent) {name : String} (hname : name ∈ names) {l : LoadedDeviceType}
    (hload : loadNow decoder files name = some l)
    (hunique : ∀ other ∈ names, ∀ l', loadNow decoder files other = some l' → l'.id = l.id → other = name) :
    l ∈ sent := by
  obtain ⟨file, -, hfile⟩ := loadNow_eq_some hload
  refine (h l (load_file_eq_ok hfile).1).mpr ?_
  have hmem : l ∈ directoryNow decoder files names :=
    mem_sortById.mpr (List.mem_filterMap.mpr ⟨name, hname, hload⟩)
  obtain ⟨l', hget⟩ := OrderedMap.exists_get_ofList (List.mem_map_of_mem (f := fun l => (l.id, l)) hmem)
  have hmerged : (merged [] (directoryNow decoder files names)).get l.id = some l' := hget
  obtain ⟨hid, hmem'⟩ := of_get_merged hmerged
  obtain ⟨other, hother, hload'⟩ := List.mem_filterMap.mp (mem_sortById.mp hmem')
  obtain rfl := hunique other hother l' hload' hid
  cases hload.symm.trans hload'
  exact hget

variable (config decoder)

/-- In every run in which no file is rewritten between its two reads, the provider
waits with a set that serves the files: unless one was written since the poll
started, the pushed members of the set are what the files hold now. -/
theorem pushed_files_served (state : ProviderState)
    (h : (run config decoder).ReachableUnder (NotTorn decoder) state) (hunwritten : state.written = false)
    {names : List String} {delay : Nat} (hphase : state.phase = .waiting names delay) :
    names.Perm state.files.keys ∧ ServesFiles decoder state.files names state.sent ∧
      ∀ name ∈ names, ∀ l, loadNow decoder state.files name = some l →
        (∀ other ∈ names, ∀ l', loadNow decoder state.files other = some l' → l'.id = l.id → other = name) →
        l ∈ state.sent := by
  have hinv : ProviderInv decoder state :=
    h.invariant (ProviderInv decoder) (fun _ hstart => providerInv_start hstart)
      fun _ _ _ hinv hguard hstep => hinv.step hguard hstep
  have hsnapshot := hinv.snapshot hunwritten
  simp only [Snapshot, hphase] at hsnapshot
  obtain ⟨hperm, hserves⟩ := hsnapshot
  exact ⟨hperm, hserves, fun name hname l hload hunique => hserves.mem hname hload hunique⟩

end Run

/-- A decoder for bare fragments that keeps the text of a file as the name. -/
def namingDecoder : Decoder where
  managed_object _ := none
  device_type text :=
    some {
      name := text
      enabled := true
      mappings := []
      apply_constraints := none
      subscription_type := none
      overridden_subscriptions := []
      referenced_root_node_id := none }

/-- The file `a.json` in its version at some time. -/
def versionAt (text : String) (modified : Nat) : File := ⟨text, ⟨text.utf8ByteSize, modified⟩⟩

def onlyFile (file : File) : ProviderState where
  files := .ofList [("a.json", file)]
  history := [("a.json", file)]
  written := false
  pulled := []
  backoff := 1
  revision := .empty
  sent := []
  phase := .fetching

/-- A whole poll, with what the writer does between the two reads of the file. -/
def pollWith (between : List ProviderLabel) : List ProviderLabel :=
  [.fetched none, .listed ["a.json"], .advance] ++ between ++ [.advance, .compared true]

theorem onlyFile_start (file : File) : (run .default namingDecoder).start (onlyFile file) :=
  ⟨List.nodup_singleton _, rfl, rfl, rfl, rfl, rfl, rfl, rfl⟩

theorem pollWith_notTorn (state : ProviderState) :
    (run .default namingDecoder).Guarded (NotTorn namingDecoder) state (pollWith []) := by
  refine Machine.guarded_of_forall fun label hmem _ name file text hlabel _ => ?_
  subst hlabel
  simp [pollWith] at hmem

/-- A file rewritten while the provider waits is served after the next poll. -/
theorem pushed_file_served_after_rewrite :
    ∃ state names delay, (run .default namingDecoder).ReachableUnder (NotTorn namingDecoder) state ∧
      state.written = false ∧ state.phase = .waiting names delay ∧
      ∃ l, loadNow namingDecoder state.files "a.json" = some l ∧ l.device_type.name = "2" ∧ l ∈ state.sent := by
  obtain ⟨first, hfirst, hreading, rewritten, hwrote, polling, hslept, state, hsecond, hwritten, hphase, l, hload, hname⟩ :
      ∃ first, (run .default namingDecoder).exec (onlyFile (versionAt "1" 1)) (pollWith []) = some first ∧
        first.phase.reading = none ∧
        ∃ rewritten, (run .default namingDecoder).step first (.wrote "a.json" (versionAt "2" 2)) = some rewritten ∧
        ∃ polling, (run .default namingDecoder).step rewritten .slept = some polling ∧
        ∃ state, (run .default namingDecoder).exec polling (pollWith []) = some state ∧
          state.written = false ∧ state.phase = .waiting ["a.json"] 60 ∧
          ∃ l, loadNow namingDecoder state.files "a.json" = some l ∧ l.device_type.name = "2" :=
    ⟨_, rfl, rfl, _, rfl, _, rfl, _, rfl, rfl, rfl, _, rfl, rfl⟩
  have hreach := Machine.ReachableUnder.exec (.start (onlyFile_start _)) (pollWith_notTorn _) hfirst
  have hreach := hreach.step (fun _ _ _ _ hduring => by simp [hreading] at hduring) hwrote
  have hreach := hreach.step (fun _ _ _ hlabel => by cases hlabel) hslept
  have hreach := hreach.exec (pollWith_notTorn _) hsecond
  obtain ⟨-, -, hserved⟩ := pushed_files_served namingDecoder .default state hreach hwritten hphase
  refine ⟨state, _, _, hreach, hwritten, hphase, l, hload, hname, hserved "a.json" List.mem_cons_self l hload ?_⟩
  intro other hother _ _ _
  exact List.mem_singleton.mp hother

/-- A file rewritten between its two reads stays unserved: its old content has been
remembered under the new fingerprint, so the next poll sees no difference. -/
theorem torn_read_never_served :
    ¬ ∀ config decoder state, (run config decoder).Reachable state → state.written = false →
      ∀ names delay, state.phase = .waiting names delay →
        ∀ name ∈ names, ∀ l, loadNow decoder state.files name = some l →
          (∀ other ∈ names, ∀ l', loadNow decoder state.files other = some l' → l'.id = l.id → other = name) →
          l ∈ state.sent := by
  intro hall
  obtain ⟨state, hrun, hwritten, hphase, l, hload, hmem⟩ :
      ∃ state, (run .default namingDecoder).exec (onlyFile (versionAt "1" 1))
          (pollWith [.wrote "a.json" (versionAt "2" 2)] ++ [.slept] ++ pollWith []) = some state ∧
        state.written = false ∧ state.phase = .waiting ["a.json"] 60 ∧
        ∃ l, loadNow namingDecoder state.files "a.json" = some l ∧ l ∉ state.sent := by
    refine ⟨_, rfl, rfl, rfl, _, rfl, ?_⟩
    decide
  have hreach := Machine.Reachable.exec (.start (onlyFile_start _)) hrun
  refine hmem (hall .default namingDecoder state hreach hwritten _ _ hphase "a.json" List.mem_cons_self l hload ?_)
  intro other hother _ _ _
  exact List.mem_singleton.mp hother

end gateway.device_types
