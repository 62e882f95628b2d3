/-
This file is the reconciliation of the recovery records with the committed rows.
It runs under the writer lock of the database: the rows do not change, and the
only others that touch the records are publishers that have committed and remove
their own. Everything is checked before the first file is removed; a file is
removed only when no committed row names it.
-/

import CareerOS.Career.PublicationJournals

namespace CareerOS

/-! ### Reconciliation -/

/-- The columns of `CareerAsset` that say where its bytes are. No row is below the directory of the
recovery records: every writer stores a path derived from the digest. -/
structure AssetRow where
  storagePath : String
  sha256 : String
  byteSize : Nat
  outside : ¬journalDirectory <+: pathOf storagePath

/-- `_committed_asset_metadata`, of one path. -/
def committedMetadata (rows : List AssetRow) (storagePath : String) : List (String × Nat) :=
  (rows.filter fun row => row.storagePath = storagePath).map fun row => (row.sha256, row.byteSize)

/-- What all claims of a path expect, when they agree. -/
def expectedMetadata (item : String × List AssetPublicationJournal) :
    Except FileFailure (String × String × Nat) :=
  match (item.2.map fun claim => (claim.sha256, claim.byteSize)).dedup with
  | [(sha256, byteSize)] => .ok (item.1, sha256, byteSize)
  | _ => .error (.storageWriteError "Asset publication recovery claims conflict")

/-- The claims of every path, in the order in which the paths appear. -/
def groupClaims (journals : List AssetPublicationJournal) :
    Dict String (List AssetPublicationJournal) :=
  Dict.groupFrom (fun journal => some journal.storagePath) [] journals

section

variable {Bytes : Type} [JsonBytes Bytes] (maxUploadFileSize : Nat)

/-- The check of one claimed path: is there a file, and is it the one that was claimed? -/
def checkClaimedPath (rows : List AssetRow) (item : String × String × Nat) :
    Program (Disk Bytes (List AssetRow)) FileFailure (Option String) := do
  let committed := committedMetadata rows item.1
  Program.refuseWhen (∃ metadata ∈ committed, metadata ≠ item.2)
    (.storageWriteError "Committed asset metadata conflicts with recovery metadata")
  let exists_ ← Disk.look fun disk => .ok (disk.files.find (pathOf item.1)).isSome
  if exists_ then
    Disk.look fun disk =>
      match disk.files.readVerified (pathOf item.1) item.2.1 item.2.2 maxUploadFileSize with
      | .ok _ => .ok (some item.1)
      | .error _ =>
        .error (.storageWriteError "Asset publication recovery bytes failed validation")
  else do
    Program.refuseWhen (committed ≠ [])
      (.storageWriteError "A committed asset is missing its durable bytes")
    return none

/-- The removal of the file of one path, when it has no committed row. -/
def clearFile (rows : List AssetRow) (existing : List String) (storagePath : String) :
    Program (Disk Bytes (List AssetRow)) FileFailure Bool :=
  if committedMetadata rows storagePath = [] ∧ storagePath ∈ existing then
    Disk.durableUnlink (pathOf storagePath)
  else return false

/-- The removal of one record. -/
def clearClaim (claim : AssetPublicationJournal) :
    Program (Disk Bytes (List AssetRow)) FileFailure Unit := do
  let _ ← Disk.durableUnlink claim.relativePath

/-- The removal of the file and of the records of one path. -/
def clearClaims (rows : List AssetRow) (existing : List String)
    (item : String × List AssetPublicationJournal) :
    Program (Disk Bytes (List AssetRow)) FileFailure Unit := do
  let _ ← clearFile rows existing item.1
  Program.each item.2 clearClaim

/-- `reconcile_asset_publication_journals`. -/
def reconcileAssetPublicationJournals (holdsWriterLock : Bool) :
    Program (Disk Bytes (List AssetRow)) FileFailure Nat := do
  Program.refuseWhen (holdsWriterLock = false)
    (.storageWriteError "Asset publication recovery requires the SQLite writer lock")
  let journals ← allAssetPublicationJournals maxUploadFileSize
  if journals = [] then return 0
  else do
    let grouped := groupClaims journals
    let expected ← Program.ofExcept (grouped.mapM expectedMetadata)
    Program.refuseWhen (512 * 1024 * 1024 < (expected.map fun item => item.2.2).sum)
      (.storageWriteError "Pending asset publication recovery bytes exceed the safety limit")
    let rows ← Disk.look fun disk => .ok disk.tables
    let found ← Program.collect expected (checkClaimedPath maxUploadFileSize rows)
    Program.each grouped (clearClaims rows (found.filterMap id))
    return journals.length

end

/-! ### Paths -/

theorem pathOf_injective {first second : String} (same : pathOf first = pathOf second) :
    first = second := by
  have parts : first.toList.splitOn '/' = second.toList.splitOn '/' :=
    List.map_injective_iff.mpr (fun _ _ letters => String.ofList_injective letters) same
  have joined := congrArg (['/'].intercalate ·) parts
  simp only [List.intercalate_splitOn] at joined
  exact String.toList_inj.mp joined

/-- A path below the directory of the records is written with a dot after its first part. -/
theorem dot_of_journalDirectory_prefix {text : String} (below : journalDirectory <+: pathOf text) :
    text.toList[7]? = some '.' := by
  obtain ⟨rest, same⟩ := below
  have parts : text.toList.splitOn '/' =
      "assets".toList :: ".publication-journal".toList :: rest.map String.toList := by
    have letters := congrArg (List.map String.toList) same
    unfold pathOf at letters
    rw [List.map_map] at letters
    have identity : String.toList ∘ String.ofList = id := funext fun _ => String.toList_ofList
    rw [identity, List.map_id] at letters
    exact letters.symm
  have joined := @List.intercalate_splitOn _ text.toList _ _ '/'
  rw [parts, List.intercalate_cons_cons] at joined
  rw [← joined, List.append_assoc]
  cases rest with
  | nil => rfl
  | cons part rest =>
    rw [List.map_cons, List.intercalate_cons_cons]
    rfl

/-- A path derived from a digest is not below the directory of the records. -/
theorem expectedStoragePath_outside (kind : AssetKind) {sha256 : String}
    (digest : Files.isHexDigest sha256 = true) :
    ¬journalDirectory <+: pathOf (expectedStoragePath kind sha256) := by
  intro below
  have dot := dot_of_journalDirectory_prefix below
  unfold Files.isHexDigest at digest
  obtain ⟨length, letters⟩ := (Bool.and_eq_true _ _).mp digest
  have size : sha256.toList.length = 64 := of_decide_eq_true length
  cases whole : sha256.toList with
  | nil =>
    rw [whole] at size
    cases size
  | cons first rest =>
    rw [whole] at letters
    have hex := of_decide_eq_true (List.all_eq_true.mp letters first List.mem_cons_self)
    cases kind with
    | sourceDocument =>
      have seventh : (expectedStoragePath .sourceDocument sha256).toList[7]? = some first := by
        have shard : (toString (String.ofList (sha256.toList.take 2))).toList =
            first :: rest.take 1 := by
          rw [whole]
          exact String.toList_ofList
        unfold expectedStoragePath
        simp only [String.toList_append, shard]
        rfl
      rw [seventh] at dot
      obtain rfl := Option.some.inj dot
      revert hex
      decide
    | profilePhoto =>
      have seventh : (expectedStoragePath .profilePhoto sha256).toList[7]? = some 'p' := by
        unfold expectedStoragePath
        simp only [String.toList_append]
        rfl
      rw [seventh] at dot
      exact absurd dot (by decide)
    | campaignDocument =>
      have seventh : (expectedStoragePath .campaignDocument sha256).toList[7]? = some 'c' := by
        unfold expectedStoragePath
        simp only [String.toList_append]
        rfl
      rw [seventh] at dot
      exact absurd dot (by decide)

/-! ### What the reconciliation may change -/

/-- A path has a committed row. -/
def HasRow (rows : List AssetRow) (storagePath : String) : Prop :=
  committedMetadata rows storagePath ≠ []

section

variable {Bytes : Type} [JsonBytes Bytes] (maxUploadFileSize : Nat)

/-- A record of the directory that loads. -/
def Recorded (files : Files Bytes) (journal : AssetPublicationJournal) : Prop :=
  ∃ name, loadJournal maxUploadFileSize files name = .ok journal

/-- What publishers do that have committed: they remove their own records. -/
structure ClearsCommitted (before after : Disk Bytes (List AssetRow)) : Prop where
  tables : after.tables = before.tables
  names : ∀ path, after.files.find path = before.files.find path ∨
    (after.files.find path = none ∧ ∃ name journal, path = journalDirectory ++ [name] ∧
      loadJournal maxUploadFileSize before.files name = .ok journal ∧
      HasRow before.tables journal.storagePath)

/-- What the reconciliation may remove: a record that loads, and the verified file of a record
whose path has no committed row. -/
inductive Clearable (start : Disk Bytes (List AssetRow)) : Path → Prop
  | record {name : String} {journal : AssetPublicationJournal}
      (loaded : loadJournal maxUploadFileSize start.files name = .ok journal) :
      Clearable start (journalDirectory ++ [name])
  | file {journal : AssetPublicationJournal}
      (recorded : Recorded maxUploadFileSize start.files journal)
      (uncommitted : ¬HasRow start.tables journal.storagePath) {data : Bytes}
      (verified : start.files.readVerified (pathOf journal.storagePath) journal.sha256
        journal.byteSize maxUploadFileSize = .ok data) :
      Clearable start (pathOf journal.storagePath)

/-- Nothing but what the reconciliation may remove is gone. -/
structure Progress (start now : Disk Bytes (List AssetRow)) : Prop where
  tables : now.tables = start.tables
  names : ∀ path, now.files.find path = start.files.find path ∨
    (now.files.find path = none ∧ Clearable maxUploadFileSize start path)

variable {maxUploadFileSize} {start before after now : Disk Bytes (List AssetRow)}

theorem ClearsCommitted.refl : ClearsCommitted maxUploadFileSize start start where
  tables := rfl
  names _ := .inl rfl

theorem ClearsCommitted.progress (untouched : ClearsCommitted maxUploadFileSize start now) :
    Progress maxUploadFileSize start now where
  tables := untouched.tables
  names path := by
    rcases untouched.names path with same | ⟨gone, name, journal, rfl, loaded, -⟩
    · exact .inl same
    · exact .inr ⟨gone, .record loaded⟩

variable {path : Path}

/-- What may be removed has one name. -/
theorem Clearable.links (clearable : Clearable maxUploadFileSize start path)
    {inode : Nat} {bytes : Bytes} (found : start.files.find path = some (.file inode bytes)) :
    start.files.links inode = 1 := by
  cases clearable with
  | record loaded =>
    obtain ⟨⟨number, data, here, single⟩, -⟩ := loadJournal_ok loaded
    rw [found] at here
    obtain ⟨rfl, -⟩ := Entry.file.inj (Option.some.inj here)
    exact single
  | file recorded uncommitted verified =>
    obtain ⟨-, number, here, single, -⟩ := Files.readVerified_ok_iff.mp verified
    rw [found] at here
    obtain ⟨rfl, -⟩ := Entry.file.inj (Option.some.inj here)
    exact single

theorem Progress.shrinks (progress : Progress maxUploadFileSize start now) :
    Files.Shrinks start.files now.files := by
  intro path
  rcases progress.names path with same | ⟨gone, clearable⟩
  · exact .inl same
  · exact .inr ⟨gone, fun _ _ found => clearable.links found⟩

variable {journal : AssetPublicationJournal}

/-- A record that still loads is one of the start. -/
theorem Progress.loaded (progress : Progress maxUploadFileSize start now) {name : String}
    (loaded : loadJournal maxUploadFileSize now.files name = .ok journal) :
    loadJournal maxUploadFileSize start.files name = .ok journal := by
  obtain ⟨⟨inode, data, found, -⟩, -⟩ := loadJournal_ok loaded
  rw [← loadJournal_of_shrinks progress.shrinks found, loaded]

theorem Progress.stable (progress : Progress maxUploadFileSize start before)
    (cleared : ClearsCommitted maxUploadFileSize before after) :
    Progress maxUploadFileSize start after where
  tables := cleared.tables.trans progress.tables
  names path := by
    rcases cleared.names path with same | ⟨gone, name, journal, rfl, loaded, -⟩
    · rw [same]
      exact progress.names path
    · exact .inr ⟨gone, .record (progress.loaded loaded)⟩

theorem ClearsCommitted.trans (untouched : ClearsCommitted maxUploadFileSize start before)
    (cleared : ClearsCommitted maxUploadFileSize before after) :
    ClearsCommitted maxUploadFileSize start after where
  tables := cleared.tables.trans untouched.tables
  names path := by
    rcases cleared.names path with same | ⟨gone, name, journal, rfl, loaded, row⟩
    · rw [same]
      exact untouched.names path
    · rw [untouched.tables] at row
      exact .inr ⟨gone, name, journal, rfl, untouched.progress.loaded loaded, row⟩

/-- A path with a committed row is never removed. -/
theorem not_clearable_of_row (row : AssetRow) (committed : row ∈ start.tables) :
    ¬Clearable maxUploadFileSize start (pathOf row.storagePath) := by
  intro clearable
  generalize same : pathOf row.storagePath = path at clearable
  cases clearable with
  | record loaded => exact row.outside ⟨_, same.symm⟩
  | @file journal recorded uncommitted data verified =>
    have path := pathOf_injective same
    refine uncommitted fun none => ?_
    have member : (row.sha256, row.byteSize) ∈
        committedMetadata start.tables journal.storagePath :=
      List.mem_map_of_mem (List.mem_filter.mpr ⟨committed, decide_eq_true path⟩)
    rw [none] at member
    cases member

theorem Progress.row (progress : Progress maxUploadFileSize start now) (row : AssetRow)
    (committed : row ∈ start.tables) :
    now.files.find (pathOf row.storagePath) = start.files.find (pathOf row.storagePath) := by
  rcases progress.names (pathOf row.storagePath) with same | ⟨-, clearable⟩
  · exact same
  · exact absurd clearable (not_clearable_of_row row committed)

/-! ### Loading the records -/

/-- The directory of the records holds nothing but records that load. -/
def WellFormed (maxUploadFileSize : Nat) (start : Disk Bytes (List AssetRow)) : Prop :=
  start.files.find journalDirectory = none ∧
    ∀ name ∈ start.files.namesIn journalDirectory,
      ∃ journal, loadJournal maxUploadFileSize start.files name = .ok journal

/-- There are no more records than the listing allows. -/
def FewRecords (start : Disk Bytes (List AssetRow)) : Prop :=
  (start.files.namesIn journalDirectory).length ≤ 10000

theorem scanNames_ok_iff (count : Nat) (names : List String) :
    scanNames count names = .ok () ↔
      (names ≠ [] → count + names.length ≤ 10000) ∧ ∀ name ∈ names, nameSuffix name = ".json" := by
  induction names generalizing count with
  | nil => exact ⟨fun _ => ⟨fun empty => absurd rfl empty, nofun⟩, fun _ => rfl⟩
  | cons name names inductionHypothesis =>
    rw [List.forall_mem_cons]
    unfold scanNames
    split
    · rename_i many
      refine ⟨nofun, fun accepted => ?_⟩
      have bounded := accepted.1 (List.cons_ne_nil _ _)
      rw [List.length_cons] at bounded
      omega
    · rename_i few
      split
      · rename_i other
        exact ⟨nofun, fun accepted => absurd accepted.2.1 other⟩
      · rename_i suffix
        rw [inductionHypothesis, List.length_cons]
        constructor
        · rintro ⟨bounded, later⟩
          refine ⟨fun _ => ?_, not_not.mp suffix, later⟩
          cases names with
          | nil => rw [List.length_nil]; omega
          | cons second names =>
            have := bounded (List.cons_ne_nil _ _)
            omega
        · rintro ⟨bounded, -, later⟩
          refine ⟨fun _ => ?_, later⟩
          have := bounded (List.cons_ne_nil _ _)
          omega

/-- A record of the start is still there, or its publisher has committed and removed it. -/
def KeptRecord (maxUploadFileSize : Nat) (start now : Disk Bytes (List AssetRow)) (name : String)
    (still : Prop) : Prop :=
  still ∨ (now.files.find (journalDirectory ++ [name]) = none ∧
    ∃ journal, loadJournal maxUploadFileSize start.files name = .ok journal ∧
      HasRow start.tables journal.storagePath)

theorem ClearsCommitted.record (untouched : ClearsCommitted maxUploadFileSize start now)
    (name : String) :
    KeptRecord maxUploadFileSize start now name (now.files.find (journalDirectory ++ [name]) =
      start.files.find (journalDirectory ++ [name])) := by
  rcases untouched.names (journalDirectory ++ [name]) with
    same | ⟨gone, other, journal, path, loaded, row⟩
  · exact .inl same
  · obtain ⟨-, named⟩ := List.append_inj' path rfl
    obtain ⟨rfl, -⟩ := List.cons.inj named
    exact .inr ⟨gone, journal, loaded, row⟩

theorem KeptRecord.stable {name : String} {still : Prop}
    (kept : KeptRecord maxUploadFileSize start before name still)
    (cleared : ClearsCommitted maxUploadFileSize before after) :
    KeptRecord maxUploadFileSize start after name still := by
  rcases kept with holds | ⟨gone, journal, loaded, row⟩
  · exact .inl holds
  · refine .inr ⟨?_, journal, loaded, row⟩
    rcases cleared.names (journalDirectory ++ [name]) with same | ⟨none, -⟩
    · rw [same, gone]
    · exact none

/-- Others remove the records of their committed publications; the system may refuse a step. -/
def recoverySetting (maxUploadFileSize : Nat) (mayRefuse : Prop) :
    Program.Setting (Disk Bytes (List AssetRow)) where
  relies := ClearsCommitted maxUploadFileSize
  mayRefuse := mayRefuse

theorem namesIn_subset (untouched : ClearsCommitted maxUploadFileSize start now) :
    now.files.namesIn journalDirectory ⊆ start.files.namesIn journalDirectory := by
  intro name member
  obtain ⟨entry, found⟩ := (Files.mem_namesIn_iff _ _ _).mp member
  refine (Files.mem_namesIn_iff _ _ _).mpr ⟨entry, ?_⟩
  rcases untouched.record name with same | ⟨gone, -⟩
  · rw [← same, found]
  · rw [gone] at found
    cases found

/-- The names that are read: records of the start; one that is missing among them was removed by
its publisher. -/
def Listed (maxUploadFileSize : Nat) (start now : Disk Bytes (List AssetRow))
    (names : List String) : Prop :=
  start.files.find journalDirectory = none ∧
    (∀ name ∈ names, name ∈ start.files.namesIn journalDirectory) ∧
    ∀ name ∈ start.files.namesIn journalDirectory,
      KeptRecord maxUploadFileSize start now name (name ∈ names)

theorem find_journalDirectory (untouched : ClearsCommitted maxUploadFileSize start now) :
    now.files.find journalDirectory = start.files.find journalDirectory := by
  rcases untouched.names journalDirectory with same | ⟨-, name, -, path, -⟩
  · exact same
  · have length := congrArg List.length path
    rw [List.length_append, List.length_singleton] at length
    omega

theorem journalNames_ok (untouched : ClearsCommitted maxUploadFileSize start now)
    {names : List String} (listed : journalNames now.files = .ok names) :
    Listed maxUploadFileSize start now names := by
  unfold journalNames at listed
  rw [find_journalDirectory untouched] at listed
  split at listed
  · cases listed
  · rename_i plain
    obtain ⟨_, -, listed⟩ := bind_ok_iff.mp listed
    obtain rfl := pure_ok_iff.mp listed
    have sorted : ∀ name, name ∈ (now.files.namesIn journalDirectory).mergeSort (· ≤ ·) ↔
        name ∈ now.files.namesIn journalDirectory :=
      fun name => (List.mergeSort_perm _ _).mem_iff
    refine ⟨plain, fun name member => namesIn_subset untouched ((sorted name).mp member),
      fun name member => ?_⟩
    obtain ⟨entry, found⟩ := (Files.mem_namesIn_iff _ _ _).mp member
    rcases untouched.record name with same | gone
    · refine .inl ((sorted name).mpr ((Files.mem_namesIn_iff _ _ _).mpr ⟨entry, ?_⟩))
      rw [same, found]
    · exact .inr gone

variable {failure : FileFailure}

/-- The listing fails only when the directory is not well formed or holds too many records. -/
theorem journalNames_error (untouched : ClearsCommitted maxUploadFileSize start now)
    (failed : journalNames now.files = .error failure) :
    ¬(WellFormed maxUploadFileSize start ∧ FewRecords start) := by
  rintro ⟨⟨plain, each⟩, few⟩
  have subset := namesIn_subset untouched
  have scanned : scanNames 0 (now.files.namesIn journalDirectory) = .ok () := by
    rw [scanNames_ok_iff]
    constructor
    · intro _
      have shorter := (List.subperm_of_subset (Files.nodup_namesIn now.files journalDirectory) subset).length_le
      unfold FewRecords at few
      omega
    · intro name member
      obtain ⟨journal, loaded⟩ := each name (subset member)
      exact nameSuffix_of_validated (loadJournal_ok loaded).2
  unfold journalNames at failed
  rw [find_journalDirectory untouched, plain] at failed
  dsimp only at failed
  rw [scanned] at failed
  cases failed

/-- What loading the records gives: every record of the start, less those that their publishers
have removed. -/
def LoadedRecords (maxUploadFileSize : Nat) (start now : Disk Bytes (List AssetRow))
    (journals : List AssetPublicationJournal) : Prop :=
  WellFormed maxUploadFileSize start ∧
    (∀ journal ∈ journals, Recorded maxUploadFileSize start.files journal) ∧
    ∀ name journal, loadJournal maxUploadFileSize start.files name = .ok journal →
      KeptRecord maxUploadFileSize start now name (journal ∈ journals)

variable {journals : List AssetPublicationJournal}

theorem LoadedRecords.stable (loaded : LoadedRecords maxUploadFileSize start before journals)
    (cleared : ClearsCommitted maxUploadFileSize before after) :
    LoadedRecords maxUploadFileSize start after journals :=
  ⟨loaded.1, loaded.2.1, fun name journal held => (loaded.2.2 name journal held).stable cleared⟩

open Program in
/-- Loading touches nothing; it fails only when the directory is not well formed, holds too many
records, or a step is refused. -/
theorem meets_allAssetPublicationJournals (mayRefuse : Prop) :
    Meets (recoverySetting maxUploadFileSize mayRefuse)
      (ClearsCommitted maxUploadFileSize start)
      (allAssetPublicationJournals maxUploadFileSize)
      (ClearsCommitted maxUploadFileSize start)
      (fun journals now => ClearsCommitted maxUploadFileSize start now ∧
        LoadedRecords maxUploadFileSize start now journals)
      (fun _ now => ClearsCommitted maxUploadFileSize start now ∧
        (mayRefuse ∨ ¬(WellFormed maxUploadFileSize start ∧ FewRecords start))) := by
  refine meets_andThen (fun names now => ClearsCommitted maxUploadFileSize start now ∧
    Listed maxUploadFileSize start now names) ?_ fun names => ?_
  · refine Disk.meets_look (fun _ _ untouched cleared => untouched.trans cleared)
      (fun _ untouched => untouched) (fun may _ untouched => ⟨untouched, .inl may⟩) ?_ ?_
    · exact fun _ _ untouched listed => ⟨untouched, journalNames_ok untouched listed⟩
    · exact fun _ _ untouched failed => ⟨untouched, .inr (journalNames_error untouched failed)⟩
  · -- After some names: what was loaded is recorded, and each name was loaded or is gone.
    refine meets_andThen (fun loaded now => ClearsCommitted maxUploadFileSize start now ∧
      Listed maxUploadFileSize start now names ∧
      (∀ journal, some journal ∈ loaded → Recorded maxUploadFileSize start.files journal) ∧
      ∀ name ∈ names, ∃ journal, loadJournal maxUploadFileSize start.files name = .ok journal ∧
        KeptRecord maxUploadFileSize start now name (some journal ∈ loaded)) ?_ fun loaded => ?_
    · refine (meets_collect (fun front loaded now =>
        ClearsCommitted maxUploadFileSize start now ∧ Listed maxUploadFileSize start now names ∧
        (∀ journal, some journal ∈ loaded → Recorded maxUploadFileSize start.files journal) ∧
        ∀ name ∈ front, ∃ journal, loadJournal maxUploadFileSize start.files name = .ok journal ∧
          KeptRecord maxUploadFileSize start now name (some journal ∈ loaded)) ?_).mono
        (fun _ required => ⟨required.1, required.2, nofun, nofun⟩) (fun _ stopped => stopped)
        (fun _ _ holds => holds) (fun _ _ failed => failed)
      intro front loaded name inside
      refine Disk.meets_look ?_ (fun _ required => required.1)
        (fun may _ required => ⟨required.1, .inl may⟩) ?_ ?_
      · rintro before after ⟨untouched, listed, recorded, each⟩ cleared
        refine ⟨untouched.trans cleared, ⟨listed.1, listed.2.1, fun other member =>
          (listed.2.2 other member).stable cleared⟩, recorded, fun other member => ?_⟩
        obtain ⟨journal, held, kept⟩ := each other member
        exact ⟨journal, held, kept.stable cleared⟩
      · rintro now value ⟨untouched, listed, recorded, each⟩ given
        have among : name ∈ names := inside.subset (List.mem_append_right _ List.mem_cons_self)
        obtain ⟨entry, found⟩ := (Files.mem_namesIn_iff _ _ _).mp (listed.2.1 name among)
        have here : ∃ journal, loadJournal maxUploadFileSize start.files name = .ok journal ∧
            KeptRecord maxUploadFileSize start now name (value = some journal) := by
          rcases untouched.record name with same | ⟨gone, journal, held, row⟩
          · have present := same.trans found
            rw [loadJournal_of_shrinks untouched.progress.shrinks present] at given
            split at given
            · rename_i journal held
              exact ⟨journal, held, .inl (Except.ok.inj given).symm⟩
            · rename_i absent
              exact absurd absent (loadJournal_ne_fileNotFound found)
            · cases given
          · exact ⟨journal, held, .inr ⟨gone, journal, held, row⟩⟩
        obtain ⟨journal, held, kept⟩ := here
        refine ⟨untouched, listed, ?_, ?_⟩
        · intro other member
          rcases List.mem_append.mp member with old | new
          · exact recorded other old
          · have last := List.mem_singleton.mp new
            rcases kept with same | ⟨gone, -⟩
            · rw [same] at last
              obtain rfl := Option.some.inj last
              exact ⟨name, held⟩
            · rw [loadJournal_of_none gone] at given
              obtain rfl := Except.ok.inj given
              cases last
        · intro other member
          rcases List.mem_append.mp member with old | new
          · obtain ⟨earlier, first, kept⟩ := each other old
            exact ⟨earlier, first, kept.imp_left fun member => List.mem_append_left _ member⟩
          · obtain rfl := List.mem_singleton.mp new
            exact ⟨journal, held, kept.imp_left fun same => by
              rw [same]
              exact List.mem_append_right _ List.mem_cons_self⟩
      · rintro now failure ⟨untouched, listed, -, -⟩ failed
        refine ⟨untouched, .inr fun accepted => ?_⟩
        have among : name ∈ names := inside.subset (List.mem_append_right _ List.mem_cons_self)
        obtain ⟨journal, held⟩ := accepted.1.2 name (listed.2.1 name among)
        rcases untouched.record name with same | ⟨gone, -⟩
        · obtain ⟨entry, found⟩ := (Files.mem_namesIn_iff _ _ _).mp (listed.2.1 name among)
          rw [loadJournal_of_shrinks untouched.progress.shrinks (same.trans found), held] at failed
          cases failed
        · rw [loadJournal_of_none gone] at failed
          cases failed
    · refine meets_done ?_
      rintro now ⟨untouched, listed, recorded, each⟩
      refine ⟨untouched, ⟨listed.1, fun name member => ?_⟩, fun journal member => ?_,
        fun name journal held => ?_⟩
      · rcases listed.2.2 name member with among | ⟨-, journal, held, -⟩
        · obtain ⟨journal, held, -⟩ := each name among
          exact ⟨journal, held⟩
        · exact ⟨journal, held⟩
      · obtain ⟨value, inside, same⟩ := List.mem_filterMap.mp member
        exact recorded journal (by rw [← show value = some journal from same]; exact inside)
      · obtain ⟨⟨inode, data, found, -⟩, -⟩ := loadJournal_ok held
        have member := (Files.mem_namesIn_iff start.files journalDirectory name).mpr ⟨_, found⟩
        rcases listed.2.2 name member with among | gone
        · obtain ⟨other, first, kept⟩ := each name among
          rw [held] at first
          obtain rfl := Except.ok.inj first
          exact kept.imp_left fun inside => List.mem_filterMap.mpr ⟨_, inside, rfl⟩
        · exact .inr gone

/-! ### Checking the claims -/

/-- The records of the directory. -/
def records (maxUploadFileSize : Nat) (files : Files Bytes) : List AssetPublicationJournal :=
  (files.namesIn journalDirectory).filterMap fun name =>
    (loadJournal maxUploadFileSize files name).toOption

/-- The bytes of the claimed paths together. -/
def recoveryBytes (maxUploadFileSize : Nat) (files : Files Bytes) : Nat :=
  (((records maxUploadFileSize files).map fun journal =>
    (journal.storagePath, journal.byteSize)).dedup.map Prod.snd).sum

/-- The records of one path say the same. -/
def ClaimsAgree (maxUploadFileSize : Nat) (start : Disk Bytes (List AssetRow)) : Prop :=
  ∀ first second, Recorded maxUploadFileSize start.files first →
    Recorded maxUploadFileSize start.files second → first.storagePath = second.storagePath →
    first.sha256 = second.sha256 ∧ first.byteSize = second.byteSize

/-- The committed rows of a claimed path say what the claim says, and its file is the claimed one;
when it is missing no row names it. -/
def ClaimVerified (maxUploadFileSize : Nat) (start : Disk Bytes (List AssetRow))
    (storagePath sha256 : String) (byteSize : Nat) : Prop :=
  (∀ metadata ∈ committedMetadata start.tables storagePath, metadata = (sha256, byteSize)) ∧
    ((start.files.find (pathOf storagePath) = none ∧ ¬HasRow start.tables storagePath) ∨
      ∃ data, start.files.readVerified (pathOf storagePath) sha256 byteSize maxUploadFileSize =
        .ok data)

/-- What recovery asks of the records, the rows and the files: the records are well formed, few,
small and in agreement, and every claimed path is verified. -/
structure Recoverable (maxUploadFileSize : Nat) (start : Disk Bytes (List AssetRow)) : Prop where
  wellFormed : WellFormed maxUploadFileSize start
  few : FewRecords start
  agree : ClaimsAgree maxUploadFileSize start
  small : recoveryBytes maxUploadFileSize start.files ≤ 512 * 1024 * 1024
  verified : ∀ journal, Recorded maxUploadFileSize start.files journal →
    ClaimVerified maxUploadFileSize start journal.storagePath journal.sha256 journal.byteSize

variable {files : Files Bytes}

theorem mem_records_iff :
    journal ∈ records maxUploadFileSize files ↔ Recorded maxUploadFileSize files journal := by
  unfold records Recorded
  rw [List.mem_filterMap]
  constructor
  · rintro ⟨name, -, loaded⟩
    refine ⟨name, ?_⟩
    cases outcome : loadJournal maxUploadFileSize files name with
    | error failure =>
      rw [outcome] at loaded
      cases loaded
    | ok other =>
      rw [outcome] at loaded
      rw [show other = journal from Option.some.inj loaded]
  · rintro ⟨name, loaded⟩
    obtain ⟨⟨inode, data, found, -⟩, -⟩ := loadJournal_ok loaded
    exact ⟨name, (Files.mem_namesIn_iff _ _ _).mpr ⟨_, found⟩, by rw [loaded]; rfl⟩

theorem mem_groupClaims_iff {storagePath : String} {claims : List AssetPublicationJournal} :
    (storagePath, claims) ∈ groupClaims journals ↔
      claims = journals.filter (fun journal => journal.storagePath = storagePath) ∧
        claims ≠ [] := by
  unfold groupClaims
  rw [Dict.mem_groupFrom_nil]
  unfold Dict.having
  simp only [Option.some.injEq]

variable {item : String × List AssetPublicationJournal}

/-- What a claimed path is expected to hold is what one of its records says. -/
theorem expectedMetadata_ok
    {expected : String × String × Nat} (agreed : expectedMetadata item = .ok expected) :
    expected.1 = item.1 ∧ (∃ claim ∈ item.2, (claim.sha256, claim.byteSize) = expected.2) ∧
      ∀ claim ∈ item.2, (claim.sha256, claim.byteSize) = expected.2 := by
  unfold expectedMetadata at agreed
  split at agreed
  · rename_i sha256 byteSize single
    obtain rfl := Except.ok.inj agreed
    have each : ∀ metadata, metadata ∈ item.2.map (fun claim => (claim.sha256, claim.byteSize)) ↔
        metadata = (sha256, byteSize) := by
      intro metadata
      rw [← List.mem_dedup, single, List.mem_singleton]
    refine ⟨rfl, List.mem_map.mp ((each _).mpr rfl), fun claim member => ?_⟩
    exact (each _).mp (List.mem_map_of_mem member)
  · cases agreed

theorem expectedMetadata_error (some : item.2 ≠ [])
    (failed : expectedMetadata item = .error failure) :
    ∃ first ∈ item.2, ∃ second ∈ item.2,
      (first.sha256, first.byteSize) ≠ (second.sha256, second.byteSize) := by
  by_contra agree
  push Not at agree
  obtain ⟨claim, rest, claims⟩ := List.exists_cons_of_ne_nil some
  have among : claim ∈ item.2 := by
    rw [claims]
    exact List.mem_cons_self
  have same : item.2.map (fun claim => (claim.sha256, claim.byteSize)) =
      List.replicate item.2.length (claim.sha256, claim.byteSize) := by
    refine List.eq_replicate_iff.mpr ⟨List.length_map _, fun metadata member => ?_⟩
    obtain ⟨other, inside, rfl⟩ := List.mem_map.mp member
    exact agree other inside claim among
  have single : (item.2.map fun claim => (claim.sha256, claim.byteSize)).dedup =
      [(claim.sha256, claim.byteSize)] := by
    rw [same]
    exact List.replicate_dedup (by rw [claims]; exact Nat.succ_ne_zero _)
  unfold expectedMetadata at failed
  rw [single] at failed
  cases failed

/-- The claimed paths of the records that were loaded: each once, as its records say. -/
def ExpectedClaims (journals : List AssetPublicationJournal)
    (expected : List (String × String × Nat)) : Prop :=
  (expected.map Prod.fst).Nodup ∧
    (∀ item ∈ expected, ∃ journal ∈ journals, journal.storagePath = item.1 ∧
      (journal.sha256, journal.byteSize) = item.2) ∧
    ∀ journal ∈ journals, (journal.storagePath, journal.sha256, journal.byteSize) ∈ expected

variable {expected : List (String × String × Nat)}

theorem keys_mapM_expectedMetadata {groups : Dict String (List AssetPublicationJournal)}
    (agreed : groups.mapM expectedMetadata = .ok expected) :
    expected.map Prod.fst = Dict.keys groups := by
  induction groups generalizing expected with
  | nil =>
    obtain rfl := pure_ok_iff.mp agreed
    rfl
  | cons group groups inductionHypothesis =>
    rw [List.mapM_cons] at agreed
    obtain ⟨item, here, agreed⟩ := bind_ok_iff.mp agreed
    obtain ⟨items, there, agreed⟩ := bind_ok_iff.mp agreed
    obtain rfl := pure_ok_iff.mp agreed
    rw [List.map_cons, inductionHypothesis there, (expectedMetadata_ok here).1]
    rfl

theorem expectedClaims_of_ok
    (agreed : (groupClaims journals).mapM expectedMetadata = .ok expected) :
    ExpectedClaims journals expected := by
  refine ⟨?_, ?_, ?_⟩
  · rw [keys_mapM_expectedMetadata agreed]
    exact Dict.nodup_keys_groupFrom _ _ _ List.nodup_nil
  · intro item member
    obtain ⟨⟨storagePath, claims⟩, inside, same⟩ := (mem_of_mapM_ok agreed).mp member
    obtain ⟨path, ⟨claim, among, metadata⟩, -⟩ := expectedMetadata_ok same
    obtain ⟨rfl, -⟩ := mem_groupClaims_iff.mp inside
    obtain ⟨journal, named⟩ := List.mem_filter.mp among
    exact ⟨claim, journal, (of_decide_eq_true named).trans path.symm, metadata⟩
  · intro journal member
    have among : journal ∈ journals.filter fun other => other.storagePath = journal.storagePath :=
      List.mem_filter.mpr ⟨member, decide_eq_true rfl⟩
    have group := mem_groupClaims_iff.mpr ⟨rfl, List.ne_nil_of_mem among⟩
    obtain ⟨item, same⟩ := (mapM_ok_iff _).mp ⟨expected, agreed⟩ _ group
    have inside := (mem_of_mapM_ok agreed).mpr ⟨_, group, same⟩
    obtain ⟨path, -, each⟩ := expectedMetadata_ok same
    have whole : item = (journal.storagePath, journal.sha256, journal.byteSize) :=
      Prod.ext path (each journal among).symm
    rw [← whole]
    exact inside

/-- Grouping fails only when two records of a path differ. -/
theorem mapM_expectedMetadata_error
    (failed : (groupClaims journals).mapM expectedMetadata = .error failure) :
    ∃ first ∈ journals, ∃ second ∈ journals, first.storagePath = second.storagePath ∧
      (first.sha256, first.byteSize) ≠ (second.sha256, second.byteSize) := by
  by_contra agree
  push Not at agree
  have each : ∀ group ∈ groupClaims journals, ∃ item, expectedMetadata group = .ok item := by
    rintro ⟨storagePath, claims⟩ member
    obtain ⟨rfl, some⟩ := mem_groupClaims_iff.mp member
    cases outcome : expectedMetadata (storagePath, _) with
    | ok item => exact ⟨item, rfl⟩
    | error other =>
      obtain ⟨first, one, second, two, differ⟩ := expectedMetadata_error some outcome
      obtain ⟨one, onePath⟩ := List.mem_filter.mp one
      obtain ⟨two, twoPath⟩ := List.mem_filter.mp two
      exact absurd (agree first one second two
        ((of_decide_eq_true onePath).trans (of_decide_eq_true twoPath).symm)) differ
  obtain ⟨expected, agreed⟩ := (mapM_ok_iff _).mpr each
  rw [agreed] at failed
  cases failed

/-- The claimed paths together are no larger than all records claim. -/
theorem sum_expected_le (recorded : ∀ journal ∈ journals, Recorded maxUploadFileSize files journal)
    (claims : ExpectedClaims journals expected) :
    (expected.map fun item => item.2.2).sum ≤ recoveryBytes maxUploadFileSize files := by
  have distinct : (expected.map fun item => (item.1, item.2.2)).Nodup := by
    refine List.Nodup.of_map Prod.fst ?_
    rw [List.map_map]
    exact claims.1
  have subset : (expected.map fun item => (item.1, item.2.2)) ⊆
      ((records maxUploadFileSize files).map fun journal =>
        (journal.storagePath, journal.byteSize)).dedup := by
    intro pair member
    obtain ⟨item, inside, rfl⟩ := List.mem_map.mp member
    obtain ⟨journal, among, path, metadata⟩ := claims.2.1 item inside
    rw [List.mem_dedup]
    refine List.mem_map.mpr ⟨journal, mem_records_iff.mpr (recorded journal among), ?_⟩
    rw [path, ← metadata]
  obtain ⟨sorted, same, inside⟩ := List.subperm_of_subset distinct subset
  have total : (expected.map fun item => item.2.2) =
      (expected.map fun item => (item.1, item.2.2)).map Prod.snd := by
    rw [List.map_map]
    rfl
  unfold recoveryBytes
  rw [total, ← (same.map Prod.snd).sum_eq]
  exact (inside.map Prod.snd).sum_le_sum fun _ _ => Nat.zero_le _

theorem Recorded.outside (recorded : Recorded maxUploadFileSize files journal) :
    ¬journalDirectory <+: pathOf journal.storagePath := by
  obtain ⟨name, loaded⟩ := recorded
  have validated := (loadJournal_ok loaded).2
  rw [validated.storagePath]
  exact expectedStoragePath_outside journal.kind validated.digest

theorem ClearsCommitted.find (untouched : ClearsCommitted maxUploadFileSize start now)
    (outside : ¬journalDirectory <+: path) :
    now.files.find path = start.files.find path := by
  rcases untouched.names path with same | ⟨-, name, -, rfl, -⟩
  · exact same
  · exact absurd (List.prefix_append _ _) outside

/-- What the check of a claimed path establishes. -/
def CheckedPath (maxUploadFileSize : Nat) (start : Disk Bytes (List AssetRow))
    (item : String × String × Nat) (found : Option String) : Prop :=
  (found = none ∧ start.files.find (pathOf item.1) = none ∧ ¬HasRow start.tables item.1) ∨
    (found = some item.1 ∧ ∃ data, start.files.readVerified (pathOf item.1) item.2.1 item.2.2
      maxUploadFileSize = .ok data)

open Program in
/-- The check of a path touches nothing; it fails only when the claim is not verified, or a step is
refused. -/
theorem meets_checkClaimedPath (mayRefuse : Prop) {item : String × String × Nat}
    (outside : ¬journalDirectory <+: pathOf item.1) {kept : Disk Bytes (List AssetRow) → Prop}
    (stable : ∀ before after, kept before → ClearsCommitted maxUploadFileSize before after →
      kept after) :
    Meets (recoverySetting maxUploadFileSize mayRefuse)
      (fun now => ClearsCommitted maxUploadFileSize start now ∧ kept now)
      (checkClaimedPath maxUploadFileSize start.tables item)
      (ClearsCommitted maxUploadFileSize start)
      (fun found now => (ClearsCommitted maxUploadFileSize start now ∧ kept now) ∧
        CheckedPath maxUploadFileSize start item found)
      (fun _ now => ClearsCommitted maxUploadFileSize start now ∧
        (mayRefuse ∨ ¬ClaimVerified maxUploadFileSize start item.1 item.2.1 item.2.2)) := by
  have steady : Disk.Stable (recoverySetting maxUploadFileSize mayRefuse)
      (fun now => ClearsCommitted maxUploadFileSize start now ∧ kept now) :=
    fun _ _ holds cleared => ⟨holds.1.trans cleared, stable _ _ holds.2 cleared⟩
  refine meets_andThen _ (meets_refuseWhen fun now holds differs => ?_) fun _ => ?_
  · obtain ⟨metadata, member, other⟩ := differs
    exact ⟨holds.1, .inr fun verified => other (verified.1 metadata member)⟩
  · refine meets_andThen (fun present now =>
      (ClearsCommitted maxUploadFileSize start now ∧ kept now) ∧
        present = (start.files.find (pathOf item.1)).isSome) ?_ fun present => ?_
    · refine Disk.meets_look (fun _ _ holds cleared => ⟨steady _ _ holds.1 cleared, holds.2⟩)
        (fun _ holds => holds.1.1) (fun may _ holds => ⟨holds.1.1, .inl may⟩) ?_ nofun
      intro now present holds given
      obtain rfl := Except.ok.inj given
      exact ⟨holds.1, by rw [holds.1.1.find outside]⟩
    · cases present with
      | true =>
        refine Disk.meets_look (fun _ _ holds cleared => ⟨steady _ _ holds.1 cleared, holds.2⟩)
          (fun _ holds => holds.1.1) (fun may _ holds => ⟨holds.1.1, .inl may⟩) ?_ ?_
        · rintro now found ⟨holds, present⟩ given
          obtain ⟨entry, held⟩ := Option.isSome_iff_exists.mp present.symm
          rw [Files.readVerified_of_shrinks holds.1.progress.shrinks
            ((holds.1.find outside).trans held)] at given
          split at given
          · rename_i data verified
            obtain rfl := Except.ok.inj given
            exact ⟨holds, .inr ⟨rfl, data, verified⟩⟩
          · cases given
        · rintro now failure ⟨holds, present⟩ failed
          refine ⟨holds.1, .inr ?_⟩
          obtain ⟨entry, held⟩ := Option.isSome_iff_exists.mp present.symm
          rw [Files.readVerified_of_shrinks holds.1.progress.shrinks
            ((holds.1.find outside).trans held)] at failed
          rintro ⟨-, ⟨absent, -⟩ | ⟨data, verified⟩⟩
          · rw [absent] at held
            cases held
          · rw [verified] at failed
            cases failed
      | false =>
        refine meets_andThen _ (meets_refuseWhen ?_) fun _ => meets_done ?_
        · rintro now ⟨holds, present⟩ row
          refine ⟨holds.1, .inr ?_⟩
          rintro ⟨-, ⟨-, none⟩ | ⟨data, verified⟩⟩
          · exact none row
          · obtain ⟨-, inode, held, -⟩ := Files.readVerified_ok_iff.mp verified
            rw [held] at present
            cases present
        · rintro now ⟨⟨holds, present⟩, none⟩
          exact ⟨holds, .inl ⟨rfl, Option.isSome_eq_false_iff.mp present.symm |> Option.isNone_iff_eq_none.mp,
            none⟩⟩

/-! ### Clearing -/

theorem Progress.remove (progress : Progress maxUploadFileSize start now)
    (clearable : Clearable maxUploadFileSize start path) :
    Progress maxUploadFileSize start (now.withFiles (now.files.remove path)) where
  tables := progress.tables
  names other := by
    by_cases same : other = path
    · rw [same]
      exact .inr ⟨Files.find_remove_self _ _, clearable⟩
    · show (now.files.remove path).find other = _ ∨ ((now.files.remove path).find other = none ∧ _)
      rw [Files.find_remove_of_ne _ same]
      exact progress.names other

/-- A name that may be removed is a file. -/
theorem Progress.plain (progress : Progress maxUploadFileSize start now)
    (clearable : Clearable maxUploadFileSize start path) :
    now.files.find path ≠ some .other := by
  intro other
  have held : start.files.find path = some .other := by
    rcases progress.names path with same | ⟨gone, -⟩
    · rw [← same, other]
    · rw [gone] at other
      cases other
  cases clearable with
  | record loaded =>
    obtain ⟨⟨inode, data, here, -⟩, -⟩ := loadJournal_ok loaded
    rw [held] at here
    cases here
  | file recorded uncommitted verified =>
    obtain ⟨-, inode, here, -⟩ := Files.readVerified_ok_iff.mp verified
    rw [held] at here
    cases here

/-- Some paths are gone. -/
def Gone (paths : List Path) (now : Disk Bytes (List AssetRow)) : Prop :=
  ∀ path ∈ paths, now.files.find path = none

theorem Gone.stable {paths : List Path} (gone : Gone paths before)
    (cleared : ClearsCommitted maxUploadFileSize before after) : Gone paths after := by
  intro path member
  rcases cleared.names path with same | ⟨none, -⟩
  · rw [same, gone path member]
  · exact none

omit [JsonBytes Bytes] in
theorem Gone.remove {paths : List Path} (gone : Gone paths now) (path : Path) :
    Gone (path :: paths) (now.withFiles (now.files.remove path)) := by
  intro other member
  show (now.files.remove path).find other = none
  by_cases same : other = path
  · rw [same, Files.find_remove_self]
  · rw [Files.find_remove_of_ne _ same]
    exact gone other ((List.mem_cons.mp member).resolve_left same)

open Program in
/-- The removal of a name that may be removed. -/
theorem meets_clear (mayRefuse : Prop)
    (clearable : Clearable maxUploadFileSize start path) (paths : List Path) :
    Meets (recoverySetting maxUploadFileSize mayRefuse)
      (fun now => Progress maxUploadFileSize start now ∧ Gone paths now)
      (Disk.durableUnlink path)
      (Progress maxUploadFileSize start)
      (fun _ now => Progress maxUploadFileSize start now ∧ Gone (path :: paths) now)
      (fun _ now => mayRefuse ∧ Progress maxUploadFileSize start now) := by
  refine Disk.meets_durableUnlink ?_ ?_ ?_ ?_ ?_ ?_ ?_ ?_ ?_
  · exact fun _ _ holds cleared => ⟨holds.1.stable cleared, holds.2.stable cleared⟩
  · exact fun _ _ holds cleared => ⟨holds.1.stable cleared, holds.2.stable cleared⟩
  · exact fun _ holds absent => ⟨holds.1, List.forall_mem_cons.mpr ⟨absent, holds.2⟩⟩
  · exact fun _ _ _ holds _ => ⟨holds.1.remove clearable, holds.2.remove path⟩
  · exact fun _ holds => holds.1.plain clearable
  · exact fun _ holds => holds.1
  · exact fun _ holds => holds.1
  · exact fun may _ holds => ⟨may, holds.1⟩
  · exact fun may _ holds => ⟨may, holds.1⟩


omit [JsonBytes Bytes] in
theorem Gone.subset {paths others : List Path} (gone : Gone paths now) (inside : others ⊆ paths) :
    Gone others now :=
  fun path member => gone path (inside member)

/-- What is gone once the claims of a path are cleared. -/
def clearedPaths (rows : List AssetRow) (item : String × List AssetPublicationJournal) :
    List Path :=
  (if committedMetadata rows item.1 = [] then [pathOf item.1] else []) ++
    item.2.map AssetPublicationJournal.relativePath

/-- What the checks have established of the claims of a path: its records may be removed; without a
committed row its file may be removed too, or is missing. -/
structure MayClear (maxUploadFileSize : Nat) (start : Disk Bytes (List AssetRow))
    (existing : List String) (item : String × List AssetPublicationJournal) : Prop where
  records : ∀ claim ∈ item.2, Clearable maxUploadFileSize start claim.relativePath
  file : committedMetadata start.tables item.1 = [] →
    if item.1 ∈ existing then Clearable maxUploadFileSize start (pathOf item.1)
    else start.files.find (pathOf item.1) = none

/-- What is missing stays so. -/
theorem Progress.missing (progress : Progress maxUploadFileSize start now)
    (absent : start.files.find path = none) : now.files.find path = none := by
  rcases progress.names path with same | ⟨gone, -⟩
  · rw [same, absent]
  · exact gone

open Program in
theorem meets_clearFile (mayRefuse : Prop) {existing : List String}
    (may : MayClear maxUploadFileSize start existing item) (paths : List Path) :
    Meets (recoverySetting maxUploadFileSize mayRefuse)
      (fun now => Progress maxUploadFileSize start now ∧ Gone paths now)
      (clearFile start.tables existing item.1)
      (Progress maxUploadFileSize start)
      (fun _ now => Progress maxUploadFileSize start now ∧
        Gone ((if committedMetadata start.tables item.1 = [] then [pathOf item.1] else []) ++ paths)
          now)
      (fun _ now => mayRefuse ∧ Progress maxUploadFileSize start now) := by
  unfold clearFile
  by_cases uncommitted : committedMetadata start.tables item.1 = []
  · have file := may.file uncommitted
    rw [if_pos uncommitted]
    by_cases exists_ : item.1 ∈ existing
    · rw [if_pos exists_] at file
      rw [if_pos ⟨uncommitted, exists_⟩]
      exact meets_clear mayRefuse file paths
    · rw [if_neg exists_] at file
      rw [if_neg fun both => exists_ both.2]
      exact meets_done fun _ holds =>
        ⟨holds.1, List.forall_mem_cons.mpr ⟨holds.1.missing file, holds.2⟩⟩
  · rw [if_neg fun both => uncommitted both.1, if_neg uncommitted]
    exact meets_done fun _ holds => holds

open Program in
theorem meets_clearClaims (mayRefuse : Prop) {existing : List String}
    (may : MayClear maxUploadFileSize start existing item) (paths : List Path) :
    Meets (recoverySetting maxUploadFileSize mayRefuse)
      (fun now => Progress maxUploadFileSize start now ∧ Gone paths now)
      (clearClaims start.tables existing item)
      (Progress maxUploadFileSize start)
      (fun _ now => Progress maxUploadFileSize start now ∧
        Gone (paths ++ clearedPaths start.tables item) now)
      (fun _ now => mayRefuse ∧ Progress maxUploadFileSize start now) := by
  refine meets_andThen _ (meets_clearFile mayRefuse may paths) fun _ => ?_
  generalize cleared :
    (if committedMetadata start.tables item.1 = [] then [pathOf item.1] else []) = file
  refine (meets_each (fun front now => Progress maxUploadFileSize start now ∧
    Gone (front.map AssetPublicationJournal.relativePath ++ (file ++ paths)) now) ?_).mono
    (fun _ holds => holds) (fun _ stopped => stopped) ?_ (fun _ _ failed => failed)
  · intro front claim inside
    have member : claim ∈ item.2 :=
      inside.subset (List.mem_append_right _ List.mem_cons_self)
    refine meets_andThen _ (meets_clear mayRefuse (may.records claim member) _) fun _ =>
      meets_done fun now holds => ⟨holds.1, holds.2.subset ?_⟩
    intro path among
    simp only [List.map_append, List.map_cons, List.map_nil, List.mem_append, List.mem_cons] at among ⊢
    tauto
  · rintro _ now ⟨progress, gone⟩
    refine ⟨progress, gone.subset fun path among => ?_⟩
    unfold clearedPaths at among
    rw [cleared] at among
    simp only [List.mem_append] at among ⊢
    tauto

end

end CareerOS
