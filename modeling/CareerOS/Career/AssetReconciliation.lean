/-
This file is the whole run of the reconciliation: under the writer lock, in spite
of publishers that remove their own records, of refused steps and of a stop at any
step. The checks come first and touch nothing; what they have established of every
claimed path is what the removals need.
-/

import CareerOS.Career.AssetRecovery

namespace CareerOS

section

variable {Bytes : Type} [JsonBytes Bytes] {maxUploadFileSize : Nat}
  {start now before after : Disk Bytes (List AssetRow)}

/-! ### What holds wherever the run ends -/

/-- No file of a committed row is touched, nothing is gone that recovery may not remove, and without
well-formed records nothing is removed but by its own publisher. -/
structure Spares (maxUploadFileSize : Nat) (start now : Disk Bytes (List AssetRow)) : Prop where
  tables : now.tables = start.tables
  committed : ∀ row ∈ start.tables,
    now.files.find (pathOf row.storagePath) = start.files.find (pathOf row.storagePath)
  removed : ∀ path, now.files.find path ≠ start.files.find path →
    now.files.find path = none ∧ Clearable maxUploadFileSize start path
  malformed : ¬WellFormed maxUploadFileSize start → ClearsCommitted maxUploadFileSize start now

/-- Every record of the start is gone, and so is its file when no committed row names it. -/
structure Reconciled (maxUploadFileSize : Nat) (start now : Disk Bytes (List AssetRow)) : Prop where
  wellFormed : WellFormed maxUploadFileSize start
  records : ∀ name ∈ start.files.namesIn journalDirectory,
    now.files.find (journalDirectory ++ [name]) = none
  files : ∀ journal, Recorded maxUploadFileSize start.files journal →
    ¬HasRow start.tables journal.storagePath →
    now.files.find (pathOf journal.storagePath) = none

theorem Progress.spares (progress : Progress maxUploadFileSize start now)
    (malformed : ¬WellFormed maxUploadFileSize start →
      ClearsCommitted maxUploadFileSize start now) : Spares maxUploadFileSize start now where
  tables := progress.tables
  committed := progress.row
  removed path changed := (progress.names path).resolve_left changed
  malformed := malformed

theorem ClearsCommitted.spares (untouched : ClearsCommitted maxUploadFileSize start now) :
    Spares maxUploadFileSize start now :=
  untouched.progress.spares fun _ => untouched

/-! ### The checks -/

/-- Every claimed path has been checked. -/
def CheckedPaths (maxUploadFileSize : Nat) (start : Disk Bytes (List AssetRow))
    (expected : List (String × String × Nat)) (found : List (Option String)) : Prop :=
  List.Forall₂ (CheckedPath maxUploadFileSize start) expected found

variable {journals : List AssetPublicationJournal} {expected : List (String × String × Nat)}

open Program in
/-- The checks of all paths touch nothing; they fail only when a record is not verified, or a step
is refused. -/
theorem meets_checkClaimedPaths (mayRefuse : Prop)
    (claims : ExpectedClaims journals expected)
    (recorded : ∀ journal ∈ journals, Recorded maxUploadFileSize start.files journal) :
    Meets (recoverySetting maxUploadFileSize mayRefuse)
      (fun now => ClearsCommitted maxUploadFileSize start now ∧
        LoadedRecords maxUploadFileSize start now journals)
      (collect expected (checkClaimedPath maxUploadFileSize start.tables))
      (ClearsCommitted maxUploadFileSize start)
      (fun found now => (ClearsCommitted maxUploadFileSize start now ∧
        LoadedRecords maxUploadFileSize start now journals) ∧
        CheckedPaths maxUploadFileSize start expected found)
      (fun _ now => ClearsCommitted maxUploadFileSize start now ∧
        (mayRefuse ∨ ¬Recoverable maxUploadFileSize start)) := by
  refine (meets_collect (fun front found now =>
    (ClearsCommitted maxUploadFileSize start now ∧
      LoadedRecords maxUploadFileSize start now journals) ∧
    CheckedPaths maxUploadFileSize start front found) ?_).mono
    (fun _ required => ⟨required, .nil⟩) (fun _ stopped => stopped) (fun _ _ holds => holds)
    (fun _ _ failed => failed)
  intro front found item inside
  have member : item ∈ expected := inside.subset (List.mem_append_right _ List.mem_cons_self)
  obtain ⟨journal, among, path, metadata⟩ := claims.2.1 item member
  have outside : ¬journalDirectory <+: pathOf item.1 := by
    rw [← path]
    exact (recorded journal among).outside
  have stable : ∀ before after, LoadedRecords maxUploadFileSize start before journals ∧
      CheckedPaths maxUploadFileSize start front found →
      ClearsCommitted maxUploadFileSize before after →
      LoadedRecords maxUploadFileSize start after journals ∧
        CheckedPaths maxUploadFileSize start front found :=
    fun _ _ holds cleared => ⟨holds.1.stable cleared, holds.2⟩
  refine (meets_checkClaimedPath mayRefuse outside stable).mono
    (fun _ required => ⟨required.1.1, required.1.2, required.2⟩) (fun _ stopped => stopped) ?_ ?_
  · rintro value now ⟨⟨untouched, loaded, checked⟩, here⟩
    exact ⟨⟨untouched, loaded⟩, List.rel_append checked (.cons here .nil)⟩
  · rintro failure now ⟨untouched, refused | unverified⟩
    · exact ⟨untouched, .inl refused⟩
    · refine ⟨untouched, .inr fun consistent => unverified ?_⟩
      have verified := consistent.verified journal (recorded journal among)
      rw [path, show journal.sha256 = item.2.1 from congrArg Prod.fst metadata,
        show journal.byteSize = item.2.2 from congrArg Prod.snd metadata] at verified
      exact verified

/-- What was checked of a path. -/
theorem CheckedPaths.of_mem
    {found : List (Option String)} (checked : CheckedPaths maxUploadFileSize start expected found)
    {item : String × String × Nat} (member : item ∈ expected) :
    ∃ value ∈ found, CheckedPath maxUploadFileSize start item value := by
  induction checked with
  | nil => cases member
  | cons here _ inductionHypothesis =>
    rcases List.mem_cons.mp member with rfl | later
    · exact ⟨_, List.mem_cons_self, here⟩
    · obtain ⟨value, inside, same⟩ := inductionHypothesis later
      exact ⟨value, List.mem_cons_of_mem _ inside, same⟩

/-- A path that was found is one of the claimed paths. -/
theorem CheckedPaths.found
    {found : List (Option String)} (checked : CheckedPaths maxUploadFileSize start expected found)
    {storagePath : String} (member : some storagePath ∈ found) :
    ∃ item ∈ expected, item.1 = storagePath ∧ ∃ data, start.files.readVerified (pathOf item.1)
      item.2.1 item.2.2 maxUploadFileSize = .ok data := by
  induction checked with
  | nil => cases member
  | cons here _ inductionHypothesis =>
    rcases List.mem_cons.mp member with rfl | later
    · rcases here with ⟨none, -⟩ | ⟨same, verified⟩
      · cases none
      · exact ⟨_, List.mem_cons_self, (Option.some.inj same).symm, verified⟩
    · obtain ⟨item, inside, same⟩ := inductionHypothesis later
      exact ⟨item, List.mem_cons_of_mem _ inside, same⟩

/-- After the checks, everything that is about to be removed may be. -/
theorem mayClear_of_checked
    (claims : ExpectedClaims journals expected)
    (recorded : ∀ journal ∈ journals, Recorded maxUploadFileSize start.files journal)
    {found : List (Option String)} (checked : CheckedPaths maxUploadFileSize start expected found)
    {item : String × List AssetPublicationJournal} (member : item ∈ groupClaims journals) :
    MayClear maxUploadFileSize start (found.filterMap id) item := by
  obtain ⟨storagePath, group⟩ := item
  obtain ⟨rfl, some_⟩ := mem_groupClaims_iff.mp member
  constructor
  · intro claim among
    obtain ⟨name, loaded⟩ := recorded claim (List.mem_filter.mp among).1
    rw [(loadJournal_ok loaded).2.relativePath]
    exact .record loaded
  · intro uncommitted
    dsimp only at uncommitted ⊢
    obtain ⟨claim, inGroup⟩ := List.exists_mem_of_ne_nil _ some_
    obtain ⟨among, path⟩ := List.mem_filter.mp inGroup
    obtain rfl : claim.storagePath = storagePath := of_decide_eq_true path
    have expectedHere := claims.2.2 claim among
    split
    · rename_i inside
      obtain ⟨value, held, same⟩ := List.mem_filterMap.mp inside
      obtain rfl : value = some claim.storagePath := same
      obtain ⟨other, otherMember, samePath, data, verified⟩ := checked.found held
      have same : other = (claim.storagePath, claim.sha256, claim.byteSize) :=
        List.inj_on_of_nodup_map claims.1 otherMember expectedHere samePath
      rw [same] at verified
      exact .file (recorded claim among) (fun row => row uncommitted) verified
    · rename_i outside
      obtain ⟨value, held, checkedHere⟩ := checked.of_mem expectedHere
      rcases checkedHere with ⟨-, absent, -⟩ | ⟨same, -⟩
      · exact absent
      · exact absurd (List.mem_filterMap.mpr ⟨value, held, same⟩) outside

/-! ### The run -/

/-- The names of the records that were not loaded. -/
def unloaded (maxUploadFileSize : Nat) (files : Files Bytes)
    (journals : List AssetPublicationJournal) : List Path :=
  ((files.namesIn journalDirectory).filter fun name =>
    match loadJournal maxUploadFileSize files name with
    | .ok journal => journal ∉ journals
    | .error _ => false).map fun name => journalDirectory ++ [name]

/-- A record that was not loaded had been removed by its publisher. -/
theorem LoadedRecords.gone (loaded : LoadedRecords maxUploadFileSize start now journals) :
    Gone (unloaded maxUploadFileSize start.files journals) now := by
  intro path member
  obtain ⟨name, inside, rfl⟩ := List.mem_map.mp member
  obtain ⟨-, other⟩ := List.mem_filter.mp inside
  split at other
  · rename_i journal held
    exact ((loaded.2.2 name journal held).resolve_left (of_decide_eq_true other)).1
  · cases other

/-- Once all claims are cleared, every record and every uncommitted file is gone. -/
theorem reconciled_of_gone (loaded : LoadedRecords maxUploadFileSize start before journals)
    (gone : Gone (unloaded maxUploadFileSize start.files journals ++
      (groupClaims journals).flatMap (clearedPaths start.tables)) now) :
    Reconciled maxUploadFileSize start now := by
  have clears : ∀ journal ∈ journals, now.files.find journal.relativePath = none ∧
      (¬HasRow start.tables journal.storagePath →
        now.files.find (pathOf journal.storagePath) = none) := by
    intro journal among
    have inGroup : journal ∈ journals.filter fun other =>
        other.storagePath = journal.storagePath :=
      List.mem_filter.mpr ⟨among, decide_eq_true rfl⟩
    have group := mem_groupClaims_iff.mpr ⟨rfl, List.ne_nil_of_mem inGroup⟩
    constructor
    · refine gone _ (List.mem_append_right _ (List.mem_flatMap.mpr ⟨_, group, ?_⟩))
      exact List.mem_append_right _ (List.mem_map_of_mem inGroup)
    · intro uncommitted
      refine gone _ (List.mem_append_right _ (List.mem_flatMap.mpr ⟨_, group, ?_⟩))
      refine List.mem_append_left _ ?_
      rw [if_pos (not_not.mp uncommitted)]
      exact List.mem_singleton_self _
  refine ⟨loaded.1, fun name member => ?_, fun journal recorded uncommitted => ?_⟩
  · obtain ⟨journal, held⟩ := loaded.1.2 name member
    by_cases among : journal ∈ journals
    · rw [← (loadJournal_ok held).2.relativePath]
      exact (clears journal among).1
    · refine gone _ (List.mem_append_left _ (List.mem_map_of_mem (List.mem_filter.mpr ⟨member, ?_⟩)))
      rw [held]
      exact decide_eq_true among
  · obtain ⟨name, held⟩ := recorded
    rcases loaded.2.2 name journal held with among | ⟨-, other, same, row⟩
    · exact (clears journal among).2 uncommitted
    · rw [held] at same
      obtain rfl := Except.ok.inj same
      exact absurd row uncommitted

open Program in
/-- The removals of all claims. -/
theorem meets_clearAllClaims (mayRefuse : Prop) {existing : List String}
    {groups : List (String × List AssetPublicationJournal)}
    (may : ∀ item ∈ groups, MayClear maxUploadFileSize start existing item) (paths : List Path) :
    Meets (recoverySetting maxUploadFileSize mayRefuse)
      (fun now => Progress maxUploadFileSize start now ∧ Gone paths now)
      (each groups (clearClaims start.tables existing))
      (Progress maxUploadFileSize start)
      (fun _ now => Progress maxUploadFileSize start now ∧
        Gone (paths ++ groups.flatMap (clearedPaths start.tables)) now)
      (fun _ now => mayRefuse ∧ Progress maxUploadFileSize start now) := by
  refine (meets_each (fun front now => Progress maxUploadFileSize start now ∧
    Gone (paths ++ front.flatMap (clearedPaths start.tables)) now) ?_).mono ?_
    (fun _ stopped => stopped) (fun _ _ holds => holds) (fun _ _ failed => failed)
  · intro front item inside
    have member : item ∈ groups := inside.subset (List.mem_append_right _ List.mem_cons_self)
    refine (meets_clearClaims mayRefuse (may item member) _).mono (fun _ required => required)
      (fun _ stopped => stopped) ?_ (fun _ _ failed => failed)
    rintro _ now ⟨progress, gone⟩
    refine ⟨progress, ?_⟩
    rwa [List.flatMap_append, List.flatMap_singleton, ← List.append_assoc]
  · intro now required
    rwa [List.flatMap_nil, List.append_nil]

open Program in
/-- Recovery never touches the file of a committed row. Unless every record is well formed it clears
nothing. When it returns, every record is gone, and so is every recorded file that no committed row
names. It fails only without the writer lock, when a step was refused, or before its first removal
because the records, the rows and the files contradict each other. -/
theorem recovery_spares_committed (holdsWriterLock : Bool) (mayRefuse : Prop) :
    Meets (recoverySetting maxUploadFileSize mayRefuse) (fun now => now = start)
      (reconcileAssetPublicationJournals maxUploadFileSize holdsWriterLock)
      (Spares maxUploadFileSize start)
      (fun _ now => Spares maxUploadFileSize start now ∧ Reconciled maxUploadFileSize start now)
      (fun _ now => Spares maxUploadFileSize start now ∧
        (mayRefuse ∨ (ClearsCommitted maxUploadFileSize start now ∧
          (holdsWriterLock = false ∨ ¬Recoverable maxUploadFileSize start)))) := by
  have untouchedFails : ∀ now, ClearsCommitted maxUploadFileSize start now →
      (mayRefuse ∨ holdsWriterLock = false ∨ ¬Recoverable maxUploadFileSize start) →
      Spares maxUploadFileSize start now ∧ (mayRefuse ∨
        (ClearsCommitted maxUploadFileSize start now ∧
          (holdsWriterLock = false ∨ ¬Recoverable maxUploadFileSize start))) :=
    fun now untouched why => ⟨untouched.spares, why.imp_right fun reason => ⟨untouched, reason⟩⟩
  have starts : ∀ now, now = start → ClearsCommitted maxUploadFileSize start now := by
    rintro now rfl
    exact .refl
  refine meets_andThen (fun _ => ClearsCommitted maxUploadFileSize start)
    ((meets_refuseWhen fun now same unlocked =>
      untouchedFails now (starts now same) (.inr (.inl unlocked))).mono (fun _ same => same)
      (fun _ stopped => stopped) (fun _ now holds => starts now holds.1)
      (fun _ _ failed => failed)) fun _ => ?_
  -- The checks: they may stop or fail anywhere, and nothing has been touched.
  refine meets_andThen _ ((meets_allAssetPublicationJournals mayRefuse).mono (fun _ holds => holds)
    (fun _ untouched => untouched.spares) (fun _ _ holds => holds) ?_) fun journals => ?_
  · rintro _ now ⟨untouched, why⟩
    exact untouchedFails now untouched (why.imp_right fun bad => .inr fun consistent =>
      bad ⟨consistent.wellFormed, consistent.few⟩)
  by_cases empty : journals = []
  · rw [if_pos empty]
    refine meets_done fun now holds => ⟨holds.1.spares, ?_⟩
    refine reconciled_of_gone holds.2 fun path member => holds.2.gone path ?_
    rw [empty] at member ⊢
    exact (List.mem_append.mp member).resolve_right List.not_mem_nil
  · rw [if_neg empty]
    refine meets_andThen _ (meets_ofExcept ?_) fun expected => ?_
    · intro failure now failed holds
      refine untouchedFails now holds.1 (.inr (.inr fun consistent => ?_))
      obtain ⟨first, one, second, two, path, differ⟩ := mapM_expectedMetadata_error failed
      obtain ⟨sha256, byteSize⟩ := consistent.agree first second (holds.2.2.1 first one)
        (holds.2.2.1 second two) path
      exact differ (Prod.ext sha256 byteSize)
    refine meets_andThen _ (meets_refuseWhen ?_) fun _ => ?_
    · rintro now ⟨⟨untouched, loaded⟩, agreed⟩ large
      refine untouchedFails now untouched (.inr (.inr fun consistent => ?_))
      have total := sum_expected_le loaded.2.1 (expectedClaims_of_ok agreed)
      have small := consistent.small
      omega
    refine meets_andThen (fun rows now => (ClearsCommitted maxUploadFileSize start now ∧
        LoadedRecords maxUploadFileSize start now journals) ∧
        (groupClaims journals).mapM expectedMetadata = .ok expected ∧ rows = start.tables)
      (Disk.meets_look ?_ ?_ ?_ ?_ nofun) fun rows => ?_
    · exact fun _ _ holds cleared => ⟨⟨⟨holds.1.1.1.trans cleared, holds.1.1.2.stable cleared⟩,
        holds.1.2⟩, holds.2⟩
    · exact fun _ holds => holds.1.1.1.spares
    · exact fun may now holds => untouchedFails now holds.1.1.1 (.inl may)
    · rintro now rows ⟨⟨holds, agreed⟩, -⟩ given
      obtain rfl := Except.ok.inj given
      exact ⟨holds, agreed, holds.1.tables⟩
    intro hazards admitted clock now ⟨⟨untouched, loaded⟩, agreed, same⟩
    obtain rfl := same
    have claims := expectedClaims_of_ok agreed
    refine meets_andThen _ ((meets_checkClaimedPaths mayRefuse claims loaded.2.1).mono
      (fun _ holds => holds) (fun _ untouched => untouched.spares) (fun _ _ holds => holds)
      fun _ now failed => untouchedFails now failed.1 (failed.2.imp_right .inr))
      (fun found => ?_) hazards admitted clock now ⟨untouched, loaded⟩
    -- The removals: every claimed path has been checked.
    intro hazards admitted clock now ⟨⟨untouched, loaded⟩, checked⟩
    have spares : ∀ now, Progress maxUploadFileSize start now → Spares maxUploadFileSize start now :=
      fun now progress => progress.spares fun malformed => absurd loaded.1 malformed
    refine meets_andThen _ ((meets_clearAllClaims mayRefuse
      (fun item member => mayClear_of_checked claims loaded.2.1 checked member)
      (unloaded maxUploadFileSize start.files journals)).mono (fun _ holds => holds)
      (fun now progress => spares now progress) (fun _ _ holds => holds)
      fun _ now failed => ⟨spares now failed.2, .inl failed.1⟩)
      (fun _ => meets_done ?_) hazards admitted clock now ⟨untouched.progress, loaded.gone⟩
    exact fun now holds => ⟨spares now holds.1, reconciled_of_gone loaded holds.2⟩

end

/-! ### Where recovery gives up -/

/-- The contents of a directory with two small documents and their records. -/
inductive SampleBytes
  | letterA
  | letterB
  | record (json : Json)

namespace SampleBytes

/-- The records are of documents of one byte; their compact text has one length. -/
instance : JsonBytes SampleBytes where
  size
    | letterA => 1
    | letterB => 1
    | record _ => 333
  sha256
    | letterA => "ca978112ca1bbdcafac231b39a23dc4da786eff8147c4e72b9807785afee48bb"
    | letterB => "3e23e8160039594a33894f6564e1b1348bbd7a0088d42c4acb73eeaed59c009d"
    | record _ => ""
  loads
    | letterA => none
    | letterB => none
    | record json => some json
  dumps json := record json

end SampleBytes

/-- The record of a document of one byte. -/
def sampleRecord (operationId sha256 : String) : SampleBytes :=
  .record (.obj [
    ("byte_size", .int 1),
    ("kind", .str "source_document"),
    ("operation_id", .str operationId),
    ("profile_id", .str "22222222-2222-4222-8222-222222222222"),
    ("schema_version", .int 1),
    ("sha256", .str sha256),
    ("storage_path", .str (expectedStoragePath .sourceDocument sha256))])

/-- The document whose publication was cut before its bytes were written. Another account has
committed the same document. -/
def lostRow : AssetRow where
  storagePath := expectedStoragePath .sourceDocument (FileBytes.sha256 SampleBytes.letterB)
  sha256 := FileBytes.sha256 SampleBytes.letterB
  byteSize := 1
  outside := expectedStoragePath_outside .sourceDocument (by decide +kernel)

/-- Two documents were being published: the first was written, the second only recorded. The file
of the committed row is missing. -/
def lostAsset : Disk SampleBytes (List AssetRow) where
  files := {
    entries := [
      (pathOf (expectedStoragePath .sourceDocument (FileBytes.sha256 SampleBytes.letterA)),
        .file 3 .letterA),
      (journalDirectory ++ ["11111111-1111-4111-8111-111111111111.json"],
        .file 1 (sampleRecord "11111111-1111-4111-8111-111111111111"
          (FileBytes.sha256 SampleBytes.letterA))),
      (journalDirectory ++ ["11111111-1111-4111-8111-111111111112.json"],
        .file 2 (sampleRecord "11111111-1111-4111-8111-111111111112"
          (FileBytes.sha256 SampleBytes.letterB)))]
    distinct := by decide +kernel }
  tables := [lostRow]

/-- The names of the two records. -/
def lostNames : List String :=
  ["11111111-1111-4111-8111-111111111111.json", "11111111-1111-4111-8111-111111111112.json"]

theorem journalNames_lostAsset : journalNames lostAsset.files = .ok lostNames := by
  have names : lostAsset.files.namesIn journalDirectory = lostNames := by decide +kernel
  have sorted : lostNames.mergeSort (· ≤ ·) = lostNames :=
    List.mergeSort_of_pairwise (by decide +kernel)
  have scanned : scanNames 0 lostNames = .ok () := by decide +kernel
  have plain : lostAsset.files.find journalDirectory = none := rfl
  unfold journalNames
  rw [plain, names]
  dsimp only
  rw [scanned, sorted]
  rfl

/-- The record of the first document, as it loads. -/
def firstRecord : AssetPublicationJournal where
  operationId := "11111111-1111-4111-8111-111111111111"
  profileId := "22222222-2222-4222-8222-222222222222"
  kind := .sourceDocument
  storagePath := expectedStoragePath .sourceDocument (FileBytes.sha256 SampleBytes.letterA)
  sha256 := FileBytes.sha256 SampleBytes.letterA
  byteSize := 1
  relativePath := journalDirectory ++ ["11111111-1111-4111-8111-111111111111.json"]

/-- The second record. -/
def secondRecord : AssetPublicationJournal where
  operationId := "11111111-1111-4111-8111-111111111112"
  profileId := "22222222-2222-4222-8222-222222222222"
  kind := .sourceDocument
  storagePath := expectedStoragePath .sourceDocument (FileBytes.sha256 SampleBytes.letterB)
  sha256 := FileBytes.sha256 SampleBytes.letterB
  byteSize := 1
  relativePath := journalDirectory ++ ["11111111-1111-4111-8111-111111111112.json"]

theorem allAssetPublicationJournals_lostAsset :
    allAssetPublicationJournals 10485760 (Hazards.calm _) 0 lostAsset =
      ⟨[lostAsset, lostAsset, lostAsset], .ok [firstRecord, secondRecord], lostAsset, 3⟩ := by
  have listed : Disk.look (fun disk => journalNames disk.files) (Hazards.calm _) 0 lostAsset =
      ⟨[lostAsset], .ok lostNames, lostAsset, 1⟩ := by
    unfold Disk.look Program.act Hazards.calm
    dsimp only
    rw [journalNames_lostAsset]
    rfl
  unfold allAssetPublicationJournals
  show Program.andThen _ _ _ _ _ = _
  rw [Program.andThen_of_ok listed]
  rfl

/-- The file of the first document has no committed row, and recovery leaves it: it raises because
the committed file of the second is missing. -/
theorem uncommitted_asset_left :
    Recorded 10485760 lostAsset.files firstRecord ∧
      ¬HasRow lostAsset.tables firstRecord.storagePath ∧
      (reconcileAssetPublicationJournals 10485760 true (Hazards.calm _) 0 lostAsset).ending =
        .error (.storageWriteError "A committed asset is missing its durable bytes") ∧
      ((reconcileAssetPublicationJournals 10485760 true (Hazards.calm _) 0 lostAsset).state.files.find
        (pathOf firstRecord.storagePath)).isSome = true := by
  refine ⟨⟨lostNames[0], by decide +kernel⟩, not_not.mpr (by decide +kernel), ?_⟩
  unfold reconcileAssetPublicationJournals
  show (Program.andThen (Program.refuseWhen _ _) (fun _ =>
    Program.andThen (allAssetPublicationJournals 10485760) _) _ _ _).ending = _ ∧
    ((Program.andThen (Program.refuseWhen _ _) (fun _ =>
    Program.andThen (allAssetPublicationJournals 10485760) _) _ _ _).state.files.find _).isSome = _
  have locked : Program.refuseWhen (true = false) (FileFailure.storageWriteError
      "Asset publication recovery requires the SQLite writer lock") (Hazards.calm _) 0 lostAsset =
      ⟨[], .ok (), lostAsset, 0⟩ := rfl
  rw [Program.andThen_of_ok locked,
    Program.andThen_of_ok allAssetPublicationJournals_lostAsset]
  exact ⟨by decide +kernel, by decide +kernel⟩

end CareerOS
