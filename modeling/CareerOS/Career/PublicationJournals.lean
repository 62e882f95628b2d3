/-
This file is the recovery record of a publication: a small JSON file that claims a
path of the data directory before its bytes are written. It models the checks of
one record, the bounded listing of the records, and the program that loads them.
Nothing of a record that does not pass every check is used.
-/

import CareerOS.Library.Files
import CareerOS.Library.Pydantic
import CareerOS.Library.Grouping
import CareerOS.Library.Outcome

namespace CareerOS

/-! ### A record -/

/-- `_KINDS`. -/
inductive AssetKind
  | sourceDocument
  | profilePhoto
  | campaignDocument
  deriving DecidableEq, Repr

namespace AssetKind

def text : AssetKind → String
  | .sourceDocument => "source_document"
  | .profilePhoto => "profile_photo"
  | .campaignDocument => "campaign_document"

def all : List AssetKind := [.sourceDocument, .profilePhoto, .campaignDocument]

end AssetKind

/-- `_expected_storage_path`. -/
def expectedStoragePath (kind : AssetKind) (sha256 : String) : String :=
  let shard := String.ofList (sha256.toList.take 2)
  match kind with
  | .sourceDocument => s!"assets/{shard}/{sha256}"
  | .profilePhoto => s!"assets/photos/{shard}/{sha256}.jpg"
  | .campaignDocument => s!"assets/campaign/{shard}/{sha256}"

/-- The parts of a stored path. -/
def pathOf (text : String) : Path := (text.toList.splitOn '/').map String.ofList

/-- `resolve_data_path`, on a tree without links among its directories. -/
def resolveDataPath (text : String) : Except FileFailure Path :=
  if text = "" then .error (.valueError "Stored paths must be non-empty relative paths")
  else if Char.ofNat 0 ∈ text.toList then
    .error (.valueError "Stored paths cannot contain null bytes")
  else if '\\' ∈ text.toList then
    .error (.valueError "Stored paths must use portable forward-slash separators")
  else if text.toList.head? = some '/' ∨
      (text.toList.head?.any Char.isAlpha = true ∧ text.toList[1]? = some ':') then
    .error (.valueError "Stored paths must be relative to the local data directory")
  else if ∃ part ∈ pathOf text, part = "" ∨ part = "." ∨ part = ".." then
    .error (.valueError "Stored paths must be normalized and cannot contain traversal")
  else .ok (pathOf text)

/-- `_JOURNAL_DIRECTORY`. -/
def journalDirectory : Path := ["assets", ".publication-journal"]

/-- `AssetPublicationJournal`. The relative path is the record's own name in the directory. -/
structure AssetPublicationJournal where
  operationId : String
  profileId : String
  kind : AssetKind
  storagePath : String
  sha256 : String
  byteSize : Nat
  relativePath : Path
  deriving DecidableEq

/-- `_JOURNAL_FIELDS`. -/
def journalFields : List String :=
  ["byte_size", "kind", "operation_id", "profile_id", "schema_version", "sha256", "storage_path"]

/-- `_canonical_uuid`. -/
def requireCanonicalUuid (value : Option Json) (field : String) : Except FileFailure String :=
  match value with
  | some (.str text) =>
    if canonicalUuid text then .ok text
    else .error (.valueError s!"Invalid asset publication {field}")
  | _ => .error (.valueError s!"Invalid asset publication {field}")

/-- `value == 1`, which a true and a float can be too. -/
def isSchemaVersionOne : Option Json → Bool
  | some (.int 1) => true
  | some (.bool true) => true
  | some (.float text) => text == "1.0"
  | _ => false

/-- `_validated_payload`. A list or an object is not hashable, so asking whether it is among the
kinds fails in its own way. -/
def validatedPayload (maxUploadFileSize : Nat) (payload : Json) (filename : String) :
    Except FileFailure AssetPublicationJournal :=
  let invalid := FileFailure.valueError "Invalid asset publication journal"
  match payload with
  | .obj fields =>
    if (∀ field ∈ journalFields, field ∈ Dict.keys fields) ∧
        (∀ field ∈ Dict.keys fields, field ∈ journalFields) then do
      let operationId ← requireCanonicalUuid (Dict.lookup "operation_id" fields) "operation id"
      let profileId ← requireCanonicalUuid (Dict.lookup "profile_id" fields) "profile id"
      if isSchemaVersionOne (Dict.lookup "schema_version" fields) = false then throw invalid
      else
        match Dict.lookup "kind" fields with
        | some (.arr _) | some (.obj _) => throw .typeError
        | some (.str kindText) =>
          match AssetKind.all.find? fun kind => kind.text = kindText with
          | none => throw invalid
          | some kind =>
            match Dict.lookup "sha256" fields, Dict.lookup "byte_size" fields,
                Dict.lookup "storage_path" fields with
            | some (.str sha256), some (.int byteSize), some (.str storagePath) =>
              if Files.isHexDigest sha256 = true ∧ 0 < byteSize ∧ byteSize ≤ maxUploadFileSize ∧
                  storagePath = expectedStoragePath kind sha256 ∧
                  filename = s!"{operationId}.json" then do
                let _ ← resolveDataPath storagePath
                return {
                  operationId, profileId, kind, storagePath, sha256
                  byteSize := byteSize.toNat
                  relativePath := journalDirectory ++ [filename] }
              else throw invalid
            | _, _, _ => throw invalid
        | _ => throw invalid
    else throw invalid
  | _ => throw invalid

/-- `json.loads(data.decode("utf-8"))`, when it is JSON, and the compact text of a value. -/
class JsonBytes (Bytes : Type) extends FileBytes Bytes where
  loads : Bytes → Option Json
  dumps : Json → Bytes

/-- `_validated_payload` refuses these as recovery metadata. -/
def invalidMetadata : FileFailure :=
  .storageWriteError "Asset publication recovery metadata is invalid; verify the local data directory."

section

variable {Bytes : Type} [JsonBytes Bytes] (maxUploadFileSize : Nat)

/-- `_load_journal`. A record that is gone is told apart from one that is invalid. -/
def loadJournal (files : Files Bytes) (name : String) :
    Except FileFailure AssetPublicationJournal :=
  match files.readStableBounded (journalDirectory ++ [name]) (16 * 1024) none true with
  | .error .fileNotFound => .error .fileNotFound
  | .error _ => .error invalidMetadata
  | .ok data =>
    if FileBytes.size data = 0 then .error invalidMetadata
    else
      match JsonBytes.loads data with
      | none => .error invalidMetadata
      | some payload =>
        match validatedPayload maxUploadFileSize payload name with
        | .ok journal => .ok journal
        | .error .typeError => .error .typeError
        | .error _ => .error invalidMetadata

/-- `path.suffix` of a name. -/
def nameSuffix (name : String) : String :=
  let tail := name.toList.reverse.takeWhile (· ≠ '.')
  let rest := name.toList.reverse.drop tail.length
  if tail = [] ∨ rest.length ≤ 1 then "" else String.ofList ('.' :: tail.reverse)

/-- The bounded listing of `all_asset_publication_journals`, after so many names. -/
def scanNames : Nat → List String → Except FileFailure Unit
  | _, [] => .ok ()
  | count, name :: rest =>
    if 10000 < count + 1 then
      .error (.storageWriteError "Too many pending asset publication recovery records")
    else if nameSuffix name ≠ ".json" then .error invalidMetadata
    else scanNames (count + 1) rest

/-- The names of the records, in the order in which they are loaded. -/
def journalNames (files : Files Bytes) : Except FileFailure (List String) :=
  match files.find journalDirectory with
  | some _ => .error invalidMetadata
  | none => do
    let names := files.namesIn journalDirectory
    scanNames 0 names
    return names.mergeSort (· ≤ ·)

/-- `all_asset_publication_journals`. -/
def allAssetPublicationJournals {Tables : Type} :
    Program (Disk Bytes Tables) FileFailure (List AssetPublicationJournal) := do
  let names ← Disk.look fun disk => journalNames disk.files
  let loaded ← Program.collect names fun name => Disk.look fun disk =>
    match loadJournal maxUploadFileSize disk.files name with
    | .ok journal => .ok (some journal)
    | .error .fileNotFound => .ok none
    | .error failure => .error failure
  return loaded.filterMap id

end

/-! ### What a record that passed its checks says -/

/-- What the checks of a record have established. -/
structure Validated (maxUploadFileSize : Nat) (journal : AssetPublicationJournal)
    (filename : String) : Prop where
  digest : Files.isHexDigest journal.sha256 = true
  positive : 0 < journal.byteSize
  bounded : journal.byteSize ≤ maxUploadFileSize
  storagePath : journal.storagePath = expectedStoragePath journal.kind journal.sha256
  named : filename = s!"{journal.operationId}.json"
  canonical : canonicalUuid journal.operationId = true
  relativePath : journal.relativePath = journalDirectory ++ [filename]

theorem requireCanonicalUuid_ok {value : Option Json} {field text : String}
    (required : requireCanonicalUuid value field = .ok text) : canonicalUuid text = true := by
  unfold requireCanonicalUuid at required
  split at required
  · split at required
    · rename_i canonical
      obtain rfl := Except.ok.inj required
      exact canonical
    · cases required
  · cases required

variable {journal : AssetPublicationJournal}

theorem validatedPayload_ok {maxUploadFileSize : Nat} {payload : Json} {filename : String}
    (checked : validatedPayload maxUploadFileSize payload filename = .ok journal) :
    Validated maxUploadFileSize journal filename := by
  unfold validatedPayload at checked
  dsimp only at checked
  split at checked
  · split at checked
    · obtain ⟨operationId, operation, checked⟩ := bind_ok_iff.mp checked
      obtain ⟨profileId, -, checked⟩ := bind_ok_iff.mp checked
      split at checked
      · cases checked
      · split at checked
        · cases checked
        · cases checked
        · split at checked
          · cases checked
          · split at checked
            · split at checked
              · rename_i valid
                obtain ⟨_, -, checked⟩ := bind_ok_iff.mp checked
                obtain rfl := pure_ok_iff.mp checked
                obtain ⟨digest, positive, bounded, storagePath, named⟩ := valid
                exact ⟨digest, by dsimp only; omega, by dsimp only; omega, storagePath, named,
                  requireCanonicalUuid_ok operation, rfl⟩
              · cases checked
            · cases checked
        · cases checked
    · cases checked
  · cases checked

section

variable {Bytes : Type} [JsonBytes Bytes] {maxUploadFileSize : Nat} {name : String}

variable {files : Files Bytes}

/-- A record that loads is one file with one name, and it was validated. -/
theorem loadJournal_ok (loaded : loadJournal maxUploadFileSize files name = .ok journal) :
    (∃ inode data, files.find (journalDirectory ++ [name]) = some (.file inode data) ∧
      files.links inode = 1) ∧ Validated maxUploadFileSize journal name := by
  unfold loadJournal at loaded
  split at loaded
  · cases loaded
  · cases loaded
  · rename_i data read
    obtain ⟨inode, found, single, -⟩ := Files.readStableBounded_ok_iff.mp read
    refine ⟨⟨inode, data, found, single rfl⟩, ?_⟩
    split at loaded
    · cases loaded
    · split at loaded
      · cases loaded
      · split at loaded
        · rename_i journal checked
          obtain rfl := Except.ok.inj loaded
          exact validatedPayload_ok checked
        · cases loaded
        · cases loaded

/-- A record that is there is not reported as gone. -/
theorem loadJournal_ne_fileNotFound {entry : Entry Bytes}
    (found : files.find (journalDirectory ++ [name]) = some entry) :
    loadJournal maxUploadFileSize files name ≠ .error .fileNotFound := by
  intro gone
  unfold loadJournal at gone
  split at gone
  · rename_i missing
    unfold Files.readStableBounded at missing
    rw [found] at missing
    cases entry with
    | other => cases missing
    | file inode data =>
      dsimp only at missing
      split at missing <;> cases missing
  · cases gone
  · split at gone
    · cases gone
    · split at gone
      · cases gone
      · split at gone
        · cases gone
        · cases gone
        · cases gone

theorem loadJournal_of_none (gone : files.find (journalDirectory ++ [name]) = none) :
    loadJournal maxUploadFileSize files name = .error .fileNotFound := by
  unfold loadJournal Files.readStableBounded
  rw [gone]

/-- A record that is still there loads as before. -/
theorem loadJournal_of_shrinks {before after : Files Bytes} (shrinks : Files.Shrinks before after)
    {entry : Entry Bytes} (found : after.find (journalDirectory ++ [name]) = some entry) :
    loadJournal maxUploadFileSize after name = loadJournal maxUploadFileSize before name := by
  unfold loadJournal
  rw [Files.readStableBounded_of_shrinks shrinks found]

end

/-- A record that was validated has the suffix of a record. -/
theorem nameSuffix_of_validated {maxUploadFileSize : Nat}
    {filename : String} (validated : Validated maxUploadFileSize journal filename) :
    nameSuffix filename = ".json" := by
  have letters : filename.toList = journal.operationId.toList ++ ".json".toList := by
    rw [validated.named]
    exact String.toList_append
  have long : 1 ≤ journal.operationId.toList.length := by
    rw [String.length_toList, length_of_canonicalUuid validated.canonical]
    decide
  have tail : filename.toList.reverse.takeWhile (· ≠ '.') = ['n', 'o', 's', 'j'] := by
    rw [letters, List.reverse_append]
    rfl
  unfold nameSuffix
  simp only [tail]
  rw [if_neg]
  · rfl
  · rintro (empty | short)
    · cases empty
    · rw [letters, List.length_drop, List.length_reverse, List.length_append] at short
      simp only [List.length_cons, List.length_nil] at short
      have size : ".json".toList.length = 5 := rfl
      omega

end CareerOS
