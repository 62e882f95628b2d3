/-
This file is the desktop's save of a verified backup: the bytes are written to a part
file, an existing backup is moved aside to a rollback file, the part is linked to the
destination without overwriting anything, and both sidecars are removed. A failure at
any step is undone from the two flags and the files that are left.

Every call of the system may fail; while the original is moved away another process
may create a file under the destination. The two hooks are calls that may fail.
-/

import CareerOS.Library.Files

namespace CareerOS

/-! ### Calls of the system -/

/-- The kinds of `io::Error` that are told apart. -/
inductive IoError
  | notFound
  | alreadyExists
  | other
  deriving DecidableEq, Repr

/-- The codes of `BackupSaveError` that saving the bytes can end with. -/
inductive BackupSaveError
  | destinationDenied
  | checksumMismatch
  | ioFailure
  | rollbackFailure
  deriving DecidableEq, Repr

/-- The bytes of a file that was only created. -/
class BackupBytes (Bytes : Type) extends FileBytes Bytes where
  empty : Bytes

/-- The files, with those that another process has created under the destination. -/
structure BackupFolder (Bytes : Type) where
  files : Files Bytes
  created : List (Entry Bytes)

namespace BackupFolder

variable {Bytes : Type}

def withFiles (folder : BackupFolder Bytes) (files : Files Bytes) : BackupFolder Bytes :=
  { folder with files }

end BackupFolder

section

variable {Bytes : Type} {Failure Result : Type}

/-- One call: its result is a value. -/
def systemCall (call : BackupFolder Bytes → Except IoError (Result × BackupFolder Bytes)) :
    Program (BackupFolder Bytes) Failure (Except IoError Result) :=
  Program.attempt (Program.act .other call)

/-- `fs::symlink_metadata`. -/
def symlinkMetadata (path : Path) :
    Program (BackupFolder Bytes) Failure (Except IoError (Entry Bytes)) :=
  systemCall fun folder =>
    match folder.files.find path with
    | some entry => .ok (entry, folder)
    | none => .error .notFound

/-- `reject_special_file`. -/
def rejectSpecialFile (path : Path) :
    Program (BackupFolder Bytes) Failure (Except IoError Unit) := do
  match ← symlinkMetadata path with
  | .ok (.file _ _) => return .ok ()
  | .ok .other => return .error .other
  | .error error => return .error error

/-- `File::open`. -/
def openFile (path : Path) :
    Program (BackupFolder Bytes) Failure (Except IoError (Entry Bytes)) :=
  systemCall fun folder =>
    match folder.files.find path with
    | some entry => .ok (entry, folder)
    | none => .error .notFound

/-- `OpenOptions::new().write(true).create_new(true).open`. -/
def createNew [BackupBytes Bytes] (path : Path) :
    Program (BackupFolder Bytes) Failure (Except IoError Unit) :=
  systemCall fun folder =>
    match folder.files.find path with
    | some _ => .error .alreadyExists
    | none => .ok ((), folder.withFiles
        (folder.files.put path (.file folder.files.nextInode BackupBytes.empty)))

/-- `write_all` and `sync_all` of the part. Of a write that fails nothing is read again. -/
def writeAll (path : Path) (bytes : Bytes) :
    Program (BackupFolder Bytes) Failure (Except IoError Unit) :=
  systemCall fun folder =>
    match folder.files.find path with
    | some (.file inode _) => .ok ((), folder.withFiles (folder.files.put path (.file inode bytes)))
    | _ => .error .other

/-- `sync_parent`. -/
def syncParent : Program (BackupFolder Bytes) Failure (Except IoError Unit) :=
  systemCall fun folder => .ok ((), folder)

/-- `fs::remove_file`. -/
def removeFile (path : Path) : Program (BackupFolder Bytes) Failure (Except IoError Unit) :=
  systemCall fun folder =>
    match folder.files.find path with
    | some (.file _ _) => .ok ((), folder.withFiles (folder.files.remove path))
    | some .other => .error .other
    | none => .error .notFound

/-- `fs::rename`, which replaces what is under the new name. -/
def rename (source target : Path) :
    Program (BackupFolder Bytes) Failure (Except IoError Unit) :=
  systemCall fun folder =>
    match folder.files.find source with
    | some entry => .ok ((), folder.withFiles ((folder.files.put target entry).remove source))
    | none => .error .notFound

/-- `fs::hard_link`, which never replaces. -/
def hardLink (source target : Path) :
    Program (BackupFolder Bytes) Failure (Except IoError Unit) :=
  systemCall fun folder =>
    match folder.files.find source, folder.files.find target with
    | some entry, none => .ok ((), folder.withFiles (folder.files.put target entry))
    | some _, some _ => .error .alreadyExists
    | none, _ => .error .notFound

/-- A hook: it may fail. -/
def hook : Program (BackupFolder Bytes) Failure (Except IoError Unit) :=
  systemCall fun folder => .ok ((), folder)

/-! ### The functions of the save -/

variable [BackupBytes Bytes]

/-- `fingerprint`: the size and the digest. -/
def fingerprint (path : Path) :
    Program (BackupFolder Bytes) Failure (Except IoError (Nat × String)) := do
  match ← rejectSpecialFile path with
  | .error error => return .error error
  | .ok () =>
    match ← openFile path with
    | .error error => return .error error
    | .ok (.file _ bytes) =>
      systemCall fun folder => .ok ((FileBytes.size bytes, FileBytes.sha256 bytes), folder)
    | .ok .other => return .error .other

/-- `create_sidecar`, with the names that are drawn: a part and a rollback for each attempt. -/
def createSidecar : List (Path × Path) →
    Program (BackupFolder Bytes) Failure (Except IoError (Path × Path))
  | [] => return .error .alreadyExists
  | (part, rollback) :: rest => do
    match ← symlinkMetadata rollback with
    | .ok _ => createSidecar rest
    | .error _ =>
      match ← createNew part with
      | .ok () => return .ok (part, rollback)
      | .error .alreadyExists => createSidecar rest
      | .error error => return .error error

/-- `remove_file_if_present`. -/
def removeFileIfPresent (path : Path) :
    Program (BackupFolder Bytes) Failure (Except IoError Unit) := do
  match ← removeFile path with
  | .ok () => return .ok ()
  | .error .notFound => return .ok ()
  | .error error => return .error error

/-- `same_regular_file`. -/
def sameRegularFile (left right : Path) :
    Program (BackupFolder Bytes) Failure (Except IoError Bool) := do
  match ← symlinkMetadata left with
  | .error error => return .error error
  | .ok leftEntry =>
    match ← symlinkMetadata right with
    | .error error => return .error error
    | .ok rightEntry =>
      match leftEntry, rightEntry with
      | .file leftInode _, .file rightInode _ => return .ok (leftInode = rightInode)
      | _, _ => return .ok false

/-- `publish_no_clobber`. -/
def publishNoClobber (source destination : Path) :
    Program (BackupFolder Bytes) Failure (Except IoError Unit) := do
  match ← rejectSpecialFile source with
  | .error error => return .error error
  | .ok () => hardLink source destination

/-- A result of a call that must be right. -/
def required {Value : Type} (error : Failure) (result : Except IoError Value) :
    Program (BackupFolder Bytes) Failure Value :=
  match result with
  | .ok value => Program.done value
  | .error _ => Program.fail error

/-- The end of `rollback`: the original, if it was moved, gets its name back. -/
def restoreOriginal (destination rollbackPath : Path) (original : Option (Nat × String)) :
    Program (BackupFolder Bytes) BackupSaveError Unit := do
  match original with
  | some expected =>
    let found ← fingerprint rollbackPath
    Program.refuseWhen (found.toOption ≠ some expected) .rollbackFailure
    required .rollbackFailure (← publishNoClobber rollbackPath destination)
    required .rollbackFailure (← syncParent)
    let restored ← fingerprint destination
    Program.refuseWhen (restored.toOption ≠ some expected) .rollbackFailure
    required .rollbackFailure (← removeFileIfPresent rollbackPath)
    required .rollbackFailure (← syncParent)
  | none => do
    let _ ← removeFileIfPresent rollbackPath

/-- The start of `rollback`: what was promoted is taken back. -/
def takeBack (destination part : Path) : Program (BackupFolder Bytes) BackupSaveError Unit := do
  match ← sameRegularFile part destination with
  | .ok true =>
    required .rollbackFailure (← removeFileIfPresent destination)
    required .rollbackFailure (← syncParent)
  | .error .notFound => return ()
  | .ok false | .error _ =>
    let _ ← removeFileIfPresent part
    Program.fail .rollbackFailure

/-- `rollback`. -/
def rollback (destination part rollbackPath : Path) (original : Option (Nat × String))
    (promoted : Bool) : Program (BackupFolder Bytes) BackupSaveError Unit := do
  if promoted then takeBack destination part
  required .rollbackFailure (← removeFileIfPresent part)
  restoreOriginal destination rollbackPath original

/-- An error of the operation, with the two flags that it has set. -/
structure OperationFailure where
  error : BackupSaveError
  originalMoved : Bool
  promoted : Bool

/-- The operation, while an existing backup is moved aside. -/
def moveAside (destination rollbackPath : Path) (original : Option (Nat × String)) :
    Program (BackupFolder Bytes) OperationFailure Unit := do
  match original with
  | none => return ()
  | some expected =>
    match ← symlinkMetadata rollbackPath with
    | .ok _ => Program.fail ⟨.ioFailure, false, false⟩
    | .error _ =>
      required ⟨.ioFailure, false, false⟩ (← rename destination rollbackPath)
      required ⟨.ioFailure, true, false⟩ (← syncParent)
      let moved ← fingerprint rollbackPath
      Program.refuseWhen (moved.toOption ≠ some expected) ⟨.ioFailure, true, false⟩

/-- The operation, once the part is written and verified. -/
def promote (destination part rollbackPath : Path) (expected : Nat × String) (moved : Bool) :
    Program (BackupFolder Bytes) OperationFailure Unit := do
  required ⟨.ioFailure, moved, false⟩ (← hook)
  required ⟨.ioFailure, moved, false⟩ (← publishNoClobber part destination)
  required ⟨.ioFailure, moved, true⟩ (← syncParent)
  required ⟨.ioFailure, moved, true⟩ (← hook)
  let found ← fingerprint destination
  Program.refuseWhen (found.toOption ≠ some expected) ⟨.ioFailure, moved, true⟩
  required ⟨.ioFailure, moved, true⟩ (← removeFileIfPresent part)
  if moved then do
    required ⟨.ioFailure, moved, true⟩ (← removeFileIfPresent rollbackPath)
    let _ ← syncParent
  else return ()

/-- The operation of `save_verified_backup_bytes_with_hooks`. -/
def saveOperation (destination part rollbackPath : Path) (bytes : Bytes) (expectedSha256 : String)
    (original : Option (Nat × String)) : Program (BackupFolder Bytes) OperationFailure Unit := do
  let expected := (FileBytes.size bytes, expectedSha256)
  required ⟨.ioFailure, false, false⟩ (← writeAll part bytes)
  let written ← fingerprint part
  Program.refuseWhen (written.toOption ≠ some expected) ⟨.ioFailure, false, false⟩
  moveAside destination rollbackPath original
  promote destination part rollbackPath expected original.isSome

/-- The fingerprint of an existing destination. -/
def readOriginal (destination : Path) :
    Program (BackupFolder Bytes) BackupSaveError (Option (Nat × String)) := do
  match ← symlinkMetadata destination with
  | .ok _ =>
    let found ← required .destinationDenied (← fingerprint destination)
    return some found
  | .error .notFound => return none
  | .error _ => Program.fail .destinationDenied

/-- `save_verified_backup_bytes_with_hooks`, with the names that `create_sidecar` draws. -/
def saveVerifiedBackupBytesWithHooks (destination : Path) (drawn : List (Path × Path))
    (bytes : Bytes) (expectedSha256 : String) :
    Program (BackupFolder Bytes) BackupSaveError Unit := do
  Program.refuseWhen (FileBytes.sha256 bytes ≠ expectedSha256) .checksumMismatch
  -- The parent is resolved and must be a directory.
  required .destinationDenied (← syncParent)
  let original ← readOriginal destination
  let (part, rollbackPath) ← required .ioFailure (← createSidecar drawn)
  match ← Program.attempt (saveOperation destination part rollbackPath bytes expectedSha256
    original) with
  | .ok () => return ()
  | .error failed =>
    let moved := if failed.originalMoved then original else none
    rollback destination part rollbackPath moved failed.promoted
    Program.fail failed.error

/-! ### What may happen meanwhile -/

/-- Another process creates a file under the destination while the original is moved away. -/
def Creates (destination : Path) (original : Option (Entry Bytes))
    (before after : BackupFolder Bytes) : Prop :=
  original ≠ none ∧ before.files.find destination = none ∧ ∃ inode bytes,
    before.files.links inode = 0 ∧ after = {
      files := before.files.put destination (.file inode bytes)
      created := before.created ++ [.file inode bytes] }

/-- Calls may fail, and another process may create the destination. -/
def backupSetting (destination : Path) (original : Option (Entry Bytes)) :
    Program.Setting (BackupFolder Bytes) where
  relies before after := after = before ∨ Creates destination original before after
  mayRefuse := True

end

end CareerOS
