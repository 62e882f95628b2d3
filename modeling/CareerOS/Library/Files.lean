/-
This file is a private data directory: names, the files behind them, and the
operations of the storage layer. A name is a path below the root. A file may have
two names for a moment (a temporary name and its final one), so a name holds the
number of its file. Directories are not modelled: a name that holds no file is a
link or something else that no reader accepts.
-/

import CareerOS.Library.Dict
import CareerOS.Library.Interrupted

namespace CareerOS

/-- A path below the data root. -/
abbrev Path := List String

/-- What a name holds. -/
inductive Entry (Bytes : Type)
  | file (inode : Nat) (bytes : Bytes)
  /-- A directory, a link or a special file. -/
  | other

/-- What the storage layer asks of the content of a file. -/
class FileBytes (Bytes : Type) where
  size : Bytes → Nat
  /-- `hashlib.sha256(data).hexdigest()`. -/
  sha256 : Bytes → String

/-- The failures that the storage layer tells apart. -/
inductive FileFailure
  | fileNotFound
  | osError
  | valueError (text : String)
  | typeError
  | storageWriteError (text : String)
  deriving DecidableEq, Repr

/-- The files of a directory tree: every name holds one thing. -/
structure Files (Bytes : Type) where
  entries : Dict Path (Entry Bytes)
  distinct : (Dict.keys entries).Nodup

variable {path : Path}

namespace Files

variable {Bytes : Type}

/-- The number of the file that an entry is. -/
def inodeOf : Entry Bytes → Option Nat
  | .file inode _ => some inode
  | .other => none

/-- What a name holds. -/
def find (files : Files Bytes) (path : Path) : Option (Entry Bytes) := Dict.lookup path files.entries

/-- `st_nlink` of a file. -/
def links (files : Files Bytes) (inode : Nat) : Nat :=
  (files.entries.filter fun item => inodeOf item.2 = some inode).length

/-- The number of a file that does not exist yet. -/
def nextInode (files : Files Bytes) : Nat :=
  (files.entries.map fun item => (inodeOf item.2).getD 0).foldr max 0 + 1

/-- A name with what it holds now. -/
def put (files : Files Bytes) (path : Path) (entry : Entry Bytes) : Files Bytes where
  entries := Dict.assign path entry files.entries
  distinct := Dict.nodup_keys_assign entry files.distinct

/-- No such name any more. -/
def remove (files : Files Bytes) (path : Path) : Files Bytes where
  entries := files.entries.filter fun item => item.1 ≠ path
  distinct := files.distinct.sublist (List.filter_sublist.map Prod.fst)

/-- The names in a directory, in the order of the listing. -/
def namesIn (files : Files Bytes) (directory : Path) : List String :=
  files.entries.filterMap fun item =>
    if item.1.dropLast = directory then item.1.getLast? else none

@[simp] theorem find_put_self (files : Files Bytes) (path : Path) (entry : Entry Bytes) :
    (files.put path entry).find path = some entry := Dict.lookup_assign_self path entry files.entries

theorem find_put_of_ne (files : Files Bytes) {path other : Path} (different : other ≠ path)
    (entry : Entry Bytes) : (files.put path entry).find other = files.find other :=
  Dict.lookup_assign_of_ne different entry files.entries

@[simp] theorem find_remove_self (files : Files Bytes) (path : Path) :
    (files.remove path).find path = none := by
  unfold find remove Dict.lookup
  rw [Option.map_eq_none_iff, List.find?_eq_none]
  intro item member
  have other := of_decide_eq_true (List.mem_filter.mp member).2
  simpa using other

theorem find_remove_of_ne (files : Files Bytes) {path other : Path} (different : other ≠ path) :
    (files.remove path).find other = files.find other := by
  have same : ∀ entries : Dict Path (Entry Bytes),
      Dict.lookup other (entries.filter fun item => item.1 ≠ path) = Dict.lookup other entries := by
    intro entries
    induction entries with
    | nil => rfl
    | cons item entries inductionHypothesis =>
      obtain ⟨name, entry⟩ := item
      by_cases removed : name = path
      · rw [List.filter_cons_of_neg (by simpa using removed), inductionHypothesis,
          Dict.lookup_cons, if_neg (by rw [removed]; exact different.symm)]
      · rw [List.filter_cons_of_pos (by simpa using removed), Dict.lookup_cons, Dict.lookup_cons,
          inductionHypothesis]
  exact same files.entries

theorem mem_entries_iff (files : Files Bytes) (path : Path) (entry : Entry Bytes) :
    (path, entry) ∈ files.entries ↔ files.find path = some entry :=
  Dict.mem_iff_lookup files.distinct path entry

/-- The names of a directory are those below it that hold something. -/
theorem mem_namesIn_iff (files : Files Bytes) (directory : Path) (name : String) :
    name ∈ files.namesIn directory ↔ ∃ entry, files.find (directory ++ [name]) = some entry := by
  unfold namesIn
  rw [List.mem_filterMap]
  constructor
  · rintro ⟨⟨path, entry⟩, member, named⟩
    refine ⟨entry, (files.mem_entries_iff _ _).mp ?_⟩
    split at named
    · rename_i inside
      have whole := List.dropLast_append_getLast? name (Option.mem_def.mpr named)
      rw [← inside, whole]
      exact member
    · cases named
  · rintro ⟨entry, found⟩
    refine ⟨(directory ++ [name], entry), (files.mem_entries_iff _ _).mpr found, ?_⟩
    rw [if_pos List.dropLast_concat]
    exact List.getLast?_concat

/-- A directory lists a name once. -/
theorem nodup_namesIn (files : Files Bytes) (directory : Path) :
    (files.namesIn directory).Nodup := by
  have keys := files.distinct
  unfold namesIn
  generalize files.entries = entries at keys ⊢
  induction entries with
  | nil => exact List.nodup_nil
  | cons item entries inductionHypothesis =>
    obtain ⟨fresh, distinct⟩ := List.nodup_cons.mp keys
    rw [List.filterMap_cons]
    cases named : (if item.1.dropLast = directory then item.1.getLast? else none) with
    | none => exact inductionHypothesis distinct
    | some name =>
      refine List.nodup_cons.mpr ⟨fun member => fresh ?_, inductionHypothesis distinct⟩
      obtain ⟨other, inside, same⟩ := List.mem_filterMap.mp member
      have whole : ∀ item : Path × Entry Bytes,
          (if item.1.dropLast = directory then item.1.getLast? else none) = some name →
          item.1 = directory ++ [name] := by
        intro item named
        split at named
        · rename_i parent
          rw [← parent]
          exact (List.dropLast_append_getLast? name (Option.mem_def.mpr named)).symm
        · cases named
      rw [whole item named, ← whole other same]
      exact List.mem_map_of_mem inside

/-- A file has one name exactly when no other name holds it. -/
theorem links_eq_one_iff (files : Files Bytes) {inode : Nat} {bytes : Bytes}
    (found : files.find path = some (.file inode bytes)) :
    files.links inode = 1 ↔
      ∀ other entry, files.find other = some entry → inodeOf entry = some inode → other = path := by
  have member : (path, Entry.file inode bytes) ∈
      files.entries.filter fun item => inodeOf item.2 = some inode :=
    List.mem_filter.mpr ⟨(files.mem_entries_iff _ _).mpr found, decide_eq_true rfl⟩
  unfold links
  constructor
  · intro single other entry held same
    obtain ⟨only, all⟩ := List.length_eq_one_iff.mp single
    have here : (other, entry) ∈ files.entries.filter fun item => inodeOf item.2 = some inode :=
      List.mem_filter.mpr ⟨(files.mem_entries_iff _ _).mpr held, decide_eq_true same⟩
    rw [all] at here member
    exact congrArg Prod.fst ((List.mem_singleton.mp here).trans (List.mem_singleton.mp member).symm)
  · intro alone
    have inside : ∀ item ∈ files.entries.filter (fun item => inodeOf item.2 = some inode),
        item.1 = path := by
      rintro ⟨other, entry⟩ held
      obtain ⟨held, same⟩ := List.mem_filter.mp held
      exact alone other entry ((files.mem_entries_iff _ _).mp held) (of_decide_eq_true same)
    have names : ((files.entries.filter fun item => inodeOf item.2 = some inode).map
        Prod.fst).Nodup := files.distinct.sublist (List.filter_sublist.map Prod.fst)
    generalize files.entries.filter (fun item => inodeOf item.2 = some inode) = held at *
    match held with
    | [] => cases member
    | [_] => rfl
    | first :: second :: rest =>
      have one := inside first List.mem_cons_self
      have two := inside second (List.mem_cons_of_mem _ List.mem_cons_self)
      rw [List.map_cons, List.map_cons, one, two] at names
      exact absurd List.mem_cons_self (List.nodup_cons.mp names).1

/-! ### Reading -/

section

variable [FileBytes Bytes]

/-- `read_stable_bounded_file`. -/
def readStableBounded (files : Files Bytes) (path : Path) (maximumSize : Nat)
    (expectedSize : Option Nat) (requireSingleLink : Bool) : Except FileFailure Bytes :=
  match files.find path with
  | none => .error .fileNotFound
  | some .other => .error (.valueError "Stored file is not one bounded regular file")
  | some (.file inode bytes) =>
    if (requireSingleLink → files.links inode = 1) ∧ FileBytes.size bytes ≤ maximumSize ∧
        ∀ size ∈ expectedSize, FileBytes.size bytes = size then .ok bytes
    else .error (.valueError "Stored file is not one bounded regular file")

/-- `re.fullmatch(r"[0-9a-f]{64}", text)`. -/
def isHexDigest (text : String) : Bool :=
  text.length = 64 && text.toList.all fun letter => letter ∈ "0123456789abcdef".toList

/-- `read_verified`. -/
def readVerified (files : Files Bytes) (path : Path) (expectedSha256 : String)
    (expectedSize maximumSize : Nat) : Except FileFailure Bytes :=
  if expectedSize = 0 ∨ maximumSize < expectedSize ∨ isHexDigest expectedSha256 = false then
    .error (.valueError "Stored file metadata is invalid")
  else
    match files.readStableBounded path maximumSize (some expectedSize) true with
    | .error failure => .error failure
    | .ok data =>
      if FileBytes.sha256 data = expectedSha256 then .ok data
      else .error (.valueError "Stored file failed its integrity check")

theorem readStableBounded_ok_iff {files : Files Bytes} {maximumSize : Nat}
    {expectedSize : Option Nat} {requireSingleLink : Bool} {data : Bytes} :
    files.readStableBounded path maximumSize expectedSize requireSingleLink = .ok data ↔
      ∃ inode, files.find path = some (.file inode data) ∧
        (requireSingleLink = true → files.links inode = 1) ∧ FileBytes.size data ≤ maximumSize ∧
        ∀ size ∈ expectedSize, FileBytes.size data = size := by
  unfold readStableBounded
  cases found : files.find path with
  | none => simp
  | some entry =>
    cases entry with
    | other => simp
    | file inode bytes =>
      dsimp only
      split
      · rename_i valid
        constructor
        · intro same
          obtain rfl := Except.ok.inj same
          exact ⟨inode, rfl, valid⟩
        · rintro ⟨_, same, -⟩
          obtain ⟨-, rfl⟩ := Entry.file.inj (Option.some.inj same)
          rfl
      · rename_i invalid
        refine ⟨nofun, ?_⟩
        rintro ⟨_, same, valid⟩
        obtain ⟨rfl, rfl⟩ := Entry.file.inj (Option.some.inj same)
        exact absurd valid invalid

/-- A file is verified when it is one file of the size and the digest. -/
theorem readVerified_ok_iff {files : Files Bytes} {expectedSha256 : String}
    {expectedSize maximumSize : Nat} {data : Bytes} :
    files.readVerified path expectedSha256 expectedSize maximumSize = .ok data ↔
      (0 < expectedSize ∧ expectedSize ≤ maximumSize ∧ isHexDigest expectedSha256 = true) ∧
      ∃ inode, files.find path = some (.file inode data) ∧ files.links inode = 1 ∧
        FileBytes.size data = expectedSize ∧ FileBytes.sha256 data = expectedSha256 := by
  unfold readVerified
  split
  · rename_i invalid
    refine ⟨nofun, ?_⟩
    rintro ⟨⟨positive, bounded, digest⟩, -⟩
    rcases invalid with zero | large | other
    · omega
    · omega
    · rw [digest] at other
      cases other
  · rename_i valid
    have positive : 0 < expectedSize := Nat.pos_of_ne_zero fun zero => valid (.inl zero)
    have bounded : expectedSize ≤ maximumSize := Nat.le_of_not_lt fun large => valid (.inr (.inl large))
    have digest : isHexDigest expectedSha256 = true := by
      by_contra other
      exact valid (.inr (.inr ((Bool.not_eq_true _).mp other)))
    cases read : files.readStableBounded path maximumSize (some expectedSize) true with
    | error failure =>
      refine ⟨nofun, ?_⟩
      rintro ⟨-, inode, found, single, size, -⟩
      have accepted : files.readStableBounded path maximumSize (some expectedSize) true =
          .ok data := readStableBounded_ok_iff.mpr ⟨inode, found, fun _ => single,
        by omega, fun _ same => by obtain rfl := Option.mem_some_iff.mp same; exact size⟩
      rw [read] at accepted
      cases accepted
    | ok bytes =>
      obtain ⟨inode, found, single, -, size⟩ := readStableBounded_ok_iff.mp read
      dsimp only
      split
      · rename_i same
        constructor
        · intro accepted
          obtain rfl := Except.ok.inj accepted
          exact ⟨⟨positive, bounded, digest⟩, inode, found, single rfl,
            size _ rfl, same⟩
        · rintro ⟨-, _, here, -⟩
          rw [found] at here
          obtain ⟨-, rfl⟩ := Entry.file.inj (Option.some.inj here)
          rfl
      · rename_i other
        refine ⟨nofun, ?_⟩
        rintro ⟨-, _, here, -, -, sha⟩
        rw [found] at here
        obtain ⟨-, rfl⟩ := Entry.file.inj (Option.some.inj here)
        exact absurd sha other

/-! ### Files that lose names -/

/-- Files of which some names are gone, none of them a second name of its file. -/
def Shrinks (before after : Files Bytes) : Prop :=
  ∀ path, after.find path = before.find path ∨ (after.find path = none ∧
    ∀ inode bytes, before.find path = some (.file inode bytes) → before.links inode = 1)

variable {before after : Files Bytes}

omit [FileBytes Bytes] in
theorem links_of_shrinks (shrinks : Shrinks before after)
    {inode : Nat} {bytes : Bytes} (found : after.find path = some (.file inode bytes)) :
    after.links inode = 1 ↔ before.links inode = 1 := by
  have held : before.find path = some (.file inode bytes) := by
    rcases shrinks path with same | ⟨gone, -⟩
    · rw [← same, found]
    · rw [gone] at found
      cases found
  rw [links_eq_one_iff after found, links_eq_one_iff before held]
  constructor
  · intro single other entry here same
    rcases shrinks other with kept | ⟨-, alone⟩
    · exact single other entry (kept.trans here) same
    · cases entry with
      | other => cases same
      | file number content =>
        obtain rfl := Option.some.inj same
        have one := (links_eq_one_iff before here).mp (alone _ _ here)
        exact (one path _ held rfl).symm
  · intro single other entry here same
    rcases shrinks other with kept | ⟨gone, -⟩
    · exact single other entry (kept.symm.trans here) same
    · rw [gone] at here
      cases here

/-- A name that is still there reads as before. -/
theorem readStableBounded_of_shrinks (shrinks : Shrinks before after)
    {entry : Entry Bytes} (found : after.find path = some entry) (maximumSize : Nat)
    (expectedSize : Option Nat) (requireSingleLink : Bool) :
    after.readStableBounded path maximumSize expectedSize requireSingleLink =
      before.readStableBounded path maximumSize expectedSize requireSingleLink := by
  have held : before.find path = some entry := by
    rcases shrinks path with same | ⟨gone, -⟩
    · rw [← same, found]
    · rw [gone] at found
      cases found
  unfold readStableBounded
  rw [found, held]
  cases entry with
  | other => rfl
  | file inode bytes => simp only [links_of_shrinks shrinks found]

/-- A name that is still there is verified as before. -/
theorem readVerified_of_shrinks (shrinks : Shrinks before after)
    {entry : Entry Bytes} (found : after.find path = some entry)
    (expectedSha256 : String) (expectedSize maximumSize : Nat) :
    after.readVerified path expectedSha256 expectedSize maximumSize =
      before.readVerified path expectedSha256 expectedSize maximumSize := by
  unfold readVerified
  rw [readStableBounded_of_shrinks shrinks found]

end

end Files

/-! ### The storage layer -/

/-- The files, and the rows that the database has committed. -/
structure Disk (Bytes Tables : Type) where
  files : Files Bytes
  tables : Tables

namespace Disk

variable {Bytes Tables Result : Type}

/-- The disk with other files. -/
def withFiles (disk : Disk Bytes Tables) (files : Files Bytes) : Disk Bytes Tables :=
  { disk with files }

/-- A step that only reads. -/
def look (read : Disk Bytes Tables → Except FileFailure Result) :
    Program (Disk Bytes Tables) FileFailure Result :=
  Program.act .osError fun disk => (read disk).map fun value => (value, disk)

/-- `fsync_directory`. -/
def fsyncDirectory : Program (Disk Bytes Tables) FileFailure Unit := look fun _ => .ok ()

/-- `path.unlink(missing_ok=True)`: was there a file? -/
def unlink (path : Path) : Program (Disk Bytes Tables) FileFailure Bool :=
  Program.act .osError fun disk =>
    match disk.files.find path with
    | none => .ok (false, disk)
    | some (.file _ _) => .ok (true, disk.withFiles (disk.files.remove path))
    | some .other => .error .osError

/-- `durable_unlink`. -/
def durableUnlink (path : Path) : Program (Disk Bytes Tables) FileFailure Bool := do
  let found ← unlink path
  if found then
    fsyncDirectory
    return true
  else return false

/-! ### Contracts of the storage layer -/

section

open Program

variable {setting : Setting (Disk Bytes Tables)} {requires stops : Disk Bytes Tables → Prop}
  {fails : FileFailure → Disk Bytes Tables → Prop}

/-- What holds in spite of the changes of others. -/
def Stable (setting : Setting (Disk Bytes Tables)) (holds : Disk Bytes Tables → Prop) : Prop :=
  ∀ before after, holds before → setting.relies before after → holds after

theorem meets_look {read : Disk Bytes Tables → Except FileFailure Result}
    {returns : Result → Disk Bytes Tables → Prop} (stable : Stable setting requires)
    (stopped : ∀ disk, requires disk → stops disk)
    (refused : setting.mayRefuse → ∀ disk, requires disk → fails .osError disk)
    (given : ∀ disk value, requires disk → read disk = .ok value → returns value disk)
    (failed : ∀ disk failure, requires disk → read disk = .error failure → fails failure disk) :
    Meets setting requires (look read) stops returns fails := by
  refine meets_act fun before after required changed => ?_
  have current := stable before after required changed
  refine ⟨stopped after current, fun may => refused may after current, ?_⟩
  cases outcome : read after with
  | ok value => exact given after value current outcome
  | error failure => exact failed after failure current outcome

/-- The removal of a file: from what is required to what holds once it is gone. -/
theorem meets_durableUnlink {removed : Disk Bytes Tables → Prop}
    (stable : Stable setting requires) (stableAfter : Stable setting removed)
    (absent : ∀ disk, requires disk → disk.files.find path = none → removed disk)
    (gone : ∀ disk inode bytes, requires disk →
      disk.files.find path = some (.file inode bytes) →
      removed (disk.withFiles (disk.files.remove path)))
    (plain : ∀ disk, requires disk → disk.files.find path ≠ some .other)
    (stopped : ∀ disk, requires disk → stops disk)
    (stoppedAfter : ∀ disk, removed disk → stops disk)
    (refused : setting.mayRefuse → ∀ disk, requires disk → fails .osError disk)
    (refusedAfter : setting.mayRefuse → ∀ disk, removed disk → fails .osError disk) :
    Meets setting requires (durableUnlink path) stops (fun _ => removed) fails := by
  refine meets_andThen (fun _ => removed) ?_ fun found => ?_
  · refine meets_act fun before after required changed => ?_
    have current := stable before after required changed
    refine ⟨stopped after current, fun may => refused may after current, ?_⟩
    cases here : after.files.find path with
    | none => exact absent after current here
    | some entry =>
      cases entry with
      | other => exact absurd here (plain after current)
      | file inode bytes => exact gone after inode bytes current here
  · cases found with
    | false => exact meets_done fun _ holds => holds
    | true =>
      refine meets_andThen (fun _ => removed) ?_ fun _ => meets_done fun _ holds => holds
      exact meets_look stableAfter stoppedAfter refusedAfter (fun _ _ holds _ => holds) nofun

end

end Disk

end CareerOS
