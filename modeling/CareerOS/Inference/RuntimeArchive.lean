/-
This file is the extraction of the archive of a model runtime: regular files and directories
only, no path outside the destination, no two members at one path, and never more members or
bytes than the limits allow. An extraction that fails leaves nothing at its destination.

What the archive libraries find in an archive is given as its members, each with the bytes
that reading it gives, and the Unicode tables and SHA-256 are parameters.
-/

import CareerOS.Library.FileTree
import CareerOS.Library.Outcome

namespace CareerOS

/-! ### Archives and their members -/

/-- What reading a member gives: nonempty chunks, and whether reading on raises after them. -/
structure ArchiveStream where
  chunks : List (List UInt8)
  broken : Bool := false
  solid : ∀ chunk ∈ chunks, chunk ≠ []

/-- An entry of a ZIP archive; opening one without data raises. -/
structure ZipMember where
  filename : String
  /-- `external_attr >> 16`. -/
  mode : Nat
  fileSize : Int
  data : Option ArchiveStream

/-- The types of a tar member that are told apart. -/
inductive TarKind
  | file
  | directory
  /-- A link, a device or a pipe. -/
  | other
  deriving DecidableEq

/-- A member of a tar archive. -/
structure TarMember where
  name : String
  kind : TarKind
  mode : Nat
  size : Int
  data : Option ArchiveStream

/-- What the extraction asks of a member of either type. -/
structure ArchiveMember where
  name : String
  isDirectory : Bool
  /-- Is it a link or a special file? -/
  forbidden : Bool
  size : Int
  /-- Does its size count towards the size of the archive? -/
  counted : Bool
  data : Option ArchiveStream
  /-- The mode that the written file gets, from the one it was made with. -/
  permissions : Nat → Nat

/-- `stat.S_IFMT(mode)`. -/
def fileType (mode : Nat) : Nat := mode &&& 0o170000

def ZipMember.member (entry : ZipMember) : ArchiveMember where
  name := entry.filename
  isDirectory := entry.filename.toList.getLast? = some '/'
  forbidden := fileType entry.mode = 0o120000 ∨
    (fileType entry.mode ≠ 0 ∧ fileType entry.mode ≠ 0o100000 ∧ fileType entry.mode ≠ 0o040000)
  size := entry.fileSize
  counted := true
  data := entry.data
  permissions mode := if entry.mode &&& 0o100 ≠ 0 then mode ||| 0o100 else mode

def TarMember.member (entry : TarMember) : ArchiveMember where
  name := entry.name
  isDirectory := entry.kind = .directory
  forbidden := entry.kind = .other
  size := entry.size
  counted := entry.kind = .file
  data := entry.data
  permissions _ := entry.mode &&& 0o777

inductive ArchiveType
  | zip
  | tarGz
  deriving DecidableEq

/-- What the archives need of the standard library. -/
class ArchiveTables where
  /-- `str.casefold()`. -/
  casefold : String → String
  /-- `hashlib.sha256(content).hexdigest()`. -/
  sha256 : List UInt8 → String
  casefold_sha256 : ∀ content, casefold (sha256 content) = sha256 content
  /-- `zipfile.ZipFile(path).infolist()`, or nothing when the archive cannot be read. -/
  zipMembers : List UInt8 → Option (List ZipMember)
  /-- `tarfile.open(path, "r:gz").getmembers()`. -/
  tarMembers : List UInt8 → Option (List TarMember)
  /-- Does a name match the pattern that `Path.rglob` is given? -/
  globMatches : String → String → Bool

section

variable [ArchiveTables]

open ArchiveTables

/-- The members of an archive. -/
def archiveMembers (archiveType : ArchiveType) (content : List UInt8) :
    Option (List ArchiveMember) :=
  match archiveType with
  | .zip => (zipMembers content).map fun entries => entries.map ZipMember.member
  | .tarGz => (tarMembers content).map fun entries => entries.map TarMember.member

/-! ### Member paths -/

/-- The parts of `PurePosixPath(text)` below its root. -/
def posixParts (text : List Char) : TreePath :=
  ((text.splitOn '/').filter fun part => part ≠ [] ∧ part ≠ ['.']).map String.ofList

/-- `path.as_posix()` of a relative path. -/
def asPosix (path : TreePath) : String := if path = [] then "." else "/".intercalate path

/-- `_safe_member_path`. -/
def safeMemberPath (name : String) : Except String TreePath := do
  let normalized := name.toList.map fun letter => if letter = '\\' then '/' else letter
  let parts := posixParts normalized
  refuseWhen (normalized = [] ∨ normalized.head? = some '/' ∨ ".." ∈ parts ∨
      parts.any (fun part => ':' ∈ part.toList) = true)
    "archive contains an unsafe member path"
  return parts

/-- The text by which a path is registered. -/
def pathIdentity (path : TreePath) : String := casefold (asPosix path)

/-- `_registered_member_path`, with the identities seen after it. -/
def registeredMemberPath (name : String) (seen : List String) :
    Except String (TreePath × List String) := do
  let path ← safeMemberPath name
  refuseWhen (pathIdentity path ∈ seen) "archive contains duplicate member paths"
  return (path, pathIdentity path :: seen)

/-- `_destination_path`, in a tree without links. -/
def destinationPath (root path : TreePath) : Except String TreePath := do
  let target := root ++ path
  refuseWhen (target ≠ root ∧ ¬root <+: target)
    "archive member escapes the installation directory"
  return target

/-- The checks of the number and the sizes of the members, before any of them is read. -/
def checkArchiveLimits (maxMembers maxUncompressedBytes : Nat) (members : List ArchiveMember) :
    Except String Unit := do
  refuseWhen (maxMembers < members.length) "archive contains too many members"
  refuseWhen (members.any (fun member => member.size < 0) = true)
    "archive contains an invalid member size"
  refuseWhen ((maxUncompressedBytes : Int) <
      ((members.filter ArchiveMember.counted).map ArchiveMember.size).sum)
    "archive exceeds its uncompressed size limit"

/-- The members with their paths, when none is forbidden and no two share an identity. -/
def registerMembers : List String → List ArchiveMember →
    Except String (List (ArchiveMember × TreePath))
  | _, [] => .ok []
  | seen, member :: members => do
    refuseWhen (member.forbidden = true) "archive links and special files are forbidden"
    let (path, seen) ← registeredMemberPath member.name seen
    let others ← registerMembers seen members
    return (member, path) :: others

/-! ### The extraction -/

/-- Why an extraction fails. -/
inductive ExtractFailure
  | unsafeArchive (message : String)
  | cancelled
  /-- An error of the operating system or of the archive library. -/
  | osError
  deriving DecidableEq

/-- `_MAX_ARCHIVE_MEMBERS`. -/
def maxArchiveMembers : Nat := 5000

/-- `_MAX_ARCHIVE_BYTES`. -/
def maxArchiveBytes : Nat := 512 * 1024 * 1024

/-- The limits of an extraction and what stops it: the flag of the owner, or a call of the
operating system that fails, before the archive is opened and at every later poll, by the
number of the member and of the poll. -/
structure ExtractRun where
  maxMembers : Nat := maxArchiveMembers
  maxUncompressedBytes : Nat := maxArchiveBytes
  stopsFirst : Option ExtractFailure := none
  stops : Nat → Nat → Option ExtractFailure := fun _ _ => none

/-- The mode that a new file is made with. -/
def newFileMode : Nat := 0o644

/-- How far an extraction is. -/
structure Extraction where
  tree : FileTree (List UInt8)
  seen : List String
  copied : Nat

/-- An extraction that has failed, before its destination is removed. -/
structure Abandoned where
  failure : ExtractFailure
  tree : FileTree (List UInt8)

/-- What a copy has written, and why it stopped if it did. -/
structure CopiedMember where
  written : List UInt8
  failure : Option ExtractFailure

/-- `_copy_bounded`, from a poll on and with what is written before it. -/
def copyBounded (stops : Nat → Option ExtractFailure) (copied : Nat) (expectedBytes : Int)
    (maxUncompressedBytes : Nat) (broken : Bool) :
    List (List UInt8) → Nat → List UInt8 → CopiedMember
  | [], poll, written =>
    match stops poll with
    | some failure => ⟨written, some failure⟩
    | none =>
      if broken then ⟨written, some .osError⟩
      else if (written.length : Int) ≠ expectedBytes then
        ⟨written, some (.unsafeArchive "archive member size does not match its metadata")⟩
      else ⟨written, none⟩
  | chunk :: chunks, poll, written =>
    match stops poll with
    | some failure => ⟨written, some failure⟩
    | none =>
      if expectedBytes < ((written ++ chunk).length : Int) then
        ⟨written, some (.unsafeArchive "archive member exceeds its declared size")⟩
      else if maxUncompressedBytes < copied + (written ++ chunk).length then
        ⟨written, some (.unsafeArchive "archive exceeds its uncompressed size limit")⟩
      else copyBounded stops copied expectedBytes maxUncompressedBytes broken chunks (poll + 1)
        (written ++ chunk)

/-- A file of the archive is opened, copied to its path, and given its mode. -/
def extractFile (run : ExtractRun) (index : Nat) (member : ArchiveMember) (target : TreePath)
    (progress : Extraction) : Except Abandoned Extraction :=
  match progress.tree.makeDirectories target.dropLast with
  | none => .error ⟨.osError, progress.tree⟩
  | some tree =>
    match member.data with
    | none => .error ⟨.osError, tree⟩
    | some stream =>
      let copy := copyBounded (run.stops index) progress.copied member.size
        run.maxUncompressedBytes stream.broken stream.chunks 1 []
      match tree.writeFile target copy.written (member.permissions newFileMode) with
      | none => .error ⟨.osError, tree⟩
      | some after =>
        match copy.failure with
        | some failure => .error ⟨failure, after⟩
        | none =>
          .ok { progress with tree := after, copied := progress.copied + copy.written.length }

/-- One turn of the loop over the members. -/
def extractMember (run : ExtractRun) (destination : TreePath) (index : Nat)
    (member : ArchiveMember) (progress : Extraction) : Except Abandoned Extraction := do
  let abandon := fun failure => (⟨failure, progress.tree⟩ : Abandoned)
  match run.stops index 0 with
  | some failure => .error (abandon failure)
  | none =>
    refuseWhen (member.forbidden = true)
      (abandon (.unsafeArchive "archive links and special files are forbidden"))
    let (path, seen) ← (registeredMemberPath member.name progress.seen).mapError fun message =>
      abandon (.unsafeArchive message)
    let target ← (destinationPath destination path).mapError fun message =>
      abandon (.unsafeArchive message)
    if member.isDirectory then
      match progress.tree.makeDirectories target with
      | none => .error (abandon .osError)
      | some tree => .ok { progress with tree, seen }
    else extractFile run index member target { progress with seen }

/-- The loop over the members. -/
def extractMembers (run : ExtractRun) (destination : TreePath) :
    Nat → List ArchiveMember → Extraction → Except Abandoned Extraction
  | _, [], progress => .ok progress
  | index, member :: members, progress => do
    let progress ← extractMember run destination index member progress
    extractMembers run destination (index + 1) members progress

/-- What is done inside the destination once it is there. -/
def extractInto (run : ExtractRun) (members : Option (List ArchiveMember))
    (destination : TreePath) (tree : FileTree (List UInt8)) : Except Abandoned Extraction :=
  match run.stopsFirst with
  | some failure => .error ⟨failure, tree⟩
  | none =>
    match members with
    | none => .error ⟨.osError, tree⟩
    | some members =>
      match checkArchiveLimits run.maxMembers run.maxUncompressedBytes members with
      | .error message => .error ⟨.unsafeArchive message, tree⟩
      | .ok _ => extractMembers run destination 0 members { tree, seen := [], copied := 0 }

/-- An extraction that is over. -/
structure ExtractResult where
  failure : Option ExtractFailure
  tree : FileTree (List UInt8)

/-- `safe_extract_archive`. -/
def safeExtractArchive (run : ExtractRun) (members : Option (List ArchiveMember))
    (destination : TreePath) (tree : FileTree (List UInt8)) : ExtractResult :=
  match tree.makeNewDirectory destination with
  | none => ⟨some .osError, tree⟩
  | some opened =>
    match extractInto run members destination opened with
    | .ok progress => ⟨none, progress.tree⟩
    | .error abandoned => ⟨some abandoned.failure, abandoned.tree.removeTree destination⟩

/-! ### What a copy writes -/

/-- The bytes of a member, when reading it gives as many as it declares. -/
def ArchiveMember.content (member : ArchiveMember) : Option (List UInt8) :=
  match member.data with
  | some stream =>
    if stream.broken = false ∧ (stream.chunks.flatten.length : Int) = member.size then
      some stream.chunks.flatten
    else none
  | none => none

omit [ArchiveTables] in
/-- A copy never writes past the limit, and one that succeeds writes what is declared. -/
theorem copyBounded_spec (stops : Nat → Option ExtractFailure) {copied limit : Nat}
    (expected : Int) (broken : Bool) (chunks : List (List UInt8)) (poll : Nat)
    {written : List UInt8} (within : copied + written.length ≤ limit) :
    let copy := copyBounded stops copied expected limit broken chunks poll written
    copied + copy.written.length ≤ limit ∧ (copy.failure = none →
      broken = false ∧ copy.written = written ++ chunks.flatten ∧
        (copy.written.length : Int) = expected) := by
  induction chunks generalizing poll written with
  | nil =>
    unfold copyBounded
    split
    · exact ⟨within, nofun⟩
    · split
      · exact ⟨within, nofun⟩
      · rename_i whole
        split
        · exact ⟨within, nofun⟩
        · rename_i size
          refine ⟨within, fun _ => ⟨(Bool.not_eq_true _).mp whole, ?_, not_not.mp size⟩⟩
          rw [List.flatten_nil, List.append_nil]
  | cons chunk chunks inductionHypothesis =>
    unfold copyBounded
    split
    · exact ⟨within, nofun⟩
    · split
      · exact ⟨within, nofun⟩
      · split
        · exact ⟨within, nofun⟩
        · rename_i fits
          have next := inductionHypothesis (poll + 1) (Nat.le_of_not_lt fits)
          refine ⟨next.1, fun succeeded => ?_⟩
          obtain ⟨whole, same, size⟩ := next.2 succeeded
          refine ⟨whole, ?_, size⟩
          rw [same, List.flatten_cons, List.append_assoc]

/-! ### Registered paths -/

variable {path : TreePath}

theorem registeredMemberPath_ok {name : String} {seen after : List String}
    (registered : registeredMemberPath name seen = .ok (path, after)) :
    pathIdentity path ∉ seen ∧ after = pathIdentity path :: seen := by
  unfold registeredMemberPath at registered
  obtain ⟨found, -, registered⟩ := bind_ok_iff.mp registered
  obtain ⟨_, fresh, registered⟩ := bind_ok_iff.mp registered
  obtain ⟨rfl, rfl⟩ := Prod.mk.inj (pure_ok_iff.mp registered)
  exact ⟨refuseWhen_ok_iff.mp fresh, rfl⟩

omit [ArchiveTables] in
/-- No member escapes the destination. -/
theorem destinationPath_eq (root path : TreePath) :
    destinationPath root path = .ok (root ++ path) := by
  unfold destinationPath
  refine bind_ok_iff.mpr ⟨(), refuseWhen_ok_iff.mpr ?_, rfl⟩
  rintro ⟨-, outside⟩
  exact outside (List.prefix_append root path)

variable {members : List ArchiveMember} {checked : List (ArchiveMember × TreePath)}

/-- The registered members have different identities, none of them seen before. -/
theorem registerMembers_distinct {seen : List String}
    (registered : registerMembers seen members = .ok checked) :
    (checked.map fun item => pathIdentity item.2).Nodup ∧
      ∀ item ∈ checked, pathIdentity item.2 ∉ seen := by
  induction members generalizing seen checked with
  | nil =>
    obtain rfl := Except.ok.inj registered
    exact ⟨List.nodup_nil, nofun⟩
  | cons member members inductionHypothesis =>
    unfold registerMembers at registered
    obtain ⟨_, -, registered⟩ := bind_ok_iff.mp registered
    obtain ⟨⟨path, after⟩, here, registered⟩ := bind_ok_iff.mp registered
    obtain ⟨others, there, registered⟩ := bind_ok_iff.mp registered
    obtain rfl := pure_ok_iff.mp registered
    obtain ⟨fresh, rfl⟩ := registeredMemberPath_ok here
    obtain ⟨distinct, later⟩ := inductionHypothesis there
    rw [List.map_cons, List.nodup_cons]
    refine ⟨⟨fun again => ?_, distinct⟩, ?_⟩
    · obtain ⟨item, member, same⟩ := List.mem_map.mp again
      exact later item member (same ▸ List.mem_cons_self)
    · intro item inside
      rcases List.mem_cons.mp inside with rfl | rest
      · exact fresh
      · exact fun known => later item rest (List.mem_cons_of_mem _ known)

/-- Registering keeps the members and their order. -/
theorem registerMembers_members {seen : List String}
    (registered : registerMembers seen members = .ok checked) :
    checked.map Prod.fst = members := by
  induction members generalizing seen checked with
  | nil =>
    obtain rfl := Except.ok.inj registered
    rfl
  | cons member members inductionHypothesis =>
    unfold registerMembers at registered
    obtain ⟨_, -, registered⟩ := bind_ok_iff.mp registered
    obtain ⟨_, -, registered⟩ := bind_ok_iff.mp registered
    obtain ⟨others, there, registered⟩ := bind_ok_iff.mp registered
    obtain rfl := pure_ok_iff.mp registered
    rw [List.map_cons, inductionHypothesis there]

/-- No two registered members have one path. -/
theorem registerMembers_paths
    (registered : registerMembers [] members = .ok checked) : (checked.map Prod.snd).Nodup := by
  have identities := (registerMembers_distinct registered).1
  have maps : (checked.map fun item => pathIdentity item.2) =
      (checked.map Prod.snd).map pathIdentity := by
    rw [List.map_map]
    rfl
  rw [maps] at identities
  exact identities.of_map _

/-! ### What an extraction has done -/

/-- A tree that differs from another one only at a path and below it. -/
def SameOutside (root : TreePath) (tree before : FileTree (List UInt8)) : Prop :=
  ∀ path, ¬root <+: path → tree.node path = before.node path

/-- The extraction of the members that are registered so far: the files at its destination
are theirs, with their bytes, and nothing else has changed. -/
structure Laid (run : ExtractRun) (destination : TreePath) (opened : FileTree (List UInt8))
    (laid : List (ArchiveMember × TreePath)) (progress : Extraction) : Prop where
  base : progress.tree.node destination = some .directory
  files : ∀ path content mode,
    progress.tree.node (destination ++ path) = some (.file content mode) ↔
      ∃ item ∈ laid, item.1.isDirectory = false ∧ item.2 = path ∧
        item.1.content = some content ∧ item.1.permissions newFileMode = mode
  plain : ∀ path node, progress.tree.node (destination ++ path) = some node →
    node = .directory ∨ ∃ content mode, node = .file content mode
  outside : SameOutside destination progress.tree opened
  seen : ∀ item ∈ laid, pathIdentity item.2 ∈ progress.seen
  used : progress.tree.usage List.length destination = progress.copied
  bounded : progress.copied ≤ run.maxUncompressedBytes

/-- What holds of the tree of an extraction at any moment. -/
structure ContainedExtraction (run : ExtractRun) (destination : TreePath)
    (opened tree : FileTree (List UInt8)) : Prop where
  outside : SameOutside destination tree opened
  bounded : tree.usage List.length destination ≤ run.maxUncompressedBytes

section

omit [ArchiveTables]

variable {run : ExtractRun} {destination : TreePath} {opened : FileTree (List UInt8)}

variable {tree after : FileTree (List UInt8)}

/-- New directories on the way to a member, at the destination or below it. -/
theorem outside_makeDirectories (base : tree.node destination = some .directory)
    (near : destination <+: path ∨ path <+: destination)
    (made : tree.makeDirectories path = some after) : SameOutside destination after tree := by
  obtain ⟨-, rfl⟩ := FileTree.makeDirectories_some_iff.mp made
  intro other outside
  rw [FileTree.node_withDirectories]
  split
  · rename_i above
    have before : other <+: destination := by
      rcases near with below | shorter
      · exact (List.prefix_or_prefix_of_prefix above below).resolve_right outside
      · exact above.trans shorter
    rcases tree.node_of_isPrefix before (by rw [base]; exact nofun) with rfl | directory
    · exact absurd List.prefix_rfl outside
    · exact directory.symm
  · rfl

/-- New directories keep the directories that are there. -/
theorem base_makeDirectories {path other : TreePath}
    (base : tree.node other = some .directory) (made : tree.makeDirectories path = some after) :
    after.node other = some .directory := by
  obtain ⟨-, rfl⟩ := FileTree.makeDirectories_some_iff.mp made
  rw [FileTree.node_withDirectories, base]
  exact ite_self _

theorem usage_makeDirectories (made : tree.makeDirectories path = some after) (root : TreePath) :
    after.usage List.length root = tree.usage List.length root :=
  FileTree.usage_congr List.length fun other _ content mode =>
    FileTree.file_makeDirectories made other content mode

end

variable {run : ExtractRun} {destination : TreePath} {opened : FileTree (List UInt8)}
  {laid : List (ArchiveMember × TreePath)} {progress : Extraction}

theorem Laid.contained (state : Laid run destination opened laid progress) :
    ContainedExtraction run destination opened progress.tree :=
  ⟨state.outside, state.used.trans_le state.bounded⟩

/-- Directories made on the way change nothing that matters. -/
theorem Laid.withDirectories (state : Laid run destination opened laid progress)
    (near : destination <+: path ∨ path <+: destination)
    {after : FileTree (List UInt8)} (made : progress.tree.makeDirectories path = some after) :
    Laid run destination opened laid { progress with tree := after } where
  base := base_makeDirectories state.base made
  files other content mode :=
    (FileTree.file_makeDirectories made _ content mode).trans (state.files other content mode)
  plain other node present := by
    obtain ⟨-, rfl⟩ := FileTree.makeDirectories_some_iff.mp made
    rw [FileTree.node_withDirectories] at present
    split at present
    · exact .inl (Option.some.inj present).symm
    · exact state.plain other node present
  outside other apart :=
    (outside_makeDirectories state.base near made other apart).trans (state.outside other apart)
  seen := state.seen
  used := (usage_makeDirectories made destination).trans state.used
  bounded := state.bounded

variable {member : ArchiveMember}

/-- A directory is registered. -/
theorem Laid.withDirectory (state : Laid run destination opened laid progress)
    (directory : member.isDirectory = true) (path : TreePath) :
    Laid run destination opened (laid ++ [(member, path)])
      { progress with seen := pathIdentity path :: progress.seen } where
  base := state.base
  files other content mode := by
    rw [state.files other content mode]
    constructor
    · rintro ⟨item, inside, rest⟩
      exact ⟨item, List.mem_append_left _ inside, rest⟩
    · rintro ⟨item, inside, file, rest⟩
      rcases List.mem_append.mp inside with before | new
      · exact ⟨item, before, file, rest⟩
      · obtain rfl := List.mem_singleton.mp new
        rw [directory] at file
        cases file
  plain := state.plain
  outside := state.outside
  seen item inside := by
    rcases List.mem_append.mp inside with before | new
    · exact List.mem_cons_of_mem _ (state.seen item before)
    · obtain rfl := List.mem_singleton.mp new
      exact List.mem_cons_self
  used := state.used
  bounded := state.bounded

/-- Nothing but a directory stands at a path that is not registered. -/
theorem Laid.absent (state : Laid run destination opened laid progress)
    (fresh : pathIdentity path ∉ progress.seen)
    (writable : progress.tree.node (destination ++ path) = none ∨
      ∃ content mode, progress.tree.node (destination ++ path) = some (.file content mode)) :
    progress.tree.node (destination ++ path) = none := by
  rcases writable with absent | ⟨content, mode, file⟩
  · exact absent
  · obtain ⟨item, inside, -, rfl, -⟩ := (state.files path content mode).mp file
    exact absurd (state.seen item inside) fresh

/-- A file is written and registered. -/
theorem Laid.withFile (state : Laid run destination opened laid progress)
    (file : member.isDirectory = false)
    (fresh : pathIdentity path ∉ progress.seen) {content : List UInt8}
    (whole : member.content = some content)
    (fits : progress.copied + content.length ≤ run.maxUncompressedBytes)
    {after : FileTree (List UInt8)}
    (written : progress.tree.writeFile (destination ++ path) content
      (member.permissions newFileMode) = some after) :
    Laid run destination opened (laid ++ [(member, path)])
      { tree := after, seen := pathIdentity path :: progress.seen,
        copied := progress.copied + content.length } := by
  obtain ⟨writable, nodes⟩ := FileTree.writeFile_some written
  have absent := state.absent fresh writable
  have apart : destination ≠ destination ++ path := by
    intro same
    rw [← same, state.base] at absent
    cases absent
  exact {
    base := by
      dsimp only
      rw [nodes, Function.update_of_ne apart, state.base]
    files := by
      intro other bytes mode
      dsimp only
      rw [nodes]
      by_cases here : other = path
      · subst here
        rw [Function.update_self]
        constructor
        · intro same
          obtain ⟨rfl, rfl⟩ := TreeNode.file.inj (Option.some.inj same)
          exact ⟨_, List.mem_append_right _ (List.mem_singleton.mpr rfl), file, rfl, whole, rfl⟩
        · rintro ⟨item, inside, -, same, there, rfl⟩
          rcases List.mem_append.mp inside with before | new
          · rw [← same] at fresh
            exact absurd (state.seen item before) fresh
          · obtain rfl := List.mem_singleton.mp new
            rw [whole] at there
            obtain rfl := Option.some.inj there
            rfl
      · rw [Function.update_of_ne fun same => here (List.append_cancel_left same),
          state.files other bytes mode]
        constructor
        · rintro ⟨item, inside, rest⟩
          exact ⟨item, List.mem_append_left _ inside, rest⟩
        · rintro ⟨item, inside, kind, same, rest⟩
          rcases List.mem_append.mp inside with before | new
          · exact ⟨item, before, kind, same, rest⟩
          · obtain rfl := List.mem_singleton.mp new
            exact absurd same.symm here
    plain := by
      intro other node present
      dsimp only at present
      rw [nodes] at present
      by_cases here : destination ++ other = destination ++ path
      · rw [here, Function.update_self] at present
        exact .inr ⟨content, _, (Option.some.inj present).symm⟩
      · rw [Function.update_of_ne here] at present
        exact state.plain other node present
    outside := by
      intro other outer
      have different : other ≠ destination ++ path := by
        rintro rfl
        exact outer (List.prefix_append destination path)
      dsimp only
      rw [nodes, Function.update_of_ne different]
      exact state.outside other outer
    seen := by
      intro item inside
      rcases List.mem_append.mp inside with before | new
      · exact List.mem_cons_of_mem _ (state.seen item before)
      · obtain rfl := List.mem_singleton.mp new
        exact List.mem_cons_self
    used := by
      dsimp only
      rw [FileTree.usage_of_update List.length (List.prefix_append destination path) absent nodes,
        state.used]
    bounded := fits }

/-! ### One member, then all of them -/

/-- What the extraction of a file does. -/
theorem extractFile_spec (state : Laid run destination opened laid progress) (index : Nat)
    (file : member.isDirectory = false) (fresh : pathIdentity path ∉ progress.seen) :
    (∀ after, extractFile run index member (destination ++ path)
        { progress with seen := pathIdentity path :: progress.seen } = .ok after →
      member.content ≠ none ∧ after.seen = pathIdentity path :: progress.seen ∧
        Laid run destination opened (laid ++ [(member, path)]) after) ∧
    ∀ abandoned, extractFile run index member (destination ++ path)
        { progress with seen := pathIdentity path :: progress.seen } = .error abandoned →
      ContainedExtraction run destination opened abandoned.tree := by
  have near : destination <+: (destination ++ path).dropLast ∨
      (destination ++ path).dropLast <+: destination := by
    by_cases top : path = []
    · rw [top, List.append_nil]
      exact .inr (List.dropLast_prefix destination)
    · rw [List.dropLast_append_of_ne_nil top]
      exact .inl (List.prefix_append destination _)
  unfold extractFile
  dsimp only
  cases made : progress.tree.makeDirectories (destination ++ path).dropLast with
  | none =>
    refine ⟨nofun, ?_⟩
    rintro _ ⟨⟩
    exact state.contained
  | some tree =>
    have ready := state.withDirectories near made
    dsimp only
    cases data : member.data with
    | none =>
      refine ⟨nofun, ?_⟩
      rintro _ ⟨⟩
      exact ready.contained
    | some stream =>
      dsimp only
      have copied := copyBounded_spec (run.stops index) member.size stream.broken stream.chunks 1
        (show progress.copied + ([] : List UInt8).length ≤ run.maxUncompressedBytes from
          state.bounded)
      dsimp only at copied
      generalize copyBounded (run.stops index) progress.copied member.size
        run.maxUncompressedBytes stream.broken stream.chunks 1 [] = copy at copied ⊢
      cases written : tree.writeFile (destination ++ path) copy.written
        (member.permissions newFileMode) with
      | none =>
        refine ⟨nofun, ?_⟩
        rintro _ ⟨⟩
        exact ready.contained
      | some after =>
        dsimp only
        obtain ⟨writable, nodes⟩ := FileTree.writeFile_some written
        have absent := ready.absent fresh writable
        cases stopped : copy.failure with
        | some failure =>
          refine ⟨nofun, ?_⟩
          rintro _ ⟨⟩
          refine ⟨fun other outer => ?_, ?_⟩
          · have different : other ≠ destination ++ path := by
              rintro rfl
              exact outer (List.prefix_append destination path)
            dsimp only
            rw [nodes, Function.update_of_ne different]
            exact ready.outside other outer
          · dsimp only
            rw [FileTree.usage_of_update List.length (List.prefix_append destination path) absent
              nodes, ready.used]
            exact copied.1
        | none =>
          refine ⟨?_, nofun⟩
          rintro _ ⟨⟩
          obtain ⟨whole, same, size⟩ := copied.2 stopped
          rw [List.nil_append] at same
          have content : member.content = some copy.written := by
            unfold ArchiveMember.content
            rw [data]
            dsimp only
            rw [if_pos ⟨whole, same ▸ size⟩, same]
          refine ⟨by rw [content]; exact nofun, rfl, ?_⟩
          exact ready.withFile file fresh content copied.1 written

/-- What one turn of the loop does. -/
theorem extractMember_spec (state : Laid run destination opened laid progress) (index : Nat)
    (member : ArchiveMember) :
    (∀ after, extractMember run destination index member progress = .ok after →
      member.forbidden = false ∧ (member.isDirectory = false → member.content ≠ none) ∧
      ∃ path, registeredMemberPath member.name progress.seen = .ok (path, after.seen) ∧
        Laid run destination opened (laid ++ [(member, path)]) after) ∧
    ∀ abandoned, extractMember run destination index member progress = .error abandoned →
      ContainedExtraction run destination opened abandoned.tree := by
  unfold extractMember
  dsimp only
  cases stopped : run.stops index 0 with
  | some failure =>
    refine ⟨nofun, ?_⟩
    rintro _ ⟨⟩
    exact state.contained
  | none =>
    dsimp only
    by_cases forbidden : member.forbidden = true
    · rw [refuseWhen, if_pos forbidden]
      refine ⟨nofun, ?_⟩
      rintro _ ⟨⟩
      exact state.contained
    · have allowed := (Bool.not_eq_true _).mp forbidden
      rw [refuseWhen, if_neg forbidden]
      dsimp only [bind, Except.bind]
      cases registered : registeredMemberPath member.name progress.seen with
      | error message =>
        refine ⟨nofun, ?_⟩
        rintro _ ⟨⟩
        exact state.contained
      | ok found =>
        obtain ⟨path, seen⟩ := found
        obtain ⟨fresh, rfl⟩ := registeredMemberPath_ok registered
        dsimp only [Except.mapError]
        rw [destinationPath_eq]
        dsimp only
        split
        · rename_i directory
          cases made : progress.tree.makeDirectories (destination ++ path) with
          | none =>
            refine ⟨nofun, ?_⟩
            rintro _ ⟨⟩
            exact state.contained
          | some tree =>
            refine ⟨?_, nofun⟩
            rintro _ ⟨⟩
            have ready := state.withDirectories (.inl (List.prefix_append destination path)) made
            refine ⟨allowed, fun file => ?_, path, rfl, ready.withDirectory directory path⟩
            rw [directory] at file
            cases file
        · rename_i file
          obtain ⟨done, failed⟩ := extractFile_spec state index ((Bool.not_eq_true _).mp file) fresh
          refine ⟨fun after extracted => ?_, failed⟩
          obtain ⟨content, seen, next⟩ := done after extracted
          exact ⟨allowed, fun _ => content, path, by rw [seen], next⟩

/-- What the loop does, from any point on. -/
theorem extractMembers_spec (members : List ArchiveMember) (index : Nat)
    (state : Laid run destination opened laid progress) :
    (∀ after, extractMembers run destination index members progress = .ok after →
      (∀ member ∈ members, member.isDirectory = false → member.content ≠ none) ∧
      ∃ checked, registerMembers progress.seen members = .ok checked ∧
        Laid run destination opened (laid ++ checked) after) ∧
    ∀ abandoned, extractMembers run destination index members progress = .error abandoned →
      ContainedExtraction run destination opened abandoned.tree := by
  induction members generalizing index laid progress with
  | nil =>
    refine ⟨?_, nofun⟩
    rintro _ ⟨⟩
    exact ⟨nofun, [], rfl, by rw [List.append_nil]; exact state⟩
  | cons member members inductionHypothesis =>
    obtain ⟨done, failed⟩ := extractMember_spec state index member
    unfold extractMembers
    cases turn : extractMember run destination index member progress with
    | error abandoned =>
      refine ⟨nofun, ?_⟩
      rintro _ ⟨⟩
      exact failed abandoned turn
    | ok next =>
      obtain ⟨allowed, content, path, registered, reached⟩ := done next turn
      obtain ⟨later, stopped⟩ := inductionHypothesis (index + 1) reached
      refine ⟨fun after extracted => ?_, stopped⟩
      obtain ⟨contents, checked, others, final⟩ := later after extracted
      refine ⟨List.forall_mem_cons.mpr ⟨content, contents⟩, (member, path) :: checked, ?_, ?_⟩
      · unfold registerMembers
        exact bind_ok_iff.mpr ⟨(), refuseWhen_ok_iff.mpr (ne_true_of_eq_false allowed),
          bind_ok_iff.mpr ⟨_, registered, bind_ok_iff.mpr ⟨_, others, rfl⟩⟩⟩
      · rw [List.append_assoc] at final
        exact final

/-! ### The whole extraction -/

variable {tree opened : FileTree (List UInt8)}

omit [ArchiveTables] in
/-- A new destination holds nothing, in a tree that is otherwise the one before. -/
theorem makeNewDirectory_some (made : tree.makeNewDirectory destination = some opened) :
    tree.node destination = none ∧
      (∀ above, above <+: destination → tree.node above = none ∨
        tree.node above = some .directory) ∧ opened = tree.withDirectories destination := by
  unfold FileTree.makeNewDirectory at made
  split at made
  · cases made
  · rename_i absent
    exact ⟨Option.not_isSome_iff_eq_none.mp absent, FileTree.makeDirectories_some_iff.mp made⟩

omit [ArchiveTables] in
/-- What stands in a new destination. -/
theorem node_opened (made : tree.makeNewDirectory destination = some opened) (path : TreePath) :
    opened.node (destination ++ path) = if path = [] then some .directory else none := by
  obtain ⟨absent, -, rfl⟩ := makeNewDirectory_some made
  rw [FileTree.node_withDirectories]
  by_cases top : path = []
  · rw [top, List.append_nil, if_pos List.prefix_rfl, if_pos rfl]
  · have below : ¬destination ++ path <+: destination := by
      intro longer
      have size := longer.length_le
      rw [List.length_append] at size
      exact top (List.length_eq_zero_iff.mp (by omega))
    rw [if_neg below, if_neg top]
    exact tree.node_eq_none_of_isPrefix (List.prefix_append destination path) absent

omit [ArchiveTables] in
/-- A new destination makes its missing ancestors and changes nothing else outside. -/
theorem outside_opened (made : tree.makeNewDirectory destination = some opened) (path : TreePath) :
    (¬path <+: destination ∧ opened.node path = tree.node path) ∨
      (path <+: destination ∧ opened.node path = some .directory ∧
        (tree.node path = none ∨ tree.node path = some .directory)) := by
  obtain ⟨-, clear, rfl⟩ := makeNewDirectory_some made
  rw [FileTree.node_withDirectories]
  by_cases above : path <+: destination
  · rw [if_pos above]
    exact .inr ⟨above, rfl, clear path above⟩
  · rw [if_neg above]
    exact .inl ⟨above, rfl⟩

/-- Nothing is extracted yet. -/
theorem laid_nil (run : ExtractRun) (made : tree.makeNewDirectory destination = some opened) :
    Laid run destination opened [] { tree := opened, seen := [], copied := 0 } := by
  have nodes := node_opened made
  have noFile : ∀ path content mode,
      opened.node (destination ++ path) ≠ some (.file content mode) := by
    intro path content mode file
    rw [nodes path] at file
    split at file
    · cases file
    · cases file
  exact {
    base := by
      have here := nodes []
      rw [List.append_nil] at here
      exact here
    files := fun path content mode => by
      refine ⟨fun file => absurd file (noFile path content mode), ?_⟩
      rintro ⟨item, inside, -⟩
      cases inside
    plain := fun path node present => by
      rw [nodes path] at present
      split at present
      · exact .inl (Option.some.inj present).symm
      · cases present
    outside := fun _ _ => rfl
    seen := nofun
    used := by
      have none : opened.filesUnder destination = [] := by
        refine List.eq_nil_iff_forall_not_mem.mpr fun path member => ?_
        obtain ⟨⟨rest, rfl⟩, content, mode, file⟩ := FileTree.mem_filesUnder.mp member
        exact noFile rest content mode file
      unfold FileTree.usage
      rw [none]
      rfl
    bounded := Nat.zero_le _ }

omit [ArchiveTables] in
theorem checkArchiveLimits_ok_iff {maxMembers maxBytes : Nat}
    {outcome : Unit} : checkArchiveLimits maxMembers maxBytes members = .ok outcome ↔
      members.length ≤ maxMembers ∧ members.any (fun member => member.size < 0) = false ∧
        ((members.filter ArchiveMember.counted).map ArchiveMember.size).sum ≤ (maxBytes : Int) := by
  unfold checkArchiveLimits
  simp only [bind_ok_iff, refuseWhen_ok_iff, Nat.not_lt, Int.not_lt, Bool.not_eq_true,
    exists_const]

/-- A tree at a moment of the loop: when so many of the members have had their turn, or when
one of them has stopped it. -/
def extractionMoment (run : ExtractRun) (members : List ArchiveMember) (destination : TreePath)
    (opened : FileTree (List UInt8)) (count : Nat) : FileTree (List UInt8) :=
  match extractMembers run destination 0 (members.take count)
    { tree := opened, seen := [], copied := 0 } with
  | .ok progress => progress.tree
  | .error abandoned => abandoned.tree

variable {tree : FileTree (List UInt8)}

theorem extractionMoment_contained
    (made : tree.makeNewDirectory destination = some opened) (members : List ArchiveMember)
    (count : Nat) :
    ContainedExtraction run destination opened
      (extractionMoment run members destination opened count) := by
  obtain ⟨done, failed⟩ := extractMembers_spec (members.take count) 0 (laid_nil run made)
  unfold extractionMoment
  split
  · rename_i progress reached
    obtain ⟨-, checked, -, state⟩ := done progress reached
    exact state.contained
  · rename_i abandoned stopped
    exact failed abandoned stopped

/-- What is left inside the destination, and what an extraction that succeeds has done. -/
theorem extractInto_spec (run : ExtractRun) (made : tree.makeNewDirectory destination = some opened)
    (members : Option (List ArchiveMember)) :
    (∀ progress, extractInto run members destination opened = .ok progress →
      ∃ listed checked, members = some listed ∧
        checkArchiveLimits run.maxMembers run.maxUncompressedBytes listed = .ok () ∧
        (∀ member ∈ listed, member.isDirectory = false → member.content ≠ none) ∧
        registerMembers [] listed = .ok checked ∧ Laid run destination opened checked progress) ∧
    ∀ abandoned, extractInto run members destination opened = .error abandoned →
      ContainedExtraction run destination opened abandoned.tree := by
  have start := laid_nil run made
  unfold extractInto
  split
  · refine ⟨nofun, ?_⟩
    rintro _ ⟨⟩
    exact start.contained
  · split
    · refine ⟨nofun, ?_⟩
      rintro _ ⟨⟩
      exact start.contained
    · rename_i listed
      split
      · refine ⟨nofun, ?_⟩
        rintro _ ⟨⟩
        exact start.contained
      · rename_i limits
        obtain ⟨done, failed⟩ := extractMembers_spec listed 0 start
        refine ⟨fun progress extracted => ?_, failed⟩
        obtain ⟨contents, checked, registered, state⟩ := done progress extracted
        exact ⟨listed, checked, rfl, limits, contents, registered, state⟩

/-- What an extraction that succeeds has done. -/
theorem safeExtractArchive_succeeded {members : Option (List ArchiveMember)}
    (succeeded : (safeExtractArchive run members destination tree).failure = none) :
    ∃ opened listed checked progress, tree.makeNewDirectory destination = some opened ∧
      members = some listed ∧
      checkArchiveLimits run.maxMembers run.maxUncompressedBytes listed = .ok () ∧
      (∀ member ∈ listed, member.isDirectory = false → member.content ≠ none) ∧
      registerMembers [] listed = .ok checked ∧
      (safeExtractArchive run members destination tree).tree = progress.tree ∧
      Laid run destination opened checked progress := by
  unfold safeExtractArchive at succeeded ⊢
  split
  · rename_i refused
    rw [refused] at succeeded
    cases succeeded
  · rename_i opened made
    rw [made] at succeeded
    dsimp only at succeeded
    split at succeeded
    · rename_i progress extracted
      obtain ⟨listed, checked, same, limits, contents, registered, state⟩ :=
        (extractInto_spec run made members).1 progress extracted
      exact ⟨opened, listed, checked, progress, made, same, limits, contents, registered, rfl,
        state⟩
    · cases succeeded

/-- The members that have had their turn have paths of their own, and the files at the
destination are theirs. -/
theorem onePath_of_extracted (made : tree.makeNewDirectory destination = some opened)
    (reached : extractMembers run destination 0 members
      { tree := opened, seen := [], copied := 0 } = .ok progress) :
    ∃ checked, registerMembers [] members = .ok checked ∧
      checked.map Prod.fst = members ∧ (checked.map Prod.snd).Nodup ∧
      ∀ path, (∃ content mode, progress.tree.node (destination ++ path) =
        some (.file content mode)) ↔
          ∃ member, (member, path) ∈ checked ∧ member.isDirectory = false := by
  obtain ⟨contents, checked, registered, state⟩ :=
    (extractMembers_spec members 0 (laid_nil run made)).1 progress reached
  have same := registerMembers_members registered
  refine ⟨checked, registered, same, registerMembers_paths registered, fun path => ?_⟩
  constructor
  · rintro ⟨content, mode, file⟩
    obtain ⟨⟨member, _⟩, inside, plain, rfl, -⟩ := (state.files path content mode).mp file
    exact ⟨member, inside, plain⟩
  · rintro ⟨member, inside, plain⟩
    have listedHere : member ∈ members := by
      rw [← same]
      exact List.mem_map_of_mem inside
    obtain ⟨content, whole⟩ := Option.ne_none_iff_exists'.mp (contents member listedHere plain)
    exact ⟨content, _, (state.files path content _).mpr ⟨_, inside, plain, rfl, whole, rfl⟩⟩

/-- An extraction stays inside its destination and its limits, gives every member a path of
its own, and leaves no destination behind that it has made and not filled. -/
structure ExtractionDiscipline (run : ExtractRun) (members : Option (List ArchiveMember))
    (destination : TreePath) (tree : FileTree (List UInt8)) : Prop where
  /-- Outside the destination only its missing ancestors are made. -/
  outside : ∀ path, ¬destination <+: path →
    (safeExtractArchive run members destination tree).tree.node path = tree.node path ∨
      (path <+: destination ∧ tree.node path = none ∧
        (safeExtractArchive run members destination tree).tree.node path = some .directory)
  /-- So it is at every moment, and the bytes written so far are within the limit. -/
  moments : ∀ opened listed count, tree.makeNewDirectory destination = some opened →
    members = some listed →
    ContainedExtraction run destination opened
      (extractionMoment run listed destination opened count)
  /-- The members that have had their turn have paths of their own. -/
  onePath : ∀ opened listed count progress, tree.makeNewDirectory destination = some opened →
    members = some listed →
    extractMembers run destination 0 (listed.take count)
      { tree := opened, seen := [], copied := 0 } = .ok progress →
    ∃ checked, registerMembers [] (listed.take count) = .ok checked ∧
      checked.map Prod.fst = listed.take count ∧ (checked.map Prod.snd).Nodup ∧
      ∀ path, (∃ content mode, progress.tree.node (destination ++ path) =
        some (.file content mode)) ↔
          ∃ member, (member, path) ∈ checked ∧ member.isDirectory = false
  limits : (safeExtractArchive run members destination tree).failure = none →
    ∃ listed, members = some listed ∧ listed.length ≤ run.maxMembers ∧
      (safeExtractArchive run members destination tree).tree.usage List.length destination ≤
        run.maxUncompressedBytes
  /-- A failure leaves nothing at a destination that was free, and a destination that was
  there before as it was. -/
  removed : (safeExtractArchive run members destination tree).failure ≠ none →
    (tree.node destination = none → ∀ path, destination <+: path →
      (safeExtractArchive run members destination tree).tree.node path = none) ∧
    (tree.node destination ≠ none →
      (safeExtractArchive run members destination tree).tree = tree)

/-- The extraction is disciplined, whatever the archive holds and whatever stops it. -/
theorem safeExtractArchive_discipline (run : ExtractRun) (members : Option (List ArchiveMember))
    (destination : TreePath) (tree : FileTree (List UInt8)) :
    ExtractionDiscipline run members destination tree := by
  cases made : tree.makeNewDirectory destination with
  | none =>
    have refused : safeExtractArchive run members destination tree = ⟨some .osError, tree⟩ := by
      unfold safeExtractArchive
      rw [made]
    refine ⟨?_, fun _ listed count free _ => extractionMoment_contained free listed count,
        fun _ _ _ _ free _ => onePath_of_extracted free, ?_, ?_⟩
    · rw [refused]
      exact fun _ _ => .inl rfl
    · rw [refused]
      exact nofun
    · rw [refused]
      exact fun _ => ⟨fun absent path below => tree.node_eq_none_of_isPrefix below absent,
        fun _ => rfl⟩
  | some opened =>
    have absent := (makeNewDirectory_some made).1
    have outer : ∀ after : FileTree (List UInt8), SameOutside destination after opened →
        ∀ path, ¬destination <+: path → after.node path = tree.node path ∨
          (path <+: destination ∧ tree.node path = none ∧
            after.node path = some .directory) := by
      intro after same path apart
      rw [same path apart]
      rcases outside_opened made path with ⟨-, kept⟩ | ⟨above, directory, before⟩
      · exact .inl kept
      · rcases before with missing | there
        · exact .inr ⟨above, missing, directory⟩
        · exact .inl (directory.trans there.symm)
    obtain ⟨done, failed⟩ := extractInto_spec run made members
    cases extracted : extractInto run members destination opened with
    | ok progress =>
      have succeeded : safeExtractArchive run members destination tree =
          ⟨none, progress.tree⟩ := by
        unfold safeExtractArchive
        rw [made]
        dsimp only
        rw [extracted]
      obtain ⟨listed, checked, same, limits, -, -, state⟩ := done progress extracted
      refine ⟨?_, fun _ listed count free _ => extractionMoment_contained free listed count,
        fun _ _ _ _ free _ => onePath_of_extracted free, ?_, ?_⟩
      · rw [succeeded]
        exact outer progress.tree state.outside
      · rw [succeeded]
        exact fun _ => ⟨listed, same, (checkArchiveLimits_ok_iff.mp limits).1,
          state.used.trans_le state.bounded⟩
      · rw [succeeded]
        exact fun failure => absurd rfl failure
    | error abandoned =>
      have stopped : safeExtractArchive run members destination tree =
          ⟨some abandoned.failure, abandoned.tree.removeTree destination⟩ := by
        unfold safeExtractArchive
        rw [made]
        dsimp only
        rw [extracted]
      refine ⟨?_, fun _ listed count free _ => extractionMoment_contained free listed count,
        fun _ _ _ _ free _ => onePath_of_extracted free, ?_, ?_⟩
      · rw [stopped]
        refine outer _ fun path apart => ?_
        rw [FileTree.node_removeTree, if_neg apart]
        exact (failed abandoned extracted).outside path apart
      · rw [stopped]
        exact nofun
      · rw [stopped]
        refine fun _ => ⟨fun _ path below => ?_, fun present => absurd absent present⟩
        rw [FileTree.node_removeTree, if_pos below]

end

end CareerOS
