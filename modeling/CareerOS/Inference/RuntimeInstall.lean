/-
This file is the installation of the model runtime and the check of what is installed. The
extractor and the manifest go through the pinned archive separately: the directory of the
executable is moved out of what is extracted, and the check compares its files with those
that the manifest finds below the executable's directory in the archive. They agree unless the
archive puts a file where the metadata of the installation stands, or gives a file a mode
under which its owner cannot read it.

Nothing else changes the tree meanwhile. The marker is written to a temporary file of a random
name and moved to its place; here it is put there at once.
-/

import CareerOS.Inference.RuntimeArchive

namespace CareerOS

/-! ### The manifest of an archive -/

/-- The runtime of a platform in the catalog; its executable is a plain file name. -/
structure RuntimeAsset where
  archiveType : ArchiveType
  sha256 : String
  sizeBytes : Nat
  executable : String

/-- `_RUNTIME_MARKER_NAME`. -/
def runtimeMarkerName : String := ".catalog-sha256"

/-- `_runtime_source_name`. -/
def runtimeSourceName : ArchiveType → String
  | .zip => ".catalog-source.zip"
  | .tarGz => ".catalog-source.tar.gz"

/-- The paths that the installation keeps for itself, in the directory of the runtime. -/
def reservedPaths (runtime : RuntimeAsset) : List TreePath :=
  [[runtimeMarkerName], [runtimeSourceName runtime.archiveType]]

section

variable [ArchiveTables]

open ArchiveTables

/-- `_hash_archive_member`, with what is received before. -/
def hashArchiveMember (expectedSize : Int) (broken : Bool) :
    List (List UInt8) → List UInt8 → Except ExtractFailure String
  | [], received =>
    if broken then .error .osError
    else if (received.length : Int) ≠ expectedSize then
      .error (.unsafeArchive "archive member size does not match its metadata")
    else .ok (sha256 received)
  | chunk :: chunks, received =>
    if expectedSize < ((received ++ chunk).length : Int) then
      .error (.unsafeArchive "archive member exceeds its declared size")
    else hashArchiveMember expectedSize broken chunks (received ++ chunk)

/-- `_relative_to_package`. -/
def relativeToPackage (path package : TreePath) : Option TreePath :=
  if package <+: path ∧ path.drop package.length ≠ [] then some (path.drop package.length)
  else none

/-- The paths of the files with the name of the executable. -/
def executableMembers (checked : List (ArchiveMember × TreePath)) (executable : String) :
    List TreePath :=
  (checked.filter fun item => !item.1.isDirectory && item.2.getLast? = some executable).map Prod.snd

/-- The files below the package, with their paths in it. -/
def packagedFiles (checked : List (ArchiveMember × TreePath)) (package : TreePath) :
    List (ArchiveMember × TreePath) :=
  checked.filterMap fun item =>
    if item.1.isDirectory then none
    else (relativeToPackage item.2 package).map fun relative => (item.1, relative)

/-- The entry of a packaged file: its path, its size and its digest. -/
def manifestEntry (runtime : RuntimeAsset) (file : ArchiveMember × TreePath) :
    Except ExtractFailure (TreePath × Int × String) := do
  refuseWhen (file.2 ∈ reservedPaths runtime)
    (.unsafeArchive "runtime archive uses a reserved metadata path")
  match file.1.data with
  | none => .error .osError
  | some stream =>
    let digest ← hashArchiveMember file.1.size stream.broken stream.chunks []
    return (file.2, file.1.size, digest)

/-- The directory of the one member that has the name of the executable. -/
def packageParts (runtime : RuntimeAsset) (checked : List (ArchiveMember × TreePath)) :
    Except ExtractFailure TreePath :=
  match executableMembers checked runtime.executable with
  | [path] => .ok path.dropLast
  | _ => .error (.unsafeArchive "runtime archive does not contain one expected executable")

/-- `_runtime_archive_manifest`, keyed by the parts of the paths. -/
def runtimeArchiveManifest (runtime : RuntimeAsset) (archive : List UInt8) :
    Except ExtractFailure (List (TreePath × Int × String)) := do
  let members ← (archiveMembers runtime.archiveType archive).elim (.error .osError) .ok
  (checkArchiveLimits maxArchiveMembers maxArchiveBytes members).mapError .unsafeArchive
  let checked ← (registerMembers [] members).mapError .unsafeArchive
  let package ← packageParts runtime checked
  let manifest ← (packagedFiles checked package).mapM (manifestEntry runtime)
  refuseWhen ([runtime.executable] ∉ manifest.map Prod.fst)
    (.unsafeArchive "runtime executable is outside the packaged runtime root")
  return manifest

/-! ### The check of what is installed -/

/-- May the owner of a file with this mode read it? -/
def ownerReads (mode : Nat) : Bool := mode.testBit 8

/-- `path.read_bytes()` of a regular file. -/
def readBytes (tree : FileTree (List UInt8)) (path : TreePath) : Option (List UInt8) :=
  match tree.node path with
  | some (.file content mode) => if ownerReads mode then some content else none
  | _ => none

/-- `text.encode("ascii")`. -/
def encodeAscii (text : String) : List UInt8 := text.toList.map fun letter => letter.val.toUInt8

/-- `_verified_regular_file`, of a file below the directory of the runtime. -/
def verifiedRegularFile (tree : FileTree (List UInt8)) (path : TreePath) (expectedSize : Int)
    (expectedSha256 : String) : Bool :=
  match readBytes tree path with
  | some content => content.length = expectedSize && sha256 content = casefold expectedSha256
  | none => false

/-- The files below the directory of the runtime other than its metadata, unless a link or a
special file is among them. -/
def actualFiles (tree : FileTree (List UInt8)) (runtimeDir : TreePath) (runtime : RuntimeAsset) :
    Option (List TreePath) :=
  let below := tree.names.filter fun path => runtimeDir <+: path ∧ (tree.node path).isSome = true
  if below.all fun path => FileTree.isDirectory (tree.node path) || FileTree.isFile (tree.node path)
  then some (((tree.filesUnder runtimeDir).map fun path => path.drop runtimeDir.length).filter
    fun path => path ∉ reservedPaths runtime)
  else none

/-- Are the files those of the manifest, each with its size and digest? -/
def inventoryMatches (tree : FileTree (List UInt8)) (runtimeDir : TreePath)
    (runtime : RuntimeAsset) (expected : List (TreePath × Int × String)) : Bool :=
  match actualFiles tree runtimeDir runtime with
  | none => false
  | some actual =>
    actual.all (fun path => path ∈ expected.map Prod.fst) &&
    (expected.map Prod.fst).all (fun path => path ∈ actual) &&
    expected.all (fun entry =>
      verifiedRegularFile tree (runtimeDir ++ entry.1) entry.2.1 entry.2.2) &&
    actual.contains [runtime.executable]

/-- `_runtime_is_verified(..., force=True)`. -/
def runtimeIsVerified (tree : FileTree (List UInt8)) (runtimeDir : TreePath)
    (runtime : RuntimeAsset) : Bool :=
  let source := runtimeDir ++ [runtimeSourceName runtime.archiveType]
  FileTree.isDirectory (tree.node runtimeDir) &&
  readBytes tree (runtimeDir ++ [runtimeMarkerName]) = some (encodeAscii runtime.sha256) &&
  verifiedRegularFile tree source runtime.sizeBytes runtime.sha256 &&
  match readBytes tree source with
  | none => false
  | some archive =>
    match runtimeArchiveManifest runtime archive with
    | .error _ => false
    | .ok expected => inventoryMatches tree runtimeDir runtime expected

/-! ### The installation -/

/-- The paths of an installation: the archive, the staging directory it is extracted to and
the directory of the runtime, none of them inside another. -/
structure RuntimePaths where
  archive : TreePath
  extracted : TreePath
  runtimeDir : TreePath
  archiveStaged : ¬extracted <+: archive
  archiveInstalled : ¬runtimeDir <+: archive
  runtimeStaged : ¬extracted <+: runtimeDir
  stagedInstalled : ¬runtimeDir <+: extracted

/-- `path.rglob(pattern)`, the regular files of it. -/
def findExecutables (tree : FileTree (List UInt8)) (root : TreePath) (pattern : String) :
    List TreePath :=
  (tree.filesUnder root).filter fun path =>
    path ≠ root ∧ path.getLast?.any (globMatches pattern) = true

/-- The directory of the one file that the pattern finds. -/
def findPackage (tree : FileTree (List UInt8)) (root : TreePath) (pattern : String) :
    Option TreePath :=
  match findExecutables tree root pattern with
  | [candidate] => some candidate.dropLast
  | _ => none

/-- What stands at the path of the runtime is removed. -/
def clearRuntime (runtimeDir : TreePath) (tree : FileTree (List UInt8)) :
    Option (FileTree (List UInt8)) :=
  match tree.node runtimeDir with
  | none => some tree
  | some .special => none
  | some _ => some (tree.removeTree runtimeDir)

/-- The extraction, the lookup of the executable, the moves and the marker: the tree after
them, when all of them succeed. -/
def placeRuntime (stopsFirst : Option ExtractFailure)
    (stops : Nat → Nat → Option ExtractFailure) (paths : RuntimePaths) (runtime : RuntimeAsset)
    (tree : FileTree (List UInt8)) : Option (FileTree (List UInt8)) := do
  let members := (readBytes tree paths.archive).bind (archiveMembers runtime.archiveType)
  let extraction := safeExtractArchive { stopsFirst, stops } members paths.extracted tree
  guard (extraction.failure = none)
  let packagedRoot ← findPackage extraction.tree paths.extracted runtime.executable
  let ready ← extraction.tree.makeDirectories paths.runtimeDir.dropLast
  let cleared ← clearRuntime paths.runtimeDir ready
  let moved ← cleared.moveTree packagedRoot paths.runtimeDir
  let sourced ← moved.moveFile paths.archive
    (paths.runtimeDir ++ [runtimeSourceName runtime.archiveType])
  sourced.placeFile (paths.runtimeDir ++ [runtimeMarkerName]) (encodeAscii runtime.sha256)
    newFileMode

/-! ### What the manifest holds -/

theorem hashArchiveMember_ok_iff {expected : Int} {broken : Bool} (chunks : List (List UInt8))
    (received : List UInt8) {digest : String} :
    hashArchiveMember expected broken chunks received = .ok digest ↔
      broken = false ∧ ((received ++ chunks.flatten).length : Int) = expected ∧
        sha256 (received ++ chunks.flatten) = digest := by
  induction chunks generalizing received with
  | nil =>
    rw [List.flatten_nil, List.append_nil]
    unfold hashArchiveMember
    cases broken with
    | true => exact ⟨nofun, nofun⟩
    | false =>
      rw [if_neg Bool.false_ne_true]
      by_cases size : (received.length : Int) = expected
      · rw [if_neg (not_not.mpr size)]
        exact ⟨fun same => ⟨rfl, size, Except.ok.inj same⟩,
          fun whole => congrArg Except.ok whole.2.2⟩
      · rw [if_pos size]
        exact ⟨nofun, fun whole => absurd whole.2.1 size⟩
  | cons chunk chunks inductionHypothesis =>
    rw [List.flatten_cons, ← List.append_assoc]
    unfold hashArchiveMember
    split
    · rename_i large
      refine ⟨nofun, ?_⟩
      rintro ⟨-, size, -⟩
      rw [List.length_append] at size
      omega
    · exact inductionHypothesis (received ++ chunk)

variable {checked : List (ArchiveMember × TreePath)} {path : TreePath} {member : ArchiveMember}

variable {content : List UInt8}

section

omit [ArchiveTables]

theorem relativeToPackage_some_iff {path package relative : TreePath} :
    relativeToPackage path package = some relative ↔
      path = package ++ relative ∧ relative ≠ [] := by
  unfold relativeToPackage
  constructor
  · intro found
    split at found
    · rename_i inside
      obtain ⟨⟨rest, rfl⟩, solid⟩ := inside
      rw [List.drop_left] at found solid
      obtain rfl := Option.some.inj found
      exact ⟨rfl, solid⟩
    · cases found
  · rintro ⟨rfl, solid⟩
    rw [List.drop_left, if_pos ⟨List.prefix_append package relative, solid⟩]

theorem mem_packagedFiles {package relative : TreePath} :
    (member, relative) ∈ packagedFiles checked package ↔
      (member, package ++ relative) ∈ checked ∧ member.isDirectory = false ∧ relative ≠ [] := by
  unfold packagedFiles
  rw [List.mem_filterMap]
  constructor
  · rintro ⟨⟨found, path⟩, inside, packaged⟩
    split at packaged
    · cases packaged
    · rename_i plain
      obtain ⟨rest, same, pair⟩ := Option.map_eq_some_iff.mp packaged
      obtain ⟨rfl, rfl⟩ := Prod.mk.inj pair
      obtain ⟨rfl, solid⟩ := relativeToPackage_some_iff.mp same
      exact ⟨inside, (Bool.not_eq_true _).mp plain, solid⟩
  · rintro ⟨inside, plain, solid⟩
    refine ⟨(member, package ++ relative), inside, ?_⟩
    rw [if_neg (ne_true_of_eq_false plain)]
    dsimp only
    rw [relativeToPackage_some_iff.mpr ⟨rfl, solid⟩]
    rfl

theorem mem_filesWhere (accepts : TreePath → Bool) :
    path ∈ (checked.filter fun item => !item.1.isDirectory && accepts item.2).map Prod.snd ↔
      ∃ member, (member, path) ∈ checked ∧ member.isDirectory = false ∧ accepts path = true := by
  rw [List.mem_map]
  constructor
  · rintro ⟨⟨member, _⟩, inside, rfl⟩
    obtain ⟨inside, named⟩ := List.mem_filter.mp inside
    rw [Bool.and_eq_true, Bool.not_eq_true'] at named
    exact ⟨member, inside, named⟩
  · rintro ⟨member, inside, plain, named⟩
    refine ⟨(member, path), List.mem_filter.mpr ⟨inside, ?_⟩, rfl⟩
    rw [Bool.and_eq_true, Bool.not_eq_true']
    exact ⟨plain, named⟩

theorem mem_executableMembers {executable : String} :
    path ∈ executableMembers checked executable ↔
      ∃ member, (member, path) ∈ checked ∧ member.isDirectory = false ∧
        path.getLast? = some executable := by
  unfold executableMembers
  rw [mem_filesWhere fun path => path.getLast? = some executable]
  simp only [decide_eq_true_iff]

theorem content_eq_some_iff :
    member.content = some content ↔
      ∃ stream, member.data = some stream ∧ stream.broken = false ∧
        (stream.chunks.flatten.length : Int) = member.size ∧ stream.chunks.flatten = content := by
  unfold ArchiveMember.content
  cases member.data with
  | none =>
    refine ⟨nofun, ?_⟩
    rintro ⟨stream, present, -⟩
    cases present
  | some stream =>
    dsimp only
    constructor
    · intro found
      split at found
      · rename_i whole
        exact ⟨stream, rfl, whole.1, whole.2, Option.some.inj found⟩
      · cases found
    · rintro ⟨_, same, whole, size, rfl⟩
      obtain rfl := Option.some.inj same
      rw [if_pos ⟨whole, size⟩]

end

variable {runtime : RuntimeAsset}

/-- An entry of the manifest is the path of a file that is not reserved, with the size and
the digest of its bytes. -/
theorem manifestEntry_ok_iff {entry : TreePath × Int × String} :
    manifestEntry runtime (member, path) = .ok entry ↔
      path ∉ reservedPaths runtime ∧ ∃ content, member.content = some content ∧
        entry = (path, (content.length : Int), sha256 content) := by
  unfold manifestEntry
  rw [bind_ok_iff]
  simp only [refuseWhen_ok_iff, exists_and_left, exists_const]
  refine and_congr_right fun _ => ?_
  cases data : member.data with
  | none =>
    constructor
    · intro impossible
      cases impossible
    · rintro ⟨content, whole, -⟩
      obtain ⟨stream, present, -⟩ := content_eq_some_iff.mp whole
      rw [data] at present
      cases present
  | some stream =>
    dsimp only
    rw [bind_ok_iff]
    constructor
    · rintro ⟨digest, hashed, same⟩
      obtain rfl := pure_ok_iff.mp same
      obtain ⟨whole, size, rfl⟩ := (hashArchiveMember_ok_iff _ _).mp hashed
      rw [List.nil_append] at size ⊢
      refine ⟨_, content_eq_some_iff.mpr ⟨stream, data, whole, size, rfl⟩, ?_⟩
      rw [size]
    · rintro ⟨content, found, rfl⟩
      obtain ⟨_, same, whole, size, rfl⟩ := content_eq_some_iff.mp found
      rw [data] at same
      obtain rfl := Option.some.inj same
      refine ⟨_, (hashArchiveMember_ok_iff _ _).mpr ⟨whole, by rw [List.nil_append]; exact size,
        rfl⟩, ?_⟩
      rw [size, List.nil_append]
      rfl

omit [ArchiveTables] in
theorem packageParts_ok_iff {package : TreePath} :
    packageParts runtime checked = .ok package ↔
      executableMembers checked runtime.executable = [package ++ [runtime.executable]] := by
  unfold packageParts
  constructor
  · intro found
    split at found
    · rename_i path single
      obtain rfl := Except.ok.inj found
      have here : path ∈ executableMembers checked runtime.executable := by
        rw [single]
        exact List.mem_cons_self
      obtain ⟨-, -, -, named⟩ := mem_executableMembers.mp here
      rw [single, List.dropLast_append_getLast? _ (Option.mem_def.mpr named)]
    · cases found
  · intro single
    rw [single]
    dsimp only
    rw [List.dropLast_concat]

/-- What the manifest of an archive is made of. -/
theorem runtimeArchiveManifest_ok_iff {archive : List UInt8}
    {manifest : List (TreePath × Int × String)} :
    runtimeArchiveManifest runtime archive = .ok manifest ↔
      ∃ members checked package, archiveMembers runtime.archiveType archive = some members ∧
        checkArchiveLimits maxArchiveMembers maxArchiveBytes members = .ok () ∧
        registerMembers [] members = .ok checked ∧
        executableMembers checked runtime.executable = [package ++ [runtime.executable]] ∧
        (packagedFiles checked package).mapM (manifestEntry runtime) = .ok manifest ∧
        [runtime.executable] ∈ manifest.map Prod.fst := by
  unfold runtimeArchiveManifest
  simp only [bind_ok_iff, mapError_ok_iff, refuseWhen_ok_iff, pure_ok_iff, packageParts_ok_iff,
    not_not]
  cases archiveMembers runtime.archiveType archive with
  | none =>
    constructor
    · rintro ⟨_, impossible, -⟩
      cases impossible
    · rintro ⟨_, _, _, impossible, -⟩
      cases impossible
  | some members =>
    constructor
    · rintro ⟨_, same, _, limits, checked, registered, package, single, _, mapped, _, inside, rfl⟩
      obtain rfl := Except.ok.inj same
      exact ⟨_, checked, package, rfl, limits, registered, single, mapped, inside⟩
    · rintro ⟨_, checked, package, same, limits, registered, single, mapped, inside⟩
      obtain rfl := Option.some.inj same
      exact ⟨_, rfl, (), limits, checked, registered, package, single, _, mapped, (), inside, rfl⟩

/-! ### What the check accepts -/

/-- Only directories and regular files stand at a path and below it. -/
def OnlyRegular (tree : FileTree (List UInt8)) (root : TreePath) : Prop :=
  ∀ path node, tree.node (root ++ path) = some node →
    node = .directory ∨ ∃ content mode, node = .file content mode

variable {tree : FileTree (List UInt8)}

omit [ArchiveTables] in
theorem readBytes_some_iff :
    readBytes tree path = some content ↔
      ∃ mode, tree.node path = some (.file content mode) ∧ ownerReads mode = true := by
  unfold readBytes
  constructor
  · intro read
    split at read
    · rename_i bytes mode file
      split at read
      · rename_i readable
        obtain rfl := Option.some.inj read
        exact ⟨mode, file, readable⟩
      · cases read
    · cases read
  · rintro ⟨mode, file, readable⟩
    rw [file]
    exact if_pos readable

theorem verifiedRegularFile_iff {size : Int} {digest : String} :
    verifiedRegularFile tree path size digest = true ↔
      ∃ content, readBytes tree path = some content ∧ (content.length : Int) = size ∧
        sha256 content = casefold digest := by
  unfold verifiedRegularFile
  cases readBytes tree path with
  | none =>
    refine ⟨nofun, ?_⟩
    rintro ⟨content, impossible, -⟩
    cases impossible
  | some content =>
    dsimp only
    rw [Bool.and_eq_true, decide_eq_true_iff, decide_eq_true_iff]
    constructor
    · exact fun verified => ⟨content, rfl, verified⟩
    · rintro ⟨_, same, verified⟩
      obtain rfl := Option.some.inj same
      exact verified

variable {runtimeDir : TreePath}

omit [ArchiveTables] in
/-- The inventory of a directory. -/
theorem actualFiles_some_iff {actual : List TreePath} :
    actualFiles tree runtimeDir runtime = some actual ↔
      OnlyRegular tree runtimeDir ∧
        actual = ((tree.filesUnder runtimeDir).map fun path => path.drop runtimeDir.length).filter
          fun path => path ∉ reservedPaths runtime := by
  have regular : ((tree.names.filter fun path =>
        runtimeDir <+: path ∧ (tree.node path).isSome = true).all fun path =>
        FileTree.isDirectory (tree.node path) || FileTree.isFile (tree.node path)) = true ↔
      OnlyRegular tree runtimeDir := by
    rw [List.all_eq_true]
    constructor
    · intro all path node present
      have inside : runtimeDir ++ path ∈ tree.names.filter fun path =>
          runtimeDir <+: path ∧ (tree.node path).isSome = true := by
        refine List.mem_filter.mpr ⟨tree.listed _ (by rw [present]; exact nofun), ?_⟩
        rw [decide_eq_true_iff, present]
        exact ⟨List.prefix_append runtimeDir path, rfl⟩
      have kind := all _ inside
      rw [present, Bool.or_eq_true, FileTree.isDirectory_iff, FileTree.isFile_iff] at kind
      rcases kind with directory | ⟨content, mode, file⟩
      · exact .inl (Option.some.inj directory)
      · exact .inr ⟨content, mode, Option.some.inj file⟩
    · intro only path inside
      obtain ⟨-, here⟩ := List.mem_filter.mp inside
      obtain ⟨⟨rest, rfl⟩, present⟩ := of_decide_eq_true here
      obtain ⟨node, found⟩ := Option.isSome_iff_exists.mp present
      rw [Bool.or_eq_true, FileTree.isDirectory_iff, FileTree.isFile_iff, found]
      rcases only rest node found with rfl | ⟨content, mode, rfl⟩
      · exact .inl rfl
      · exact .inr ⟨content, mode, rfl⟩
  unfold actualFiles
  dsimp only
  split
  · rename_i all
    rw [Option.some.injEq, eq_comm]
    exact ⟨fun same => ⟨regular.mp all, same⟩, fun inventory => inventory.2⟩
  · rename_i mixed
    exact ⟨nofun, fun inventory => absurd (regular.mpr inventory.1) mixed⟩

omit [ArchiveTables] in
theorem mem_actualFiles :
    (path ∈ ((tree.filesUnder runtimeDir).map fun path => path.drop runtimeDir.length).filter
        fun path => path ∉ reservedPaths runtime) ↔
      path ∉ reservedPaths runtime ∧
        ∃ content mode, tree.node (runtimeDir ++ path) = some (.file content mode) := by
  rw [List.mem_filter, decide_eq_true_iff, and_comm]
  refine and_congr_right fun _ => ?_
  rw [List.mem_map]
  constructor
  · rintro ⟨whole, inside, rfl⟩
    obtain ⟨⟨rest, rfl⟩, file⟩ := FileTree.mem_filesUnder.mp inside
    rw [List.drop_left]
    exact file
  · intro file
    exact ⟨runtimeDir ++ path, FileTree.mem_filesUnder.mpr ⟨List.prefix_append runtimeDir path,
      file⟩, List.drop_left⟩

/-- When the inventory matches a manifest that lists the executable. -/
theorem inventoryMatches_iff {expected : List (TreePath × Int × String)}
    (executable : [runtime.executable] ∈ expected.map Prod.fst) :
    inventoryMatches tree runtimeDir runtime expected = true ↔
      OnlyRegular tree runtimeDir ∧
      (∀ path, path ∈ expected.map Prod.fst ↔ path ∉ reservedPaths runtime ∧
        ∃ content mode, tree.node (runtimeDir ++ path) = some (.file content mode)) ∧
      ∀ entry ∈ expected,
        verifiedRegularFile tree (runtimeDir ++ entry.1) entry.2.1 entry.2.2 = true := by
  unfold inventoryMatches
  cases inventory : actualFiles tree runtimeDir runtime with
  | none =>
    refine ⟨nofun, fun matched => ?_⟩
    rw [actualFiles_some_iff.mpr ⟨matched.1, rfl⟩] at inventory
    cases inventory
  | some actual =>
    obtain ⟨regular, rfl⟩ := actualFiles_some_iff.mp inventory
    dsimp only
    rw [Bool.and_eq_true, Bool.and_eq_true, Bool.and_eq_true, List.all_eq_true, List.all_eq_true,
      List.all_eq_true, List.contains_iff_mem]
    simp only [decide_eq_true_iff, mem_actualFiles]
    constructor
    · rintro ⟨⟨⟨known, present⟩, verified⟩, -⟩
      exact ⟨regular, fun path => ⟨present path, known path⟩, verified⟩
    · rintro ⟨-, same, verified⟩
      exact ⟨⟨⟨fun path => (same path).mpr, fun path => (same path).mp⟩, verified⟩,
        (same _).mp executable⟩

/-- What the forced check accepts. -/
theorem runtimeIsVerified_iff
    :
    runtimeIsVerified tree runtimeDir runtime = true ↔
      tree.node runtimeDir = some .directory ∧
      readBytes tree (runtimeDir ++ [runtimeMarkerName]) = some (encodeAscii runtime.sha256) ∧
      ∃ archive manifest,
        readBytes tree (runtimeDir ++ [runtimeSourceName runtime.archiveType]) = some archive ∧
        ((archive.length : Int) = runtime.sizeBytes ∧ sha256 archive = casefold runtime.sha256) ∧
        runtimeArchiveManifest runtime archive = .ok manifest ∧
        OnlyRegular tree runtimeDir ∧
        (∀ path, path ∈ manifest.map Prod.fst ↔ path ∉ reservedPaths runtime ∧
          ∃ content mode, tree.node (runtimeDir ++ path) = some (.file content mode)) ∧
        ∀ entry ∈ manifest,
          verifiedRegularFile tree (runtimeDir ++ entry.1) entry.2.1 entry.2.2 = true := by
  unfold runtimeIsVerified
  dsimp only
  rw [Bool.and_eq_true, Bool.and_eq_true, Bool.and_eq_true, FileTree.isDirectory_iff,
    decide_eq_true_iff, verifiedRegularFile_iff]
  constructor
  · rintro ⟨⟨⟨directory, marker⟩, archive, read, pinned⟩, accepted⟩
    rw [read] at accepted
    dsimp only at accepted
    split at accepted
    · cases accepted
    · rename_i manifest derived
      obtain ⟨_, _, _, -, -, -, -, -, executable⟩ := runtimeArchiveManifest_ok_iff.mp derived
      exact ⟨directory, marker, archive, manifest, read, pinned, derived,
        (inventoryMatches_iff executable).mp accepted⟩
  · rintro ⟨directory, marker, archive, manifest, read, pinned, derived, matched⟩
    refine ⟨⟨⟨directory, marker⟩, archive, read, pinned⟩, ?_⟩
    obtain ⟨_, _, _, -, -, -, -, -, executable⟩ := runtimeArchiveManifest_ok_iff.mp derived
    rw [read]
    dsimp only
    rw [derived]
    exact (inventoryMatches_iff executable).mpr matched

/-! ### What an installation puts in its place -/

section

omit [ArchiveTables]

variable {tree after : FileTree (List UInt8)}

theorem moveFile_some {source target : TreePath}
    (moved : tree.moveFile source target = some after) :
    ∃ content mode, tree.node source = some (.file content mode) ∧
      (tree.removeTree source).node target ≠ some .directory ∧
      after.node = Function.update (tree.removeTree source).node target
        (some (.file content mode)) := by
  unfold FileTree.moveFile at moved
  split at moved
  · rename_i content mode file
    obtain ⟨⟨-, -, plain⟩, nodes⟩ := FileTree.placeFile_some moved
    exact ⟨content, mode, file, plain, nodes⟩
  · cases moved

/-- Removing a file leaves everything that is not at its path. -/
theorem node_removeTree_of_file {source path : TreePath}
    {mode : Nat} (file : tree.node source = some (.file content mode))
    (different : source ≠ path) : (tree.removeTree source).node path = tree.node path := by
  rw [FileTree.node_removeTree]
  split
  · rename_i above
    by_contra present
    rcases tree.node_of_isPrefix above (Ne.symm present) with same | directory
    · exact different same
    · rw [file] at directory
      cases directory
  · rfl

/-- What stands in the way of the runtime is removed and nothing else. -/
theorem clearRuntime_some (cleared : clearRuntime runtimeDir tree = some after) (path : TreePath)
    (apart : ¬runtimeDir <+: path) : after.node path = tree.node path := by
  unfold clearRuntime at cleared
  split at cleared
  · obtain rfl := Option.some.inj cleared
    rfl
  · cases cleared
  · obtain rfl := Option.some.inj cleared
    rw [FileTree.node_removeTree, if_neg apart]

/-- New directories above a path that is not inside another leave the other as it was. -/
theorem node_makeDirectories_of_file {path other : TreePath}
    (made : tree.makeDirectories path = some after)
    (kept : ¬other <+: path ∨ ∃ content mode, tree.node other = some (.file content mode)) :
    after.node other = tree.node other := by
  obtain ⟨clear, rfl⟩ := FileTree.makeDirectories_some_iff.mp made
  rw [FileTree.node_withDirectories]
  split
  · rename_i above
    rcases kept with outside | ⟨content, mode, file⟩
    · exact absurd above outside
    · rcases clear other above with absent | directory
      · rw [absent] at file
        cases file
      · exact directory.symm
  · rfl

end

/-- A runtime whose installation has succeeded: its files are those of the archive below the
directory of the executable, but for the two that the installation writes itself. -/
structure Placed (runtimeDir : TreePath) (runtime : RuntimeAsset) (archive : List UInt8)
    (checked : List (ArchiveMember × TreePath)) (package : TreePath)
    (tree : FileTree (List UInt8)) : Prop where
  base : tree.node runtimeDir = some .directory
  marker : tree.node (runtimeDir ++ [runtimeMarkerName]) =
    some (.file (encodeAscii runtime.sha256) newFileMode)
  source : readBytes tree (runtimeDir ++ [runtimeSourceName runtime.archiveType]) = some archive
  files : ∀ path ∉ reservedPaths runtime, ∀ content mode,
    tree.node (runtimeDir ++ path) = some (.file content mode) ↔
      ∃ item ∈ checked, item.1.isDirectory = false ∧ item.2 = package ++ path ∧
        item.1.content = some content ∧ item.1.permissions newFileMode = mode
  regular : OnlyRegular tree runtimeDir

omit [ArchiveTables] in
theorem runtimeSourceName_ne (archiveType : ArchiveType) :
    runtimeSourceName archiveType ≠ runtimeMarkerName := by
  cases archiveType with
  | zip => decide
  | tarGz => decide

/-- The files of an archive that the pattern of the executable finds. -/
def lookedUp (checked : List (ArchiveMember × TreePath)) (pattern : String) : List TreePath :=
  (checked.filter fun item =>
    !item.1.isDirectory && item.2.getLast?.any (globMatches pattern)).map Prod.snd

theorem mem_lookedUp {pattern : String} :
    path ∈ lookedUp checked pattern ↔ ∃ member, (member, path) ∈ checked ∧
      member.isDirectory = false ∧ path.getLast?.any (globMatches pattern) = true :=
  mem_filesWhere fun path => path.getLast?.any (globMatches pattern)

omit [ArchiveTables] in
/-- The moves of an installation, after an extraction that has left the archive where it was. -/
theorem nodes_of_moves {paths : RuntimePaths} {packagedRoot : TreePath}
    (staged : paths.extracted <+: packagedRoot)
    {extracted ready cleared moved sourced placed : FileTree (List UInt8)}
    {archive : List UInt8} {archiveMode : Nat}
    (file : extracted.node paths.archive = some (.file archive archiveMode))
    (made : extracted.makeDirectories paths.runtimeDir.dropLast = some ready)
    (emptied : clearRuntime paths.runtimeDir ready = some cleared)
    (replaced : cleared.moveTree packagedRoot paths.runtimeDir = some moved)
    (kept : moved.moveFile paths.archive
      (paths.runtimeDir ++ [runtimeSourceName runtime.archiveType]) = some sourced)
    (marked : sourced.placeFile (paths.runtimeDir ++ [runtimeMarkerName])
      (encodeAscii runtime.sha256) newFileMode = some placed) :
    extracted.node packagedRoot = some .directory ∧
      placed.node (paths.runtimeDir ++ [runtimeMarkerName]) =
        some (.file (encodeAscii runtime.sha256) newFileMode) ∧
      placed.node (paths.runtimeDir ++ [runtimeSourceName runtime.archiveType]) =
        some (.file archive archiveMode) ∧
      ∀ path ∉ reservedPaths runtime,
        placed.node (paths.runtimeDir ++ path) = extracted.node (packagedRoot ++ path) := by
  -- What is staged and the archive are as they were when the runtime is moved.
  have stagedKept : ∀ path, cleared.node (packagedRoot ++ path) =
      extracted.node (packagedRoot ++ path) := by
    intro path
    have below : paths.extracted <+: packagedRoot ++ path :=
      staged.trans (List.prefix_append packagedRoot path)
    have apart : ¬paths.runtimeDir <+: packagedRoot ++ path := fun inside =>
      (List.prefix_or_prefix_of_prefix inside below).elim paths.stagedInstalled
        paths.runtimeStaged
    rw [clearRuntime_some emptied _ apart]
    exact node_makeDirectories_of_file made (.inl fun above =>
      paths.runtimeStaged ((below.trans above).trans (List.dropLast_prefix _)))
  have archiveKept : cleared.node paths.archive = some (.file archive archiveMode) := by
    rw [clearRuntime_some emptied _ paths.archiveInstalled,
      node_makeDirectories_of_file made (.inr ⟨archive, archiveMode, file⟩), file]
  obtain ⟨directory, movedNodes⟩ := FileTree.moveTree_some replaced
  have movedBelow : ∀ path, moved.node (paths.runtimeDir ++ path) =
      extracted.node (packagedRoot ++ path) := by
    intro path
    rw [movedNodes, if_pos (List.prefix_append _ _), List.drop_left, stagedKept]
  have movedArchive : moved.node paths.archive = some (.file archive archiveMode) := by
    rw [movedNodes, if_neg paths.archiveInstalled,
      if_neg fun inside => paths.archiveStaged (staged.trans inside), archiveKept]
  obtain ⟨content, mode, there, -, sourcedNodes⟩ := moveFile_some kept
  rw [movedArchive] at there
  obtain ⟨rfl, rfl⟩ := TreeNode.file.inj (Option.some.inj there)
  have markedNodes := (FileTree.placeFile_some marked).2
  have other : ∀ path, paths.archive ≠ paths.runtimeDir ++ path := by
    intro path same
    exact paths.archiveInstalled (same ▸ List.prefix_append paths.runtimeDir path)
  have different : paths.runtimeDir ++ [runtimeSourceName runtime.archiveType] ≠
      paths.runtimeDir ++ [runtimeMarkerName] := fun same =>
    runtimeSourceName_ne _ (List.singleton_inj.mp (List.append_cancel_left same))
  refine ⟨?_, ?_, ?_, fun path free => ?_⟩
  · have top := stagedKept []
    rw [List.append_nil] at top
    rw [← top, directory]
  · rw [markedNodes, Function.update_self]
  · rw [markedNodes, Function.update_of_ne different, sourcedNodes, Function.update_self]
  · have notMarker : paths.runtimeDir ++ path ≠ paths.runtimeDir ++ [runtimeMarkerName] := by
      intro same
      rw [List.append_cancel_left same] at free
      exact free List.mem_cons_self
    have notSource : paths.runtimeDir ++ path ≠
        paths.runtimeDir ++ [runtimeSourceName runtime.archiveType] := by
      intro same
      rw [List.append_cancel_left same] at free
      exact free (List.mem_cons_of_mem _ List.mem_cons_self)
    rw [markedNodes, Function.update_of_ne notMarker, sourcedNodes,
      Function.update_of_ne notSource, node_removeTree_of_file movedArchive (other path),
      movedBelow]

/-- The one file that the pattern finds below the destination of an extraction, as the
archive has it. -/
theorem findPackage_some {run : ExtractRun} {destination packagedRoot : TreePath}
    {opened : FileTree (List UInt8)}
    {progress : Extraction} (state : Laid run destination opened checked progress)
    (contents : ∀ item ∈ checked, item.1.isDirectory = false → item.1.content ≠ none)
    {pattern : String} (found : findPackage progress.tree destination pattern = some packagedRoot) :
    ∃ package name, packagedRoot = destination ++ package ∧
      ∀ path, path ∈ lookedUp checked pattern ↔ path = package ++ [name] := by
  unfold findPackage at found
  split at found
  · rename_i candidate single
    obtain rfl := Option.some.inj found
    -- A file of the archive that the pattern finds is a file of the destination that it finds.
    have same : ∀ path, path ∈ lookedUp checked pattern ↔
        path ≠ [] ∧ destination ++ path ∈ findExecutables progress.tree destination pattern := by
      intro path
      unfold findExecutables
      rw [mem_lookedUp, List.mem_filter, FileTree.mem_filesUnder, decide_eq_true_iff]
      constructor
      · rintro ⟨member, inside, plain, named⟩
        have proper : path ≠ [] := by
          rintro rfl
          cases named
        obtain ⟨content, whole⟩ := Option.ne_none_iff_exists'.mp (contents _ inside plain)
        refine ⟨proper, ⟨List.prefix_append destination path, content, _,
          (state.files path content _).mpr ⟨_, inside, plain, rfl, whole, rfl⟩⟩, ?_, ?_⟩
        · intro whole
          exact proper (List.append_cancel_left (whole.trans (List.append_nil destination).symm))
        · rw [List.getLast?_append_of_ne_nil _ proper]
          exact named
      · rintro ⟨proper, ⟨-, content, mode, file⟩, -, named⟩
        obtain ⟨⟨member, _⟩, inside, plain, rfl, -⟩ := (state.files path content mode).mp file
        rw [List.getLast?_append_of_ne_nil _ proper] at named
        exact ⟨member, inside, plain, named⟩
    have here : candidate ∈ findExecutables progress.tree destination pattern := by
      rw [single]
      exact List.mem_cons_self
    obtain ⟨inside, named⟩ := List.mem_filter.mp here
    obtain ⟨⟨rest, rfl⟩, -⟩ := FileTree.mem_filesUnder.mp inside
    have proper : rest ≠ [] := by
      rintro rfl
      exact (of_decide_eq_true named).1 (List.append_nil destination)
    refine ⟨rest.dropLast, rest.getLast proper, List.dropLast_append_of_ne_nil proper, ?_⟩
    intro path
    rw [same, single, List.mem_singleton, List.append_cancel_left_eq,
      List.dropLast_append_getLast proper]
    exact ⟨fun both => both.2, fun eq => ⟨eq ▸ proper, eq⟩⟩
  · cases found

/-- An installation that succeeds up to the marker: what it has read and what it has put in
place. -/
theorem placeRuntime_some {stopsFirst : Option ExtractFailure}
    {stops : Nat → Nat → Option ExtractFailure} {paths : RuntimePaths}
    {tree placed : FileTree (List UInt8)}
    (installed : placeRuntime stopsFirst stops paths runtime tree = some placed) :
    ∃ archive members checked package name,
      readBytes tree paths.archive = some archive ∧
      archiveMembers runtime.archiveType archive = some members ∧
      checkArchiveLimits maxArchiveMembers maxArchiveBytes members = .ok () ∧
      (∀ member ∈ members, member.isDirectory = false → member.content ≠ none) ∧
      registerMembers [] members = .ok checked ∧
      (∀ path, path ∈ lookedUp checked runtime.executable ↔ path = package ++ [name]) ∧
      (∀ item ∈ checked, item.1.isDirectory = false → item.2 ≠ package) ∧
      Placed paths.runtimeDir runtime archive checked package placed := by
  unfold placeRuntime at installed
  dsimp only at installed
  generalize bound : (readBytes tree paths.archive).bind
    (archiveMembers runtime.archiveType) = found at installed
  generalize extracted : safeExtractArchive { stopsFirst, stops } found paths.extracted tree =
    extraction at installed
  obtain ⟨_, succeeded, installed⟩ := Option.bind_eq_some_iff.mp installed
  obtain ⟨packagedRoot, looked, installed⟩ := Option.bind_eq_some_iff.mp installed
  obtain ⟨ready, made, installed⟩ := Option.bind_eq_some_iff.mp installed
  obtain ⟨cleared, emptied, installed⟩ := Option.bind_eq_some_iff.mp installed
  obtain ⟨moved, replaced, installed⟩ := Option.bind_eq_some_iff.mp installed
  obtain ⟨sourced, kept, marked⟩ := Option.bind_eq_some_iff.mp installed
  have fine : extraction.failure = none := by
    by_contra failed
    rw [guard, if_neg failed] at succeeded
    cases succeeded
  rw [← extracted] at fine
  obtain ⟨opened, members, checked, progress, opening, rfl, limits, contents, registered, after,
    state⟩ := safeExtractArchive_succeeded fine
  rw [extracted] at after
  rw [after] at looked made
  obtain ⟨archive, read, listed⟩ := Option.bind_eq_some_iff.mp bound
  obtain ⟨archiveMode, file, readable⟩ := readBytes_some_iff.mp read
  have members_eq := registerMembers_members registered
  have contentsHere : ∀ item ∈ checked, item.1.isDirectory = false → item.1.content ≠ none :=
    fun item inside => contents item.1 (members_eq ▸ List.mem_map_of_mem inside)
  obtain ⟨package, name, rfl, only⟩ := findPackage_some state contentsHere looked
  have kept' : progress.tree.node paths.archive = some (.file archive archiveMode) := by
    rw [state.outside paths.archive paths.archiveStaged]
    rcases outside_opened opening paths.archive with ⟨-, same⟩ | ⟨-, -, before⟩
    · exact same.trans file
    · rw [file] at before
      rcases before with impossible | impossible
      · cases impossible
      · cases impossible
  obtain ⟨directory, marker, source, below⟩ := nodes_of_moves (List.prefix_append _ package) kept'
    made emptied replaced kept marked
  have nowhere : [] ∉ reservedPaths runtime := by
    intro reserved
    rcases List.mem_cons.mp reserved with same | reserved
    · cases same
    · cases List.mem_singleton.mp reserved
  refine ⟨archive, members, checked, package, name, read, listed, limits, contents, registered,
    only, ?_, ?_⟩
  · rintro ⟨member, _⟩ inside plain rfl
    obtain ⟨content, whole⟩ := Option.ne_none_iff_exists'.mp (contentsHere _ inside plain)
    have here := (state.files _ content _).mpr ⟨_, inside, plain, rfl, whole, rfl⟩
    rw [directory] at here
    cases here
  · exact {
      base := by
        have top := below [] nowhere
        rw [List.append_nil, List.append_nil, directory] at top
        exact top
      marker := marker
      source := readBytes_some_iff.mpr ⟨archiveMode, source, readable⟩
      files := fun path free content mode => by
        rw [below path free, List.append_assoc]
        exact state.files (package ++ path) content mode
      regular := fun path node present => by
        by_cases free : path ∈ reservedPaths runtime
        · rcases List.mem_cons.mp free with rfl | here
          · rw [marker] at present
            exact .inr ⟨_, _, (Option.some.inj present).symm⟩
          · obtain rfl := List.mem_singleton.mp here
            rw [source] at present
            exact .inr ⟨_, _, (Option.some.inj present).symm⟩
        · rw [below path free, List.append_assoc] at present
          exact state.plain (package ++ path) node present }

/-! ### The check and the installation -/

/-- The entries of a manifest. -/
theorem mem_manifest {package : TreePath} {manifest : List (TreePath × Int × String)}
    (mapped : (packagedFiles checked package).mapM (manifestEntry runtime) = .ok manifest)
    {entry : TreePath × Int × String} :
    entry ∈ manifest ↔ ∃ member path content, (member, package ++ path) ∈ checked ∧
      member.isDirectory = false ∧ path ≠ [] ∧ path ∉ reservedPaths runtime ∧
      member.content = some content ∧ entry = (path, (content.length : Int), sha256 content) := by
  rw [mem_of_mapM_ok mapped]
  constructor
  · rintro ⟨⟨member, path⟩, inside, made⟩
    obtain ⟨here, plain, solid⟩ := mem_packagedFiles.mp inside
    obtain ⟨free, content, whole, same⟩ := manifestEntry_ok_iff.mp made
    exact ⟨member, path, content, here, plain, solid, free, whole, same⟩
  · rintro ⟨member, path, content, here, plain, solid, free, whole, same⟩
    exact ⟨(member, path), mem_packagedFiles.mpr ⟨here, plain, solid⟩,
      manifestEntry_ok_iff.mpr ⟨free, content, whole, same⟩⟩

/-- An archive that the check accepts once it is installed: the pinned one, with one file of
the executable's name, which is in the directory that was moved, with no file where the
installation keeps its metadata and with none there that its owner cannot read. -/
structure Acceptable (runtime : RuntimeAsset) (archive : List UInt8)
    (checked : List (ArchiveMember × TreePath)) (package : TreePath) : Prop where
  size : archive.length = runtime.sizeBytes
  digest : sha256 archive = casefold runtime.sha256
  executable : executableMembers checked runtime.executable = [package ++ [runtime.executable]]
  unreserved : ∀ item ∈ checked, item.1.isDirectory = false →
    ∀ path ∈ reservedPaths runtime, item.2 ≠ package ++ path
  readable : ∀ item ∈ checked, item.1.isDirectory = false → package <+: item.2 →
    ownerReads (item.1.permissions newFileMode) = true

section

variable {runtimeDir : TreePath} {runtime : RuntimeAsset} {archive : List UInt8}
  {members : List ArchiveMember} {checked : List (ArchiveMember × TreePath)} {package : TreePath}
  {tree : FileTree (List UInt8)}

omit [ArchiveTables] in
/-- A file of the archive below the package has a place in the manifest. -/
theorem path_of_packaged (outside : ∀ item ∈ checked, item.1.isDirectory = false → item.2 ≠ package)
    {item : ArchiveMember × TreePath} (inside : item ∈ checked)
    (plain : item.1.isDirectory = false) (below : package <+: item.2) :
    ∃ path, path ≠ [] ∧ item.2 = package ++ path := by
  obtain ⟨path, same⟩ := below
  refine ⟨path, ?_, same.symm⟩
  rintro rfl
  rw [List.append_nil] at same
  exact outside item inside plain same.symm

/-- What the check of an installed runtime says of its archive. -/
theorem acceptable_of_verified
    (listed : archiveMembers runtime.archiveType archive = some members)
    (contents : ∀ member ∈ members, member.isDirectory = false → member.content ≠ none)
    (registered : registerMembers [] members = .ok checked)
    (outside : ∀ item ∈ checked, item.1.isDirectory = false → item.2 ≠ package)
    (placed : Placed runtimeDir runtime archive checked package tree)
    (verified : runtimeIsVerified tree runtimeDir runtime = true) :
    Acceptable runtime archive checked package := by
  obtain ⟨-, -, _, manifest, read, ⟨size, digest⟩, derived, -, keys, entries⟩ :=
    runtimeIsVerified_iff.mp verified
  rw [placed.source] at read
  obtain rfl := Option.some.inj read
  obtain ⟨_, _, found, same, -, again, single, mapped, executable⟩ :=
    runtimeArchiveManifest_ok_iff.mp derived
  rw [listed] at same
  obtain rfl := Option.some.inj same
  rw [registered] at again
  obtain rfl := Except.ok.inj again
  -- The executable of the manifest is a file of the directory that was moved.
  have moved : found = package := by
    obtain ⟨free, content, mode, file⟩ := (keys _).mp executable
    obtain ⟨⟨member, _⟩, inside, plain, rfl, -⟩ := (placed.files _ free content mode).mp file
    have here : package ++ [runtime.executable] ∈
        executableMembers checked runtime.executable :=
      mem_executableMembers.mpr ⟨member, inside, plain, List.getLast?_concat⟩
    rw [single, List.mem_singleton] at here
    exact (List.append_inj_left' here rfl).symm
  subst moved
  have valid := (mapM_ok_iff (packagedFiles checked found)).mp ⟨manifest, mapped⟩
  have content : ∀ item ∈ checked, item.1.isDirectory = false → item.1.content ≠ none :=
    fun item inside => contents item.1
      (registerMembers_members registered ▸ List.mem_map_of_mem inside)
  have unreserved : ∀ item ∈ checked, item.1.isDirectory = false →
      ∀ path ∈ reservedPaths runtime, item.2 ≠ found ++ path := by
    rintro ⟨member, _⟩ inside plain path reserved rfl
    have solid : path ≠ [] := by
      rintro rfl
      exact outside _ inside plain (List.append_nil found)
    obtain ⟨entry, made⟩ := valid (member, path)
      (mem_packagedFiles.mpr ⟨inside, plain, solid⟩)
    exact (manifestEntry_ok_iff.mp made).1 reserved
  refine ⟨Int.ofNat_inj.mp size, digest, single, unreserved, ?_⟩
  rintro ⟨member, _⟩ inside plain below
  obtain ⟨path, solid, rfl⟩ := path_of_packaged outside inside plain below
  have free : path ∉ reservedPaths runtime := fun reserved =>
    unreserved _ inside plain path reserved rfl
  obtain ⟨bytes, whole⟩ := Option.ne_none_iff_exists'.mp (content _ inside plain)
  have verifiedHere := entries _ ((mem_manifest mapped).mpr
    ⟨member, path, bytes, inside, plain, solid, free, whole, rfl⟩)
  obtain ⟨stored, readHere, -⟩ := verifiedRegularFile_iff.mp verifiedHere
  obtain ⟨mode, file, readable⟩ := readBytes_some_iff.mp readHere
  have expected := (placed.files path free bytes _).mpr ⟨_, inside, plain, rfl, whole, rfl⟩
  rw [file] at expected
  obtain ⟨-, rfl⟩ := TreeNode.file.inj (Option.some.inj expected)
  exact readable

/-- The check accepts an installed runtime when its archive is acceptable. -/
theorem verified_of_acceptable
    (listed : archiveMembers runtime.archiveType archive = some members)
    (limits : checkArchiveLimits maxArchiveMembers maxArchiveBytes members = .ok ())
    (contents : ∀ member ∈ members, member.isDirectory = false → member.content ≠ none)
    (registered : registerMembers [] members = .ok checked)
    (placed : Placed runtimeDir runtime archive checked package tree)
    (acceptable : Acceptable runtime archive checked package) :
    runtimeIsVerified tree runtimeDir runtime = true := by
  have content : ∀ item ∈ checked, item.1.isDirectory = false → item.1.content ≠ none :=
    fun item inside => contents item.1
      (registerMembers_members registered ▸ List.mem_map_of_mem inside)
  have valid : ∀ file ∈ packagedFiles checked package, ∃ entry,
      manifestEntry runtime file = .ok entry := by
    rintro ⟨member, path⟩ inside
    obtain ⟨here, plain, -⟩ := mem_packagedFiles.mp inside
    obtain ⟨bytes, whole⟩ := Option.ne_none_iff_exists'.mp (content _ here plain)
    exact ⟨_, manifestEntry_ok_iff.mpr
      ⟨fun reserved => acceptable.unreserved _ here plain path reserved rfl, bytes, whole, rfl⟩⟩
  obtain ⟨manifest, mapped⟩ := (mapM_ok_iff _).mpr valid
  have keys : ∀ path, path ∈ manifest.map Prod.fst ↔ path ∉ reservedPaths runtime ∧
      ∃ content mode, tree.node (runtimeDir ++ path) = some (.file content mode) := by
    intro path
    rw [List.mem_map]
    constructor
    · rintro ⟨entry, inside, rfl⟩
      obtain ⟨member, path, bytes, here, plain, -, free, whole, rfl⟩ :=
        (mem_manifest mapped).mp inside
      exact ⟨free, bytes, _, (placed.files path free bytes _).mpr
        ⟨_, here, plain, rfl, whole, rfl⟩⟩
    · rintro ⟨free, bytes, mode, file⟩
      obtain ⟨⟨member, _⟩, here, plain, rfl, whole, -⟩ :=
        (placed.files path free bytes mode).mp file
      have solid : path ≠ [] := by
        rintro rfl
        rw [List.append_nil, placed.base] at file
        cases file
      exact ⟨_, (mem_manifest mapped).mpr
        ⟨member, path, bytes, here, plain, solid, free, whole, rfl⟩, rfl⟩
  have executable : [runtime.executable] ∈ manifest.map Prod.fst := by
    have here : package ++ [runtime.executable] ∈
        executableMembers checked runtime.executable := by
      rw [acceptable.executable]
      exact List.mem_cons_self
    obtain ⟨member, inside, plain, -⟩ := mem_executableMembers.mp here
    obtain ⟨bytes, whole⟩ := Option.ne_none_iff_exists'.mp (content _ inside plain)
    have free : [runtime.executable] ∉ reservedPaths runtime := fun reserved =>
      acceptable.unreserved _ inside plain _ reserved rfl
    exact List.mem_map.mpr ⟨_, (mem_manifest mapped).mpr ⟨member, [runtime.executable], bytes,
      inside, plain, List.cons_ne_nil _ _, free, whole, rfl⟩, rfl⟩
  refine runtimeIsVerified_iff.mpr ⟨placed.base, readBytes_some_iff.mpr
    ⟨newFileMode, placed.marker, by decide⟩, archive, manifest, placed.source,
    ⟨congrArg Int.ofNat acceptable.size, acceptable.digest⟩, ?_, placed.regular, keys, ?_⟩
  · exact runtimeArchiveManifest_ok_iff.mpr ⟨members, checked, package, listed, limits, registered,
      acceptable.executable, mapped, executable⟩
  · intro entry inside
    obtain ⟨member, path, bytes, here, plain, -, free, whole, rfl⟩ :=
      (mem_manifest mapped).mp inside
    have file := (placed.files path free bytes _).mpr ⟨_, here, plain, rfl, whole, rfl⟩
    exact verifiedRegularFile_iff.mpr ⟨bytes, readBytes_some_iff.mpr ⟨_, file,
      acceptable.readable _ here plain (List.prefix_append package path)⟩, rfl,
      (casefold_sha256 bytes).symm⟩

end

/-! ### What an accepted directory holds -/

/-- Equal bytes, but for two texts of one size and one digest. -/
def SameBytes (content data : List UInt8) : Prop :=
  content = data ∨ (content ≠ data ∧ content.length = data.length ∧ sha256 content = sha256 data)

/-- The files of the package with their bytes, from which the manifest is derived. -/
def PackagedBytes (checked : List (ArchiveMember × TreePath)) (package path : TreePath)
    (data : List UInt8) : Prop :=
  ∃ member, (member, package ++ path) ∈ checked ∧ member.isDirectory = false ∧ path ≠ [] ∧
    member.content = some data

/-- A directory that holds exactly the files of the package, the marker and the archive. -/
structure ExactRuntime (tree : FileTree (List UInt8)) (runtimeDir : TreePath)
    (runtime : RuntimeAsset) (checked : List (ArchiveMember × TreePath)) (package : TreePath) :
    Prop where
  marker : readBytes tree (runtimeDir ++ [runtimeMarkerName]) = some (encodeAscii runtime.sha256)
  regular : OnlyRegular tree runtimeDir
  /-- Every file but the two of the installation is one of the package. -/
  known : ∀ path content mode, tree.node (runtimeDir ++ path) = some (.file content mode) →
    path ∈ reservedPaths runtime ∨
      ∃ data, PackagedBytes checked package path data ∧ SameBytes content data
  /-- Every file of the package is there. -/
  present : ∀ path data, PackagedBytes checked package path data →
    path ∉ reservedPaths runtime ∧
      ∃ content, readBytes tree (runtimeDir ++ path) = some content ∧ SameBytes content data

/-- What the check accepts is the package of the pinned archive, up to collisions. -/
theorem exactRuntime_of_verified (verified : runtimeIsVerified tree runtimeDir runtime = true) :
    ∃ archive members checked package manifest,
      readBytes tree (runtimeDir ++ [runtimeSourceName runtime.archiveType]) = some archive ∧
      (archive.length = runtime.sizeBytes ∧ sha256 archive = casefold runtime.sha256) ∧
      archiveMembers runtime.archiveType archive = some members ∧
      registerMembers [] members = .ok checked ∧
      executableMembers checked runtime.executable = [package ++ [runtime.executable]] ∧
      runtimeArchiveManifest runtime archive = .ok manifest ∧
      (∀ path size digest, (path, size, digest) ∈ manifest ↔
        ∃ data, PackagedBytes checked package path data ∧ size = (data.length : Int) ∧
          digest = sha256 data) ∧
      ExactRuntime tree runtimeDir runtime checked package := by
  obtain ⟨-, marker, archive, manifest, read, ⟨size, digest⟩, derived, regular, keys, entries⟩ :=
    runtimeIsVerified_iff.mp verified
  obtain ⟨members, checked, package, listed, -, registered, single, mapped, -⟩ :=
    runtimeArchiveManifest_ok_iff.mp derived
  have valid := (mapM_ok_iff (packagedFiles checked package)).mp ⟨manifest, mapped⟩
  have free : ∀ path data, PackagedBytes checked package path data →
      path ∉ reservedPaths runtime := by
    rintro path data ⟨member, inside, plain, solid, -⟩
    obtain ⟨entry, made⟩ := valid (member, path) (mem_packagedFiles.mpr ⟨inside, plain, solid⟩)
    exact (manifestEntry_ok_iff.mp made).1
  have pairs : ∀ path size digest, (path, size, digest) ∈ manifest ↔
      ∃ data, PackagedBytes checked package path data ∧ size = (data.length : Int) ∧
        digest = sha256 data := by
    intro path size digest
    rw [mem_manifest mapped]
    constructor
    · rintro ⟨member, _, data, inside, plain, solid, -, whole, same⟩
      cases same
      exact ⟨data, ⟨member, inside, plain, solid, whole⟩, rfl, rfl⟩
    · rintro ⟨data, packaged, rfl, rfl⟩
      have reserved := free path data packaged
      obtain ⟨member, inside, plain, solid, whole⟩ := packaged
      exact ⟨member, path, data, inside, plain, solid, reserved, whole, rfl⟩
  -- The file that the check has read at the path of an entry.
  have checkedFile : ∀ path data, PackagedBytes checked package path data →
      ∃ content, readBytes tree (runtimeDir ++ path) = some content ∧ SameBytes content data := by
    intro path data packaged
    have entry := (pairs path _ _).mpr ⟨data, packaged, rfl, rfl⟩
    obtain ⟨content, here, length, sha⟩ := verifiedRegularFile_iff.mp (entries _ entry)
    refine ⟨content, here, ?_⟩
    by_cases same : content = data
    · exact .inl same
    · exact .inr ⟨same, Int.ofNat_inj.mp length, sha.trans (casefold_sha256 data)⟩
  refine ⟨archive, members, checked, package, manifest, read, ⟨Int.ofNat_inj.mp size, digest⟩,
    listed, registered, single, derived, pairs, marker, regular, ?_, ?_⟩
  · intro path content mode file
    by_cases reserved : path ∈ reservedPaths runtime
    · exact .inl reserved
    · obtain ⟨⟨_, size, digest⟩, entry, rfl⟩ :=
        List.mem_map.mp ((keys path).mpr ⟨reserved, content, mode, file⟩)
      obtain ⟨data, packaged, -, -⟩ := (pairs _ _ _).mp entry
      obtain ⟨stored, here, same⟩ := checkedFile _ data packaged
      obtain ⟨_, there, -⟩ := readBytes_some_iff.mp here
      dsimp only at file
      rw [file] at there
      obtain ⟨rfl, -⟩ := TreeNode.file.inj (Option.some.inj there)
      exact .inr ⟨data, packaged, same⟩
  · exact fun path data packaged => ⟨free path data packaged, checkedFile path data packaged⟩

/-- An installed runtime is accepted exactly when its archive is acceptable; what is accepted
is the package of the pinned archive with the two files of the installation; and every
extraction keeps to its destination and its limits. -/
theorem runtime_integrity :
    (∀ stopsFirst stops paths runtime tree placed,
      placeRuntime stopsFirst stops paths runtime tree = some placed →
      ∃ archive members checked package name,
        readBytes tree paths.archive = some archive ∧
        archiveMembers runtime.archiveType archive = some members ∧
        registerMembers [] members = .ok checked ∧
        (∀ path, path ∈ lookedUp checked runtime.executable ↔ path = package ++ [name]) ∧
        (runtimeIsVerified placed paths.runtimeDir runtime = true ↔
          Acceptable runtime archive checked package)) ∧
    (∀ tree runtimeDir runtime, runtimeIsVerified tree runtimeDir runtime = true →
      ∃ archive members checked package manifest,
        readBytes tree (runtimeDir ++ [runtimeSourceName runtime.archiveType]) = some archive ∧
        (archive.length = runtime.sizeBytes ∧ sha256 archive = casefold runtime.sha256) ∧
        archiveMembers runtime.archiveType archive = some members ∧
        registerMembers [] members = .ok checked ∧
        executableMembers checked runtime.executable = [package ++ [runtime.executable]] ∧
        runtimeArchiveManifest runtime archive = .ok manifest ∧
        (∀ path size digest, (path, size, digest) ∈ manifest ↔
          ∃ data, PackagedBytes checked package path data ∧ size = (data.length : Int) ∧
            digest = sha256 data) ∧
        ExactRuntime tree runtimeDir runtime checked package) ∧
    ∀ run members destination tree, ExtractionDiscipline run members destination tree := by
  refine ⟨?_, fun _ _ _ => exactRuntime_of_verified, safeExtractArchive_discipline⟩
  intro stopsFirst stops paths runtime tree placed installed
  obtain ⟨archive, members, checked, package, name, read, listed, limits, contents, registered,
    only, outside, state⟩ := placeRuntime_some installed
  refine ⟨archive, members, checked, package, name, read, listed, registered, only, ?_, ?_⟩
  · exact acceptable_of_verified listed contents registered outside state
  · exact verified_of_acceptable listed limits contents registered state

end

/-! ### Archives that install -/

/-- A member's bytes in one chunk. -/
def ArchiveStream.ofByte (byte : UInt8) : ArchiveStream where
  chunks := [[byte]]
  solid chunk inside := by
    rw [List.mem_singleton.mp inside]
    exact List.cons_ne_nil _ _

/-- A regular file of a ZIP archive. -/
def ZipMember.ofByte (filename : String) (byte : UInt8) : ZipMember :=
  { filename, mode := 0o100755, fileSize := 1, data := some (.ofByte byte) }

/-- Three archives: one with the executable and a library, one with a file in the place of the
marker, and one whose library its owner may not read. -/
@[reducible] def ArchiveTables.sample : ArchiveTables where
  casefold := id
  sha256 content := String.ofList (content.map fun byte => Char.ofNat byte.toNat)
  casefold_sha256 _ := rfl
  zipMembers
    | [65] => some [.ofByte "bin/llama-server" 1, .ofByte "bin/libllama.so" 2]
    | [66] => some [.ofByte "bin/llama-server" 1, .ofByte "bin/.catalog-sha256" 2]
    | _ => none
  tarMembers
    | [67] => some [⟨"llama/llama-server", .file, 0o755, 1, some (.ofByte 1)⟩,
        ⟨"llama/libllama.so", .file, 0o044, 1, some (.ofByte 2)⟩]
    | _ => none
  globMatches pattern name := pattern = name

/-- The paths of an installation below a data directory. -/
def RuntimePaths.sample : RuntimePaths where
  archive := ["data", "archive"]
  extracted := ["data", "staging"]
  runtimeDir := ["data", "runtime"]
  archiveStaged := by decide
  archiveInstalled := by decide
  runtimeStaged := by decide
  stagedInstalled := by decide

/-- The data directory with an archive in it. -/
def treeWithArchive (content : List UInt8) : FileTree (List UInt8) :=
  FileTree.putFile
    (FileTree.withDirectories ["data"]
      { node := fun _ => none, names := [], listed := fun _ => nofun, rooted := fun _ _ => nofun })
    ["data", "archive"] content 0o644 (by decide) rfl nofun

/-- The runtime of an archive of one byte. -/
def RuntimeAsset.sample (archiveType : ArchiveType) (sha256 : String) : RuntimeAsset where
  archiveType := archiveType
  sha256 := sha256
  sizeBytes := 1
  executable := "llama-server"

/-- Is the runtime accepted once an archive is installed? Nothing when it is not installed. -/
def acceptedAfterInstall (runtime : RuntimeAsset) (content : List UInt8) : Option Bool :=
  (@placeRuntime .sample none (fun _ _ => none) .sample runtime (treeWithArchive content)).map
    fun placed => @runtimeIsVerified .sample placed RuntimePaths.sample.runtimeDir runtime

/-- An archive that installs and is accepted. -/
theorem runtime_integrity_installed :
    ∃ archive checked package, @Acceptable .sample (.sample .zip "A") archive checked package := by
  have accepted : acceptedAfterInstall (.sample .zip "A") [65] = some true := by decide +kernel
  obtain ⟨placed, installed, verified⟩ := Option.map_eq_some_iff.mp accepted
  obtain ⟨archive, _, checked, package, _, -, -, -, -, exactly⟩ :=
    (@runtime_integrity .sample).1 _ _ _ _ _ _ installed
  exact ⟨archive, checked, package, exactly.mp verified⟩

/-- The extraction of an archive that cannot be read. -/
def unreadableExtraction (destination : TreePath) : ExtractResult :=
  @safeExtractArchive .sample {} none destination (treeWithArchive [])

/-- A file in the place of the marker, or one that its owner may not read, is installed and
rejected afterwards. An extraction that fails leaves a destination that was there before it,
and the missing directories above its own. -/
theorem installed_rejected :
    acceptedAfterInstall (.sample .zip "B") [66] = some false ∧
    acceptedAfterInstall (.sample .tarGz "C") [67] = some false ∧
    (unreadableExtraction ["data"]).failure = some .osError ∧
    FileTree.isDirectory ((unreadableExtraction ["data"]).tree.node ["data"]) = true ∧
    (unreadableExtraction ["other", "staging"]).failure = some .osError ∧
    FileTree.isDirectory ((treeWithArchive []).node ["other"]) = false ∧
    FileTree.isDirectory ((unreadableExtraction ["other", "staging"]).tree.node ["other"]) =
      true := by
  refine ⟨?_, ?_, ?_, ?_, ?_, ?_, ?_⟩
  · decide +kernel
  · decide +kernel
  · decide +kernel
  · decide +kernel
  · decide +kernel
  · decide +kernel
  · decide +kernel

end CareerOS
