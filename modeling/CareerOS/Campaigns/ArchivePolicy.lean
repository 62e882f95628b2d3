/-
This file is the policy for campaign archives: which names their entries may have,
what path a member gets, and the fingerprint of the whole. A name is checked as it
stands in the archive; then the directory all entries share is cut off, empty
segments are left out and the rest is normalized, and nothing of that may bring back
what the check refused.

The Unicode tables and SHA-256 are parameters.
-/

import CareerOS.Library.Dict
import CareerOS.Library.Numerals
import CareerOS.Library.Outcome
import CareerOS.Library.Split
import CareerOS.Library.Url

namespace CareerOS

/-! ### Entries -/

/-- The tables the names are read with, and what normalization keeps. -/
class NameTables where
  /-- `unicodedata.normalize("NFC", text)`. -/
  nfc : String → String
  nfc_nfc : ∀ text, nfc (nfc text) = nfc text
  nfc_slash : ∀ first second, nfc (first ++ "/" ++ second) = nfc first ++ "/" ++ nfc second
  nfc_dots : ∀ text, nfc text ∈ ["", ".", ".."] → nfc text = text
  /-- `unicodedata.category(letter).startswith("C")`. -/
  isOther : Char → Bool
  isOther_tab : isOther '\t' = true
  isOther_newline : isOther '\n' = true
  isOther_slash : isOther '/' = false
  /-- Normalization makes no control character and no separator. -/
  of_mem_nfc : ∀ text letter, letter ∈ (nfc text).toList →
    isOther letter = true ∨ letter ∈ ['/', '\\', ':'] → letter ∈ text.toList
  /-- `text.casefold()`. -/
  casefold : String → String
  /-- `repr(text)`. -/
  quoted : String → String

/-- `hashlib.sha256(data).hexdigest()`, taken as injective. -/
class ArchiveDigest where
  sha256 : List UInt8 → String
  injective : Function.Injective sha256
  oneLine : ∀ data, '\n' ∉ (sha256 data).toList

/-- `zipfile.ZipInfo`, with the content that is read for it: nothing where that fails. -/
structure ZipEntry where
  filename : String
  origFilename : String
  flagBits : Nat := 0
  externalAttr : Nat := 0
  fileSize : Nat
  content : Option (List UInt8)

/-- A readable archive: its size and its entries. -/
structure ZipArchive where
  size : Nat
  entries : List ZipEntry

/-- `CampaignArchiveMember`. -/
structure CampaignMember where
  canonicalPath : String
  rawBytes : List UInt8
  sha256 : String
  byteSize : Nat

/-- `CampaignArchiveInspection`. -/
structure CampaignInspection where
  fingerprint : String
  commonPrefix : String
  members : Dict String CampaignMember
  totalByteSize : Nat
  memberCount : Nat

def maxCompressedBytes : Nat := 128 * 1024 * 1024
def maxExpandedBytes : Nat := 256 * 1024 * 1024
def maxMembers : Nat := 5000
def maxFileBytes : Nat := 10 * 1024 * 1024

/-- `ALLOWED_ROOT_FILES`. -/
def allowedRootFiles : List String :=
  ["ApplicationTracker.xlsx", "Profile.md", "Goal.md", "Storytelling.md"]

/-- `ALLOWED_ROOT_DIRECTORIES`. -/
def allowedRootDirectories : List String :=
  ["assets", "application-packets", "cv-templates", "cover-letter-templates", "email-templates",
    "html-templates", "scripts"]

/-- `_is_symlink_or_special`. -/
def ZipEntry.isSymlinkOrSpecial (entry : ZipEntry) : Bool :=
  let mode := (entry.externalAttr >>> 16) &&& 0o170000
  mode ∈ [0o120000, 0o010000, 0o020000, 0o060000, 0o140000]

/-! ### Names -/

/-- `name.split("/")`. -/
def segments (name : String) : List String := (name.toList.splitOn '/').map String.ofList

/-- `[p for p in name.split("/") if p]`. -/
def nameParts (name : String) : List String := (segments name).filter fun part => part ≠ ""

/-- `"/".join(parts)`. -/
def joinSegments : List String → String
  | [] => ""
  | [part] => part
  | part :: rest => part ++ "/" ++ joinSegments rest

def endsWithSlash (name : String) : Bool := "/".toList.isSuffixOf name.toList

section

variable [NameTables]

/-- `_validate_path_syntax`. -/
def validatePathSyntax (name : String) : Except String Unit := do
  let startsWith (mark : String) : Bool := mark.toList.isPrefixOf name.toList
  refuseWhen (name.toList.any NameTables.isOther)
    ("Entry contains control characters: " ++ NameTables.quoted name)
  refuseWhen ('\\' ∈ name.toList) ("Entry contains backslash: " ++ name)
  refuseWhen (':' ∈ name.toList ∨ startsWith "//" ∨ startsWith "\\\\")
    ("Entry contains drive or UNC prefix: " ++ name)
  refuseWhen (startsWith "/") ("Entry contains absolute path: " ++ name)
  (segments name).forM fun part =>
    refuseWhen (part = ".." ∨ part = ".") ("Entry contains traversal segment: " ++ name)

end

/-- The first segments of the names, unless one of them is a file at the root. -/
def firstSegments (found : List String) : List String → Option (List String)
  | [] => some found
  | name :: rest =>
    let add (part : String) := if part ∈ found then found else found ++ [part]
    match nameParts name with
    | [] => firstSegments found rest
    | [part] => if endsWithSlash name then firstSegments (add part) rest else none
    | part :: _ :: _ => firstSegments (add part) rest

/-- `_detect_common_prefix`. -/
def detectCommonPrefix (names : List String) : String :=
  match firstSegments [] names with
  | some [candidate] => if candidate ∈ allowedRootDirectories then "" else candidate
  | _ => ""

/-- `_is_allowed_root`. -/
def isAllowedRoot [TextTables] (canonicalPath : String) : Bool :=
  match segments canonicalPath with
  | root :: _ :: _ => root ∈ allowedRootDirectories
  | _ => canonicalPath ∈ allowedRootFiles ||
      ".pdf".toList.isSuffixOf (TextTables.lower canonicalPath).toList

/-- `filename[prefix_len:]`. -/
def cutName (commonPrefix filename : String) : String :=
  String.ofList (filename.toList.drop
    (if commonPrefix = "" then 0 else commonPrefix.length + 1))

/-- `"/".join(p for p in raw_name.split("/") if p)`. -/
def cleanedName (commonPrefix filename : String) : String :=
  joinSegments (nameParts (cutName commonPrefix filename))

/-! ### The inspection -/

/-- The state of the loop over the entries. -/
structure InspectionState where
  seenCanonical : Dict String String := []
  members : Dict String CampaignMember := []
  totalExpanded : Nat := 0

section

variable [NameTables] [TextTables] [ArchiveDigest]

/-- One entry of the archive. -/
def inspectEntry (commonPrefix : String) (state : InspectionState) (entry : ZipEntry) :
    Except String InspectionState := do
  refuseWhen (entry.flagBits &&& 0x1 ≠ 0) ("Archive contains encrypted entry: " ++ entry.filename)
  refuseWhen entry.isSymlinkOrSpecial
    ("Archive contains symlink or special file: " ++ entry.filename)
  let cleaned := cleanedName commonPrefix entry.filename
  if endsWithSlash entry.filename then return state
  else
    refuseWhen (cleaned = "") ("Entry normalizes to empty path: " ++ entry.filename)
    let canonicalPath := NameTables.nfc cleaned
    let canonicalKey := NameTables.casefold canonicalPath
    match Dict.lookup canonicalKey state.seenCanonical with
    | some other => throw ("Archive contains duplicate entry: " ++ cleaned ++ " and " ++ other)
    | none =>
      refuseWhen (¬isAllowedRoot canonicalPath)
        ("Archive contains unsupported root entry: " ++ canonicalPath)
      refuseWhen (entry.fileSize > maxFileBytes)
        ("Entry " ++ canonicalPath ++ " exceeds file size limit of " ++ toString maxFileBytes)
      let totalExpanded := state.totalExpanded + entry.fileSize
      refuseWhen (totalExpanded > maxExpandedBytes)
        ("Archive exceeds expanded limit of " ++ toString maxExpandedBytes)
      match entry.content with
      | none => throw ("Failed to read entry " ++ canonicalPath)
      | some content =>
        refuseWhen (content.length ≠ entry.fileSize)
          ("Entry " ++ canonicalPath ++ " byte size mismatch")
        return {
          seenCanonical := Dict.assign canonicalKey canonicalPath state.seenCanonical
          members := Dict.assign canonicalPath
            { canonicalPath
              rawBytes := content
              sha256 := ArchiveDigest.sha256 content
              byteSize := content.length } state.members
          totalExpanded }

/-- The line of a member in the text the fingerprint is made of. -/
def fingerprintLine (member : CampaignMember) : String :=
  member.canonicalPath ++ "\t" ++ toString member.byteSize ++ "\t" ++ member.sha256 ++ "\n"

/-- The fingerprint of the members: the digest of their lines, by path. -/
def fingerprintOf (members : Dict String CampaignMember) : String :=
  let paths := (Dict.keys members).insertionSort (· ≤ ·)
  let lines := paths.filterMap fun path => (Dict.lookup path members).map fingerprintLine
  ArchiveDigest.sha256 (String.join lines).toUTF8.data.toList

/-- `inspect_and_validate_campaign_archive`. -/
def inspectArchive (archive : ZipArchive) : Except String CampaignInspection := do
  refuseWhen (archive.size > maxCompressedBytes)
    ("Archive exceeds compressed limit of " ++ toString maxCompressedBytes ++ " bytes")
  refuseWhen (archive.entries.length > maxMembers)
    ("Archive exceeds members limit of " ++ toString maxMembers)
  archive.entries.forM fun entry => do
    validatePathSyntax entry.filename
    if entry.origFilename ≠ entry.filename then validatePathSyntax entry.origFilename
  let commonPrefix := detectCommonPrefix (archive.entries.map ZipEntry.filename)
  let state ← archive.entries.foldlM (inspectEntry commonPrefix) {}
  refuseWhen (state.members = []) "Archive contains no valid allowlisted files"
  return {
    fingerprint := fingerprintOf state.members
    commonPrefix
    members := state.members
    totalByteSize := state.totalExpanded
    memberCount := state.members.length }

end

/-! ### Segments -/

theorem mem_segments {name part : String} (member : part ∈ segments name) :
    '/' ∉ part.toList ∧ part.toList ⊆ name.toList := by
  obtain ⟨letters, inside, rfl⟩ := List.mem_map.mp member
  rw [String.toList_ofList]
  exact mem_splitOn inside

variable {name : String}

theorem segments_of_plain (plain : '/' ∉ name.toList) : segments name = [name] := by
  unfold segments
  rw [List.splitOn_eq_singleton plain, List.map_singleton, String.ofList_toList]

theorem segments_append {part : String} (plain : '/' ∉ part.toList) (rest : String) :
    segments (part ++ "/" ++ rest) = part :: segments rest := by
  have letters : (part ++ "/" ++ rest).toList = part.toList ++ '/' :: rest.toList := by simp
  unfold segments
  rw [letters, List.splitOn_append_cons_self_of_not_mem plain, List.map_cons, String.ofList_toList]

variable {parts : List String}

/-- What is joined is split into its parts. -/
theorem segments_joinSegments (some : parts ≠ [])
    (plain : ∀ part ∈ parts, '/' ∉ part.toList) : segments (joinSegments parts) = parts := by
  induction parts with
  | nil => exact absurd rfl some
  | cons part rest inductionHypothesis =>
    obtain ⟨here, later⟩ := List.forall_mem_cons.mp plain
    cases rest with
    | nil => exact segments_of_plain here
    | cons next others =>
      show segments (part ++ "/" ++ joinSegments (next :: others)) = _
      rw [segments_append here, inductionHypothesis (List.cons_ne_nil _ _) later]

section

variable [NameTables]

/-- Normalization works on the segments of a name. -/
theorem nfc_joinSegments (some : parts ≠ []) :
    NameTables.nfc (joinSegments parts) = joinSegments (parts.map NameTables.nfc) := by
  induction parts with
  | nil => exact absurd rfl some
  | cons part rest inductionHypothesis =>
    cases rest with
    | nil => rfl
    | cons next others =>
      show NameTables.nfc (part ++ "/" ++ joinSegments (next :: others)) = _
      rw [NameTables.nfc_slash, inductionHypothesis (List.cons_ne_nil _ _)]
      rfl

theorem plain_nfc {part : String} (plain : '/' ∉ part.toList) :
    '/' ∉ (NameTables.nfc part).toList :=
  fun inside => plain (NameTables.of_mem_nfc part '/' inside (.inr List.mem_cons_self))

/-- The segments of a normalized name are the normalized segments. -/
theorem segments_nfc_joinSegments (some : parts ≠ []) (plain : ∀ part ∈ parts, '/' ∉ part.toList) :
    segments (NameTables.nfc (joinSegments parts)) = parts.map NameTables.nfc := by
  rw [nfc_joinSegments some]
  refine segments_joinSegments (fun none => some (List.map_eq_nil_iff.mp none)) ?_
  intro part member
  obtain ⟨was, inside, rfl⟩ := List.mem_map.mp member
  exact plain_nfc (plain was inside)

/-- A name that passes the check. -/
structure SafeName (name : String) : Prop where
  letters : ∀ letter ∈ name.toList,
    NameTables.isOther letter = false ∧ letter ≠ '\\' ∧ letter ≠ ':'
  relative : ¬['/'] <+: name.toList
  parts : ∀ part ∈ segments name, part ≠ ".." ∧ part ≠ "."

theorem safeName_of_validatePathSyntax
    (accepted : validatePathSyntax name = .ok ()) : SafeName name := by
  simp only [validatePathSyntax, bind_ok_iff, refuseWhen_ok_iff, not_or] at accepted
  obtain ⟨-, plain, -, backslash, -, ⟨colon, -⟩, -, relative, dots⟩ := accepted
  refine ⟨fun letter member => ⟨?_, ?_, ?_⟩, fun slash => ?_, fun part member => ?_⟩
  · by_contra other
    exact plain (List.any_eq_true.mpr ⟨letter, member, Bool.eq_true_of_not_eq_false other⟩)
  · rintro rfl
    exact backslash member
  · rintro rfl
    exact colon member
  · exact relative (List.isPrefixOf_iff_prefix.mpr slash)
  · have kept := (forM_ok_iff _).mp dots part member
    rw [refuseWhen_ok_iff, not_or] at kept
    exact kept

end

/-! ### The directory that is cut off -/

/-- Where no name is a file at the root, the first segment of every name is collected. -/
theorem firstSegments_some {names found collected : List String}
    (read : firstSegments found names = some collected) : found ⊆ collected ∧
      ∀ name ∈ names, nameParts name = [] ∨ ∃ part rest, nameParts name = part :: rest ∧
        part ∈ collected ∧ (rest ≠ [] ∨ endsWithSlash name = true) := by
  induction names generalizing found with
  | nil =>
    obtain rfl := Option.some.inj read
    exact ⟨fun part inside => inside, nofun⟩
  | cons name others inductionHypothesis =>
    have added (part : String) : part ∈ (if part ∈ found then found else found ++ [part]) ∧
        found ⊆ (if part ∈ found then found else found ++ [part]) := by
      split
      · next known => exact ⟨known, fun _ inside => inside⟩
      · exact ⟨List.mem_append_right _ (List.mem_singleton_self part),
          List.subset_append_left _ _⟩
    unfold firstSegments at read
    simp only at read
    split at read
    · next none =>
      obtain ⟨kept, each⟩ := inductionHypothesis read
      exact ⟨kept, List.forall_mem_cons.mpr ⟨.inl none, each⟩⟩
    · next part only =>
      split at read
      · next slash =>
        obtain ⟨kept, each⟩ := inductionHypothesis read
        exact ⟨fun _ inside => kept ((added part).2 inside), List.forall_mem_cons.mpr
          ⟨.inr ⟨part, [], only, kept (added part).1, .inr slash⟩, each⟩⟩
      · cases read
    · next part next rest more =>
      obtain ⟨kept, each⟩ := inductionHypothesis read
      exact ⟨fun _ inside => kept ((added part).2 inside), List.forall_mem_cons.mpr
        ⟨.inr ⟨part, next :: rest, more, kept (added part).1, .inl (List.cons_ne_nil _ _)⟩, each⟩⟩

/-- A name that does not begin with a slash is empty, one segment, or a segment, a slash and the
rest. -/
theorem nameParts_cases (relative : ¬['/'] <+: name.toList) :
    name = "" ∨ '/' ∉ name.toList ∧ nameParts name = [name] ∨
      ∃ part rest, '/' ∉ part.toList ∧ part ≠ "" ∧ name = part ++ "/" ++ rest ∧
        nameParts name = part :: nameParts rest := by
  by_cases slash : '/' ∈ name.toList
  · obtain ⟨before, after, split, plain⟩ := List.eq_append_cons_of_mem slash
    have whole : name = String.ofList before ++ "/" ++ String.ofList after := by
      refine String.toList_inj.mp ?_
      rw [split]
      simp
    have filled : String.ofList before ≠ "" := fun empty => by
      have none := congrArg String.toList empty
      rw [String.toList_ofList] at none
      subst none
      exact relative (split ▸ List.prefix_append ['/'] after)
    have plainPart : '/' ∉ (String.ofList before).toList := by rwa [String.toList_ofList]
    refine .inr (.inr ⟨_, _, plainPart, filled, whole, ?_⟩)
    unfold nameParts
    rw [whole, segments_append plainPart]
    exact List.filter_cons_of_pos (decide_eq_true filled)
  · by_cases empty : name = ""
    · exact .inl empty
    · refine .inr (.inl ⟨slash, ?_⟩)
      unfold nameParts
      rw [segments_of_plain slash]
      exact List.filter_cons_of_pos (decide_eq_true empty)

/-- A directory and a slash are cut off. -/
theorem cutName_append {part : String} (filled : part ≠ "") (rest : String) :
    cutName part (part ++ "/" ++ rest) = rest := by
  have letters : (part ++ "/" ++ rest).toList = part.toList ++ '/' :: rest.toList := by simp
  unfold cutName
  rw [if_neg filled, letters, ← String.length_toList, List.drop_append]
  simp

theorem cutName_nothing (name : String) : cutName "" name = name := by
  unfold cutName
  rw [if_pos rfl, List.drop_zero, String.ofList_toList]

/-- What is left of a name has no segments the name had not. -/
theorem nameParts_cutName {names : List String} (member : name ∈ names)
    (relative : ¬['/'] <+: name.toList) :
    nameParts (cutName (detectCommonPrefix names) name) ⊆ nameParts name := by
  have whole : nameParts (cutName "" name) ⊆ nameParts name := by
    rw [cutName_nothing]
    exact fun _ inside => inside
  unfold detectCommonPrefix
  split
  · next candidate read =>
    split
    · exact whole
    · rcases nameParts_cases relative with rfl | ⟨plain, only⟩ | ⟨part, rest, -, filled, rfl, parts⟩
      · have nothing : cutName candidate "" = "" := by
          unfold cutName
          rw [String.toList_empty, List.drop_nil, String.ofList_nil]
        rw [nothing]
        exact fun _ inside => inside
      · rcases (firstSegments_some read).2 name member with none | ⟨first, rest, parts, -, more⟩
        · rw [only] at none
          cases none
        · rw [only] at parts
          obtain ⟨-, rfl⟩ := List.cons.inj parts
          refine absurd ((List.isSuffixOf_iff_suffix.mp (more.resolve_left nofun)).subset ?_) plain
          exact List.mem_singleton_self _
      · rcases (firstSegments_some read).2 _ member with
          none | ⟨first, others, firstParts, inside, -⟩
        · rw [parts] at none
          cases none
        · rw [parts] at firstParts
          obtain ⟨rfl, -⟩ := List.cons.inj firstParts
          obtain rfl := List.mem_singleton.mp inside
          rw [cutName_append filled, parts]
          exact List.subset_cons_self _ _
  · exact whole

/-! ### The paths of the members -/

section

variable [NameTables]

/-- A path as the members have them: normalized and relative, with segments that are names. -/
structure CanonicalPath (path : String) : Prop where
  normalized : NameTables.nfc path = path
  relative : ¬['/'] <+: path.toList
  parts : ∀ part ∈ segments path, part ≠ "" ∧ part ≠ "." ∧ part ≠ ".."
  letters : ∀ letter ∈ path.toList,
    NameTables.isOther letter = false ∧ letter ≠ '\\' ∧ letter ≠ ':'

omit [NameTables] in
theorem mem_joinSegments {letter : Char} (inside : letter ∈ (joinSegments parts).toList) :
    letter = '/' ∨ ∃ part ∈ parts, letter ∈ part.toList := by
  induction parts with
  | nil => cases inside
  | cons part rest inductionHypothesis =>
    cases rest with
    | nil => exact .inr ⟨part, List.mem_cons_self, inside⟩
    | cons next others =>
      have split : letter ∈ (part ++ "/" ++ joinSegments (next :: others)).toList := inside
      simp only [String.toList_append, List.mem_append] at split
      rcases split with (here | slash) | later
      · exact .inr ⟨part, List.mem_cons_self, here⟩
      · exact .inl (List.mem_singleton.mp slash)
      · refine (inductionHypothesis later).imp_right ?_
        rintro ⟨other, member, there⟩
        exact ⟨other, List.mem_cons_of_mem _ member, there⟩

omit [NameTables] in
theorem mem_nameParts {name part : String} :
    part ∈ nameParts name ↔ part ∈ segments name ∧ part ≠ "" := by
  unfold nameParts
  rw [List.mem_filter, decide_eq_true_eq]

/-- What is left of a safe name is normalized to a canonical path. -/
theorem canonicalPath_of_safe {names : List String} (member : name ∈ names)
    (safe : SafeName name) (filled : cleanedName (detectCommonPrefix names) name ≠ "") :
    CanonicalPath (NameTables.nfc (cleanedName (detectCommonPrefix names) name)) := by
  have kept := nameParts_cutName member safe.relative
  have plain : ∀ part ∈ nameParts (cutName (detectCommonPrefix names) name),
      '/' ∉ part.toList := fun part inside => (mem_segments (mem_nameParts.mp inside).1).1
  have some : nameParts (cutName (detectCommonPrefix names) name) ≠ [] := fun none => by
    unfold cleanedName at filled
    rw [none] at filled
    exact filled rfl
  have parts := segments_nfc_joinSegments some plain
  have joined := nfc_joinSegments some
  have each : ∀ part ∈ segments (NameTables.nfc (cleanedName (detectCommonPrefix names) name)),
      part ≠ "" ∧ part ≠ "." ∧ part ≠ ".." := by
    intro part inside
    unfold cleanedName at inside
    rw [parts] at inside
    obtain ⟨was, wasInside, rfl⟩ := List.mem_map.mp inside
    obtain ⟨inName, wasFilled⟩ := mem_nameParts.mp (kept wasInside)
    obtain ⟨noParent, noSelf⟩ := safe.parts was inName
    refine ⟨fun empty => wasFilled ?_, fun self => noSelf ?_, fun parent => noParent ?_⟩
    · rw [← NameTables.nfc_dots was (by simp [empty]), empty]
    · rw [← NameTables.nfc_dots was (by simp [self]), self]
    · rw [← NameTables.nfc_dots was (by simp [parent]), parent]
  refine ⟨NameTables.nfc_nfc _, fun slash => ?_, each, fun letter inside => ?_⟩
  · obtain ⟨rest, split⟩ := slash
    have whole : NameTables.nfc (cleanedName (detectCommonPrefix names) name) =
        "" ++ "/" ++ String.ofList rest := by
      refine String.toList_inj.mp ?_
      rw [← split]
      simp
    have plain : '/' ∉ "".toList := nofun
    have first := segments_append plain (String.ofList rest)
    rw [← whole] at first
    exact (each "" (first ▸ List.mem_cons_self)).1 rfl
  · have source : letter = '/' ∨ letter ∈ name.toList ∨
        (NameTables.isOther letter = false ∧ letter ≠ '\\' ∧ letter ≠ ':') := by
      unfold cleanedName at inside
      rw [joined] at inside
      rcases mem_joinSegments inside with slash | ⟨part, partMember, here⟩
      · exact .inl slash
      · obtain ⟨was, wasInside, rfl⟩ := List.mem_map.mp partMember
        by_cases watched : NameTables.isOther letter = true ∨ letter ∈ ['/', '\\', ':']
        · have inWas := NameTables.of_mem_nfc was letter here watched
          exact .inr (.inl ((mem_segments (mem_nameParts.mp (kept wasInside)).1).2 inWas))
        · obtain ⟨plainLetter, others⟩ := not_or.mp watched
          refine .inr (.inr ⟨Bool.eq_false_of_not_eq_true plainLetter, ?_, ?_⟩)
          · rintro rfl
            exact others (by decide)
          · rintro rfl
            exact others (by decide)
    rcases source with rfl | inName | fine
    · exact ⟨NameTables.isOther_slash, by decide, by decide⟩
    · exact safe.letters letter inName
    · exact fine

end

/-! ### The loop over the entries -/

variable {content : List UInt8}

section

variable [NameTables] [TextTables] [ArchiveDigest]

/-- The member an entry becomes. -/
structure MemberOf (commonPrefix : String) (entry : ZipEntry) (member : CampaignMember) :
    Prop where
  path : member.canonicalPath = NameTables.nfc (cleanedName commonPrefix entry.filename)
  filled : cleanedName commonPrefix entry.filename ≠ ""
  content : entry.content = some member.rawBytes
  size : member.byteSize = member.rawBytes.length
  digest : member.sha256 = ArchiveDigest.sha256 member.rawBytes
  allowed : isAllowedRoot member.canonicalPath = true
  small : member.byteSize ≤ maxFileBytes
  regular : entry.isSymlinkOrSpecial = false

/-- What holds after some entries: the files among them are the members, under paths that differ
in more than case, and the sizes are added up. -/
structure Inspected (commonPrefix : String) (done : List ZipEntry) (state : InspectionState) :
    Prop where
  members : List.Forall₂ (MemberOf commonPrefix)
    (done.filter fun entry => !endsWithSlash entry.filename) (state.members.map Prod.snd)
  keyed : ∀ item ∈ state.members, item.1 = item.2.canonicalPath
  seen : Dict.keys state.seenCanonical =
    state.members.map fun item => NameTables.casefold item.1
  apart : (state.members.map fun item => NameTables.casefold item.1).Nodup
  total : state.totalExpanded = (state.members.map fun item => item.2.byteSize).sum
  bounded : state.totalExpanded ≤ maxExpandedBytes

variable {commonPrefix : String}

/-- A file with a path of its own is one more member. -/
theorem Inspected.push {done : List ZipEntry} {state : InspectionState}
    (before : Inspected commonPrefix done state) (entry : ZipEntry)
    (file : ¬endsWithSlash entry.filename = true)
    (filled : cleanedName commonPrefix entry.filename ≠ "")
    (fresh : Dict.lookup (NameTables.casefold (NameTables.nfc
      (cleanedName commonPrefix entry.filename))) state.seenCanonical = none)
    (allowed : isAllowedRoot (NameTables.nfc (cleanedName commonPrefix entry.filename)) = true)
    (small : entry.fileSize ≤ maxFileBytes)
    (bounded : state.totalExpanded + entry.fileSize ≤ maxExpandedBytes)
    (regular : entry.isSymlinkOrSpecial = false)
    (read : entry.content = some content) (size : content.length = entry.fileSize) :
    Inspected commonPrefix (done ++ [entry]) {
      seenCanonical := Dict.assign (NameTables.casefold (NameTables.nfc
        (cleanedName commonPrefix entry.filename)))
          (NameTables.nfc (cleanedName commonPrefix entry.filename)) state.seenCanonical
      members := Dict.assign (NameTables.nfc (cleanedName commonPrefix entry.filename))
        { canonicalPath := NameTables.nfc (cleanedName commonPrefix entry.filename)
          rawBytes := content
          sha256 := ArchiveDigest.sha256 content
          byteSize := content.length } state.members
      totalExpanded := state.totalExpanded + entry.fileSize } := by
  generalize path : NameTables.nfc (cleanedName commonPrefix entry.filename) = canonicalPath at *
  have unseen : NameTables.casefold canonicalPath ∉ Dict.keys state.seenCanonical := fun seen => by
    obtain ⟨other, known⟩ := (Dict.mem_keys_iff _ _).mp seen
    rw [fresh] at known
    cases known
  have newPath : canonicalPath ∉ Dict.keys state.members := fun known => by
    obtain ⟨item, member, rfl⟩ := List.mem_map.mp known
    rw [before.seen] at unseen
    exact unseen (List.mem_map_of_mem member)
  have isFile : (done ++ [entry]).filter (fun entry => !endsWithSlash entry.filename) =
      done.filter (fun entry => !endsWithSlash entry.filename) ++ [entry] := by
    rw [List.filter_append]
    congr 1
    exact List.filter_cons_of_pos (by simpa using file)
  rw [Dict.assign_of_not_mem _ unseen, Dict.assign_of_not_mem _ newPath]
  constructor
  · rw [isFile, List.map_append]
    refine List.rel_append before.members (.cons ?_ .nil)
    exact { path := path.symm, filled, content := read, size := rfl, digest := rfl, allowed
            small := size ▸ small, regular }
  · intro item member
    rcases List.mem_append.mp member with earlier | last
    · exact before.keyed item earlier
    · rw [List.mem_singleton.mp last]
  · simp only [Dict.keys, List.map_append, List.map_cons, List.map_nil]
    exact congrArg (· ++ [NameTables.casefold canonicalPath]) before.seen
  · rw [List.map_append, List.nodup_append, ← before.seen]
    refine ⟨before.seen ▸ before.apart, List.nodup_singleton _, ?_⟩
    rintro key seen _ last rfl
    have same : key = NameTables.casefold canonicalPath := List.mem_singleton.mp last
    exact unseen (same ▸ seen)
  · rw [List.map_append, List.sum_append, ← before.total, size]
    simp
  · exact bounded

theorem inspected_inspectEntry {done : List ZipEntry}
    {state next : InspectionState} {entry : ZipEntry}
    (before : Inspected commonPrefix done state)
    (accepted : inspectEntry commonPrefix state entry = .ok next) :
    Inspected commonPrefix (done ++ [entry]) next := by
  unfold inspectEntry at accepted
  simp only [bind_ok_iff, refuseWhen_ok_iff] at accepted
  obtain ⟨-, -, -, regular, accepted⟩ := accepted
  split at accepted
  · next slash =>
    obtain rfl := pure_ok_iff.mp accepted
    have skipped : (done ++ [entry]).filter (fun entry => !endsWithSlash entry.filename) =
        done.filter fun entry => !endsWithSlash entry.filename := by
      rw [List.filter_append, List.filter_singleton, slash]
      simp
    exact { before with members := skipped ▸ before.members }
  · next file =>
    simp only [bind_ok_iff, refuseWhen_ok_iff] at accepted
    obtain ⟨-, filled, accepted⟩ := accepted
    split at accepted
    · cases accepted
    · next fresh =>
      simp only [bind_ok_iff, refuseWhen_ok_iff, not_not] at accepted
      obtain ⟨-, allowed, -, small, -, bounded, accepted⟩ := accepted
      split at accepted
      · cases accepted
      · next content read =>
        simp only [bind_ok_iff, refuseWhen_ok_iff, not_not, pure_ok_iff] at accepted
        obtain ⟨-, size, rfl⟩ := accepted
        exact before.push entry file filled fresh allowed (not_lt.mp small) (not_lt.mp bounded)
          (Bool.eq_false_of_not_eq_true regular) read size

/-- The loop over the entries. -/
theorem inspected_foldlM {entries done : List ZipEntry}
    {state final : InspectionState} (before : Inspected commonPrefix done state)
    (accepted : entries.foldlM (inspectEntry commonPrefix) state = .ok final) :
    Inspected commonPrefix (done ++ entries) final := by
  induction entries generalizing done state with
  | nil =>
    obtain rfl := pure_ok_iff.mp accepted
    rw [List.append_nil]
    exact before
  | cons entry rest inductionHypothesis =>
    rw [List.foldlM_cons, bind_ok_iff] at accepted
    obtain ⟨next, stepped, later⟩ := accepted
    have after := inductionHypothesis (inspected_inspectEntry before stepped) later
    rwa [List.append_assoc, List.singleton_append] at after

theorem inspected_nothing (commonPrefix : String) : Inspected commonPrefix [] {} where
  members := .nil
  keyed := nofun
  seen := rfl
  apart := List.nodup_nil
  total := rfl
  bounded := Nat.zero_le _

end

/-! ### The fingerprint -/

/-- Where two lists have the first of their marks, they are equal before it and after it. -/
theorem eq_of_append_mark {Item : Type} [DecidableEq Item] {mark : Item}
    {first second rest others : List Item} (one : mark ∉ first) (two : mark ∉ second)
    (same : first ++ mark :: rest = second ++ mark :: others) : first = second ∧ rest = others := by
  have parts := congrArg (List.splitOn mark) same
  rw [List.splitOn_append_cons_self_of_not_mem one, List.splitOn_append_cons_self_of_not_mem two]
    at parts
  obtain ⟨rfl, -⟩ := List.cons.inj parts
  exact ⟨rfl, (List.cons.inj (List.append_cancel_left same)).2⟩

/-- Lines are read back from their text. -/
theorem eq_of_flatMap_lines {Item : Type} [DecidableEq Item] {mark : Item}
    {first second : List (List Item)} (one : ∀ line ∈ first, mark ∉ line)
    (two : ∀ line ∈ second, mark ∉ line)
    (same : first.flatMap (· ++ [mark]) = second.flatMap (· ++ [mark])) : first = second := by
  induction first generalizing second with
  | nil =>
    cases second with
    | nil => rfl
    | cons line rest => simp at same
  | cons line rest inductionHypothesis =>
    cases second with
    | nil => simp at same
    | cons other others =>
      obtain ⟨plain, plainRest⟩ := List.forall_mem_cons.mp one
      obtain ⟨otherPlain, plainOthers⟩ := List.forall_mem_cons.mp two
      rw [List.flatMap_cons, List.flatMap_cons, List.append_assoc, List.append_assoc,
        List.singleton_append, List.singleton_append] at same
      obtain ⟨rfl, later⟩ := eq_of_append_mark plain otherPlain same
      rw [inductionHypothesis plainRest plainOthers later]

section

variable [ArchiveDigest]

/-- A member with the digest and the size of its content and a path on one line. -/
structure SealedMember (member : CampaignMember) : Prop where
  tab : '\t' ∉ member.canonicalPath.toList
  newline : '\n' ∉ member.canonicalPath.toList
  size : member.byteSize = member.rawBytes.length
  digest : member.sha256 = ArchiveDigest.sha256 member.rawBytes

/-- The line of a member, without its end. -/
def lineOf (member : CampaignMember) : List Char :=
  member.canonicalPath.toList ++ '\t' :: ((toString member.byteSize).toList ++
    '\t' :: member.sha256.toList)

omit [ArchiveDigest] in
theorem toList_fingerprintLine (member : CampaignMember) :
    (fingerprintLine member).toList = lineOf member ++ ['\n'] := by
  unfold fingerprintLine lineOf
  simp

theorem SealedMember.oneLine {member : CampaignMember} (sealed : SealedMember member) :
    '\n' ∉ lineOf member := by
  intro inside
  rcases List.mem_append.mp inside with path | later
  · exact sealed.newline path
  · rcases List.mem_append.mp (List.mem_of_ne_of_mem (by decide) later) with size | digest
    · exact not_mem_digits (by decide) _ size
    · refine ArchiveDigest.oneLine member.rawBytes ?_
      rw [← sealed.digest]
      exact List.mem_of_ne_of_mem (by decide) digest

/-- A line tells the path and the content of a member. -/
theorem eq_of_lineOf {first second : CampaignMember} (one : SealedMember first)
    (two : SealedMember second) (same : lineOf first = lineOf second) :
    first.canonicalPath = second.canonicalPath ∧ first.rawBytes = second.rawBytes := by
  obtain ⟨path, later⟩ := eq_of_append_mark one.tab two.tab same
  obtain ⟨-, digest⟩ := eq_of_append_mark (not_mem_digits (by decide) _)
    (not_mem_digits (by decide) _) later
  have digests := String.toList_inj.mp digest
  rw [one.digest, two.digest] at digests
  exact ⟨String.toList_inj.mp path, ArchiveDigest.injective digests⟩

theorem fingerprintLine_congr {first second : CampaignMember} (one : SealedMember first)
    (two : SealedMember second) (path : first.canonicalPath = second.canonicalPath)
    (content : first.rawBytes = second.rawBytes) :
    fingerprintLine first = fingerprintLine second := by
  unfold fingerprintLine
  rw [path, one.size, two.size, one.digest, two.digest, content]

/-- Members under their own paths. -/
structure SealedMembers (members : Dict String CampaignMember) : Prop where
  distinct : (Dict.keys members).Nodup
  keyed : ∀ item ∈ members, item.1 = item.2.canonicalPath
  sealed : ∀ item ∈ members, SealedMember item.2

/-- There is a member with a path and a content. -/
def HoldsFile (members : Dict String CampaignMember) (path : String) (content : List UInt8) :
    Prop :=
  ∃ member, (path, member) ∈ members ∧ member.rawBytes = content

omit [ArchiveDigest] in
theorem holdsFile_iff {members : Dict String CampaignMember} {path : String}
    : HoldsFile members path content ↔
      (path, content) ∈ members.map fun item => (item.1, item.2.rawBytes) := by
  unfold HoldsFile
  rw [List.mem_map]
  constructor
  · rintro ⟨member, there, rfl⟩
    exact ⟨_, there, rfl⟩
  · rintro ⟨⟨_, member⟩, there, same⟩
    obtain ⟨rfl, rfl⟩ := Prod.mk.inj same
    exact ⟨member, there, rfl⟩

/-- The members in the order of their paths. -/
def sortedMembers (members : Dict String CampaignMember) : List CampaignMember :=
  ((Dict.keys members).insertionSort (· ≤ ·)).filterMap fun path => Dict.lookup path members

theorem fingerprintOf_eq (members : Dict String CampaignMember) : fingerprintOf members =
    ArchiveDigest.sha256
      (String.join ((sortedMembers members).map fingerprintLine)).toUTF8.data.toList := by
  unfold fingerprintOf sortedMembers
  rw [List.map_filterMap]

omit [ArchiveDigest] in
theorem mem_sortedMembers {members : Dict String CampaignMember}
    (distinct : (Dict.keys members).Nodup) {member : CampaignMember} :
    member ∈ sortedMembers members ↔ ∃ path, (path, member) ∈ members := by
  unfold sortedMembers
  rw [List.mem_filterMap]
  refine exists_congr fun path => ?_
  rw [List.mem_insertionSort, Dict.mem_iff_lookup distinct]
  exact and_iff_right_of_imp fun found => (Dict.mem_keys_iff _ _).mpr ⟨member, found⟩

variable {first second : Dict String CampaignMember}

/-- The lines of the members are read back from the fingerprint. -/
theorem lines_eq_of_fingerprintOf (one : SealedMembers first) (two : SealedMembers second)
    (same : fingerprintOf first = fingerprintOf second) :
    (sortedMembers first).map lineOf = (sortedMembers second).map lineOf := by
  have text (members : Dict String CampaignMember) :
      (String.join ((sortedMembers members).map fingerprintLine)).toList =
        ((sortedMembers members).map lineOf).flatMap (· ++ ['\n']) := by
    rw [String.toList_join, List.flatMap_map, List.flatMap_map]
    exact congrArg (List.flatMap · (sortedMembers members)) (funext toList_fingerprintLine)
  have plain {members : Dict String CampaignMember} (sealed : SealedMembers members) :
      ∀ line ∈ (sortedMembers members).map lineOf, '\n' ∉ line := by
    intro line inside
    obtain ⟨member, isMember, rfl⟩ := List.mem_map.mp inside
    obtain ⟨path, there⟩ := (mem_sortedMembers sealed.distinct).mp isMember
    exact (sealed.sealed _ there).oneLine
  rw [fingerprintOf_eq, fingerprintOf_eq] at same
  have bytes := ArchiveDigest.injective same
  have texts := String.toByteArray_inj.mp (ByteArray.ext (Array.toList_inj.mp bytes))
  refine eq_of_flatMap_lines (plain one) (plain two) ?_
  rw [← text, ← text, texts]

/-- Members with the same lines have the same files. -/
theorem holdsFile_of_lines (one : SealedMembers first) (two : SealedMembers second)
    (same : (sortedMembers first).map lineOf = (sortedMembers second).map lineOf)
    {path : String} (holds : HoldsFile first path content) :
    HoldsFile second path content := by
  obtain ⟨member, there, rfl⟩ := holds
  have line : lineOf member ∈ (sortedMembers second).map lineOf :=
    same ▸ List.mem_map_of_mem ((mem_sortedMembers one.distinct).mpr ⟨path, there⟩)
  obtain ⟨other, isOther, sameLine⟩ := List.mem_map.mp line
  obtain ⟨otherPath, otherThere⟩ := (mem_sortedMembers two.distinct).mp isOther
  obtain ⟨paths, contents⟩ := eq_of_lineOf (two.sealed _ otherThere) (one.sealed _ there) sameLine
  have whole : otherPath = path :=
    (two.keyed _ otherThere).trans (paths.trans (one.keyed _ there).symm)
  exact ⟨other, whole ▸ otherThere, contents⟩

/-- Fingerprints are equal exactly when the members have the same paths and contents. -/
theorem fingerprintOf_eq_iff (one : SealedMembers first) (two : SealedMembers second) :
    fingerprintOf first = fingerprintOf second ↔
      ∀ path content, HoldsFile first path content ↔ HoldsFile second path content := by
  constructor
  · intro same path content
    have lines := lines_eq_of_fingerprintOf one two same
    exact ⟨holdsFile_of_lines one two lines, holdsFile_of_lines two one lines.symm⟩
  · intro same
    have known (members : Dict String CampaignMember) (path : String) :
        path ∈ Dict.keys members ↔ ∃ content, HoldsFile members path content := by
      unfold Dict.keys
      rw [List.mem_map]
      constructor
      · rintro ⟨item, member, rfl⟩
        exact ⟨item.2.rawBytes, item.2, member, rfl⟩
      · rintro ⟨content, member, there, -⟩
        exact ⟨_, there, rfl⟩
    have keys : (Dict.keys first).Perm (Dict.keys second) :=
      (List.perm_ext_iff_of_nodup one.distinct two.distinct).mpr fun path => by
        rw [known, known]
        exact exists_congr fun content => same path content
    have sorted : (Dict.keys first).insertionSort (· ≤ ·) =
        (Dict.keys second).insertionSort (· ≤ ·) :=
      (((List.perm_insertionSort _ _).trans keys).trans
        (List.perm_insertionSort _ _).symm).eq_of_pairwise'
          (List.pairwise_insertionSort _ _) (List.pairwise_insertionSort _ _)
    have lines : ((Dict.keys first).insertionSort (· ≤ ·)).filterMap (fun path =>
          (Dict.lookup path first).map fingerprintLine) =
        ((Dict.keys second).insertionSort (· ≤ ·)).filterMap fun path =>
          (Dict.lookup path second).map fingerprintLine := by
      rw [sorted]
      refine List.filterMap_congr fun path inside => ?_
      have inSecond : path ∈ Dict.keys second := (List.mem_insertionSort _).mp inside
      obtain ⟨member, found⟩ := (Dict.mem_keys_iff _ _).mp inSecond
      have there := (Dict.mem_iff_lookup two.distinct _ _).mpr found
      obtain ⟨other, otherThere, content⟩ :=
        (same path member.rawBytes).mpr ⟨member, there, rfl⟩
      rw [found, (Dict.mem_iff_lookup one.distinct _ _).mp otherThere, Option.map_some,
        Option.map_some]
      refine congrArg some (fingerprintLine_congr (one.sealed _ otherThere) (two.sealed _ there)
        ?_ content)
      exact (one.keyed _ otherThere).symm.trans (two.keyed _ there)
    unfold fingerprintOf
    simp only [lines]

end

/-! ### What the policy accepts -/

/-- A path under an allowed root: a file of the root, or a file in one of its directories. -/
def UnderAllowedRoot [TextTables] (path : String) : Prop :=
  (∃ root ∈ allowedRootDirectories, ∃ rest, path = root ++ "/" ++ rest) ∨
    '/' ∉ path.toList ∧ (path ∈ allowedRootFiles ∨
      ".pdf".toList <:+ (TextTables.lower path).toList)

theorem underAllowedRoot_of_isAllowedRoot [TextTables] {path : String}
    (allowed : isAllowedRoot path = true) : UnderAllowedRoot path := by
  by_cases slash : '/' ∈ path.toList
  · obtain ⟨before, after, split, plain⟩ := List.eq_append_cons_of_mem slash
    have whole : path = String.ofList before ++ "/" ++ String.ofList after := by
      refine String.toList_inj.mp ?_
      rw [split]
      simp
    have plainPart : '/' ∉ (String.ofList before).toList := by rwa [String.toList_ofList]
    have parts := segments_append plainPart (String.ofList after)
    obtain ⟨first, others, more⟩ := List.exists_cons_of_ne_nil
      (show segments (String.ofList after) ≠ [] from fun none =>
        List.splitOn_ne_nil '/' _ (List.map_eq_nil_iff.mp none))
    unfold isAllowedRoot at allowed
    rw [whole, parts, more] at allowed
    exact .inl ⟨_, of_decide_eq_true allowed, _, whole⟩
  · unfold isAllowedRoot at allowed
    rw [segments_of_plain slash] at allowed
    simp only [Bool.or_eq_true, decide_eq_true_eq, List.isSuffixOf_iff_suffix] at allowed
    exact .inr ⟨slash, allowed⟩

section

variable [NameTables] [TextTables] [ArchiveDigest]

/-- What the policy promises of the members of an archive. -/
structure AcceptedArchive (archive : ZipArchive) (inspection : CampaignInspection) : Prop where
  paths : ∀ item ∈ inspection.members, CanonicalPath item.1
  roots : ∀ item ∈ inspection.members, UnderAllowedRoot item.1
  apart : (inspection.members.map fun item => NameTables.casefold item.1).Nodup
  files : List.Forall₂ (MemberOf inspection.commonPrefix)
    (archive.entries.filter fun entry => !endsWithSlash entry.filename)
    (inspection.members.map Prod.snd)
  compressed : archive.size ≤ maxCompressedBytes
  entries : archive.entries.length ≤ maxMembers
  some : inspection.members ≠ []
  count : inspection.memberCount = inspection.members.length
  sizes : ∀ item ∈ inspection.members, item.2.rawBytes.length ≤ maxFileBytes
  total : inspection.totalByteSize = (inspection.members.map fun item =>
    item.2.rawBytes.length).sum
  expanded : inspection.totalByteSize ≤ maxExpandedBytes
  sealed : SealedMembers inspection.members
  fingerprint : inspection.fingerprint = fingerprintOf inspection.members

theorem acceptedArchive_of_inspectArchive {archive : ZipArchive} {inspection : CampaignInspection}
    (accepted : inspectArchive archive = .ok inspection) : AcceptedArchive archive inspection := by
  simp only [inspectArchive, bind_ok_iff, refuseWhen_ok_iff, pure_ok_iff, gt_iff_lt, not_lt]
    at accepted
  obtain ⟨-, compressed, -, entries, ⟨⟩, checked, state, looped, -, some, rfl⟩ := accepted
  have inspected := inspected_foldlM (inspected_nothing _) looped
  rw [List.nil_append] at inspected
  have source {item : String × CampaignMember} (member : item ∈ state.members) :
      ∃ entry ∈ archive.entries, MemberOf (detectCommonPrefix (archive.entries.map
        ZipEntry.filename)) entry item.2 := by
    obtain ⟨entry, isEntry, isMember⟩ :=
      exists_right_of_forall₂ inspected.members.flip (List.mem_map_of_mem member)
    exact ⟨entry, List.mem_of_mem_filter isEntry, isMember⟩
  have path {item : String × CampaignMember} (member : item ∈ state.members) :
      CanonicalPath item.1 := by
    obtain ⟨entry, isEntry, isMember⟩ := source member
    have names := (forM_ok_iff _).mp checked entry isEntry
    rw [bind_ok_iff] at names
    obtain ⟨⟨⟩, safe, -⟩ := names
    rw [inspected.keyed item member, isMember.path]
    exact canonicalPath_of_safe (List.mem_map_of_mem isEntry) (safeName_of_validatePathSyntax safe)
      isMember.filled
  have size {item : String × CampaignMember} (member : item ∈ state.members) :
      item.2.byteSize = item.2.rawBytes.length := by
    obtain ⟨entry, -, isMember⟩ := source member
    exact isMember.size
  exact {
    paths := fun item member => path member
    roots := fun item member => by
      obtain ⟨entry, -, isMember⟩ := source member
      rw [inspected.keyed item member]
      exact underAllowedRoot_of_isAllowedRoot isMember.allowed
    apart := inspected.apart
    files := inspected.members
    compressed := compressed
    entries := entries
    some := some
    count := rfl
    sizes := fun item member => by
      obtain ⟨entry, -, isMember⟩ := source member
      exact isMember.size ▸ isMember.small
    total := by
      have total := inspected.total
      rwa [List.map_congr_left fun item member => size member] at total
    expanded := inspected.bounded
    sealed := {
      distinct := List.Nodup.of_map NameTables.casefold (by
        rw [Dict.keys, List.map_map]
        exact inspected.apart)
      keyed := inspected.keyed
      sealed := fun item member => by
        obtain ⟨entry, -, isMember⟩ := source member
        have letters := (path member).letters
        rw [inspected.keyed item member] at letters
        refine { tab := fun inside => ?_, newline := fun inside => ?_, size := isMember.size
                 digest := isMember.digest }
        · have other := (letters _ inside).1
          rw [NameTables.isOther_tab] at other
          cases other
        · have other := (letters _ inside).1
          rw [NameTables.isOther_newline] at other
          cases other }
    fingerprint := rfl }

/-- Every archive that is accepted obeys the policy, and two of them have one fingerprint exactly
when they have the same files. -/
theorem archivePolicy_holds {first second : ZipArchive} {one other : CampaignInspection}
    (firstAccepted : inspectArchive first = .ok one)
    (secondAccepted : inspectArchive second = .ok other) :
    AcceptedArchive first one ∧ (one.fingerprint = other.fingerprint ↔
      ∀ path content,
        HoldsFile one.members path content ↔ HoldsFile other.members path content) := by
  have firstPolicy := acceptedArchive_of_inspectArchive firstAccepted
  have secondPolicy := acceptedArchive_of_inspectArchive secondAccepted
  refine ⟨firstPolicy, ?_⟩
  rw [firstPolicy.fingerprint, secondPolicy.fingerprint]
  exact fingerprintOf_eq_iff firstPolicy.sealed secondPolicy.sealed

end

section

/-- The tables on names in ASCII. -/
@[reducible] def NameTables.ascii : NameTables where
  nfc := id
  nfc_nfc := id_eq
  nfc_slash := fun _ _ => rfl
  nfc_dots := fun _ _ => rfl
  isOther := fun letter => letter.toNat < 0x20 || letter.toNat == 0x7f
  isOther_tab := by decide
  isOther_newline := by decide
  isOther_slash := by decide
  of_mem_nfc := fun _ _ inside _ => inside
  casefold := fun text => String.ofList (text.toList.map Char.toLower)
  quoted := fun text => "'" ++ text ++ "'"

/-- A digest that writes every byte as a letter. -/
def lettersOf (data : List UInt8) : String :=
  String.ofList (data.map fun byte => Char.ofNat (byte.toNat + 0x100))

theorem toNat_letter (byte : UInt8) : (Char.ofNat (byte.toNat + 0x100)).toNat =
    byte.toNat + 0x100 := by
  have bound := byte.toNat_lt
  have valid : (byte.toNat + 0x100).isValidChar := .inl (by omega)
  rw [Char.ofNat, dif_pos valid]
  rfl

@[reducible] def ArchiveDigest.letters : ArchiveDigest where
  sha256 := lettersOf
  injective := fun first second same => by
    have letters := String.ofList_injective same
    refine List.map_injective_iff.mpr (fun one other equal => ?_) letters
    have codes := congrArg Char.toNat equal
    rw [toNat_letter, toNat_letter] at codes
    exact UInt8.toNat_inj.mp (by omega)
  oneLine := fun data inside => by
    unfold lettersOf at inside
    rw [String.toList_ofList] at inside
    obtain ⟨byte, -, same⟩ := List.mem_map.mp inside
    have code := congrArg Char.toNat same
    rw [toNat_letter] at code
    have newline : '\n'.toNat = 10 := rfl
    omega

attribute [local instance] NameTables.ascii TextTables.plain ArchiveDigest.letters

/-- A workspace in a directory of its own. -/
def wrappedArchive : ZipArchive where
  size := 512
  entries := [
    { filename := "spring/", origFilename := "spring/", fileSize := 0, content := some [] },
    { filename := "spring/Profile.md", origFilename := "spring/Profile.md", fileSize := 2
      content := some [35, 10] },
    { filename := "spring//assets/logo.png", origFilename := "spring//assets/logo.png"
      fileSize := 1, content := some [1] }]

/-- The same workspace without it, in another order. -/
def flatArchive : ZipArchive where
  size := 256
  entries := [
    { filename := "assets/logo.png", origFilename := "assets/logo.png", fileSize := 1
      content := some [1] },
    { filename := "Profile.md", origFilename := "Profile.md", fileSize := 2
      content := some [35, 10] }]

theorem archivePolicy_holds_wrapped : ∃ one other, inspectArchive wrappedArchive = .ok one ∧
    inspectArchive flatArchive = .ok other ∧ AcceptedArchive wrappedArchive one ∧
      one.fingerprint = other.fingerprint := by
  have wrapped : (inspectArchive wrappedArchive).isOk = true := by decide +kernel
  have flat : (inspectArchive flatArchive).isOk = true := by decide +kernel
  obtain ⟨one, firstAccepted⟩ := ok_of_isOk wrapped
  obtain ⟨other, secondAccepted⟩ := ok_of_isOk flat
  obtain ⟨policy, fingerprint⟩ := archivePolicy_holds firstAccepted secondAccepted
  have firstFiles : one.members.map (fun item => (item.1, item.2.rawBytes)) =
      [("Profile.md", [35, 10]), ("assets/logo.png", [1])] := by
    have read : (inspectArchive wrappedArchive).map (fun inspection =>
        inspection.members.map fun item => (item.1, item.2.rawBytes)) =
          .ok [("Profile.md", [35, 10]), ("assets/logo.png", [1])] := by decide +kernel
    rw [firstAccepted] at read
    exact Except.ok.inj read
  have secondFiles : other.members.map (fun item => (item.1, item.2.rawBytes)) =
      [("assets/logo.png", [1]), ("Profile.md", [35, 10])] := by
    have read : (inspectArchive flatArchive).map (fun inspection =>
        inspection.members.map fun item => (item.1, item.2.rawBytes)) =
          .ok [("assets/logo.png", [1]), ("Profile.md", [35, 10])] := by decide +kernel
    rw [secondAccepted] at read
    exact Except.ok.inj read
  refine ⟨one, other, firstAccepted, secondAccepted, policy, fingerprint.mpr fun path content => ?_⟩
  rw [holdsFile_iff, holdsFile_iff, firstFiles, secondFiles]
  exact (List.Perm.swap _ _ _).mem_iff

end

end CareerOS
