/-
This file is how the members of a campaign archive and the rows of its tracker come
together. A packet directory belongs to the row with its name, or else to the row
with the longest identifier that begins its name before an underscore, or else to an
application of its own; a file goes where its directory goes. Two directories that
belong to one application are refused.

The bytes of the tracker are read up to the records of its rows by a parameter.
-/

import CareerOS.Campaigns.ArchivePolicy
import CareerOS.Campaigns.CampaignParser
import CareerOS.Library.Grouping

namespace CareerOS

/-! ### Members and packets -/

/-- What `read_campaign_workbook` reads before the rows. -/
structure TrackerWorkbook where
  headers : List String
  records : List (Dict String Json)

/-- The files of the tracker. -/
class TrackerFiles where
  /-- `read_campaign_workbook(data)`, up to the records of its rows. -/
  readWorkbook : List UInt8 → Except String TrackerWorkbook
  /-- `sanitize_tracker_workbook(headers, rows)`. -/
  sanitize : List String → List (String × Dict String Json) → Except String (List UInt8)
  /-- `hashlib.sha256(data).hexdigest()`. -/
  sha256 : List UInt8 → String

/-- An accepted archive. Its members have their own paths. -/
structure CampaignWorkspace where
  fingerprint : String
  idAliases : List String
  aliases : idAliases.Perm acceptedIdAliases
  members : List CampaignMember
  distinct : (members.map CampaignMember.canonicalPath).Nodup

/-- `parts[1]` of a path below the packets, when it has three parts. -/
def packetDirectoryOf (path : String) : Option String :=
  if "application-packets/".toList.isPrefixOf path.toList then
    match path.toList.splitOn '/' with
    | _ :: directory :: _ :: _ => some (String.ofList directory)
    | _ => none
  else none

/-- `dossier_files`. -/
def dossierFiles (members : List CampaignMember) : Dict String (List CampaignMember) :=
  Dict.groupFrom (fun member => packetDirectoryOf member.canonicalPath) [] members

/-- `data.decode("utf-8")`, or nothing on a `UnicodeDecodeError`. -/
def decodeUtf8 (data : List UInt8) : Option String :=
  String.fromUTF8? (ByteArray.mk data.toArray)

/-- The text of the first vacancy file of a packet. -/
def vacancyText (files : List CampaignMember) : Option String :=
  (files.find? fun member =>
    "/vacancy.md".toList.isSuffixOf member.canonicalPath.toList).bind fun member =>
      decodeUtf8 member.rawBytes

/-- A packet directory with its vacancy. -/
def packetAt (files : Dict String (List CampaignMember)) (name : String) : PacketDirectory where
  name
  vacancy := vacancyText ((Dict.lookup name files).getD [])

/-- `resolved_to_dirs`. -/
def resolvedToDirs (trackerIds directories : List String) : Dict String (List String) :=
  Dict.groupFrom (fun directory => some (reconcileDossierDirectoryName directory trackerIds)) []
    directories

/-! ### Artifacts -/

section

variable [TextTables]

/-- `classify_artifact_category`. -/
def classifyArtifactCategory (canonicalPath : String) : String :=
  let lower := TextTables.lower canonicalPath
  let startsWith (mark : String) : Bool := mark.toList.isPrefixOf lower.toList
  let endsWith (mark : String) : Bool := mark.toList.isSuffixOf lower.toList
  if lower = "applicationtracker.xlsx" then "tracker"
  else if lower = "profile.md" then "profile"
  else if lower = "goal.md" then "goal"
  else if lower = "storytelling.md" then "story"
  else if endsWith ".pdf" ∧ '/' ∉ lower.toList then "evidence"
  else if startsWith "scripts/" then "script"
  else if ["cv-templates/", "cover-letter-templates/", "email-templates/",
      "html-templates/"].any startsWith then "template"
  else if startsWith "assets/" then
    if [".jpg", ".jpeg", ".png", ".webp", ".svg"].any endsWith then "image" else "evidence"
  else if startsWith "application-packets/" then
    let filename := (lower.toList.splitOn '/').getLastD []
    let mentions (mark : String) : Bool := decide (mark.toList <:+: filename)
    if filename = "vacancy.md".toList then "vacancy"
    else if ["cv", "resume"].any mentions then "cv"
    else if ["letter", "cover"].any mentions then "letter"
    else if ["email", "mail"].any mentions then "email"
    else "evidence"
  else "other"

end

/-- `ParsedArtifact`, with what it is bound to. -/
structure BoundArtifact extends ParsedArtifact where
  sourceOrder : Nat
  sourceApplicationId : Option String
  rawBytes : List UInt8
  sha256 : String
  byteSize : Nat

/-- `ParsedCampaign`: what the import takes of it, the rows of its tracker, its bound artifacts and
its counts. -/
structure ReconciledCampaign where
  campaign : ParsedCampaign
  trackerRows : List (String × Dict String Json)
  artifacts : List BoundArtifact
  dossierCount : Nat
  matchedCount : Nat
  trackerOnlyCount : Nat
  dossierOnlyCount : Nat
  logicalApplicationCount : Nat

section

variable [TextTables] [TrackerFiles]

/-- The tracker of an archive: its sanitized bytes and its rows. -/
def readTracker (workspace : CampaignWorkspace) :
    Except String (Option (List UInt8) × List (String × Dict String Json)) :=
  match workspace.members.find? fun member => member.canonicalPath = "ApplicationTracker.xlsx" with
  | none => return (none, [])
  | some tracker => do
    let workbook ← TrackerFiles.readWorkbook tracker.rawBytes
    let rows ← readIds workspace.idAliases [] workbook.records
    let sanitized ← TrackerFiles.sanitize workbook.headers rows
    return (some sanitized, rows)

/-- The artifact of a member. The tracker is stored sanitized. -/
def bindArtifact (sanitized : Option (List UInt8)) (dirToResolved : Dict String String)
    (member : CampaignMember) (sourceOrder : Nat) : BoundArtifact :=
  let path := member.canonicalPath
  match sanitized with
  | some bytes =>
    if path = "ApplicationTracker.xlsx" then
      { relativePath := "ApplicationTracker.xlsx"
        displayName := "ApplicationTracker.xlsx"
        category := "tracker"
        sourceOrder
        sourceApplicationId := none
        rawBytes := bytes
        sha256 := TrackerFiles.sha256 bytes
        byteSize := bytes.length }
    else plain path
  | none => plain path
where
  plain (path : String) : BoundArtifact :=
    { relativePath := path
      displayName := String.ofList ((path.toList.splitOn '/').getLastD [])
      category := classifyArtifactCategory path
      sourceOrder
      sourceApplicationId := (packetDirectoryOf path).map fun directory =>
        (Dict.lookup directory dirToResolved).getD directory
      rawBytes := member.rawBytes
      sha256 := member.sha256
      byteSize := member.byteSize }

variable [CampaignReaders]

/-- The campaign of a tracker and of packets that are resolved. -/
def reconciledCampaign (workspace : CampaignWorkspace) (sanitized : Option (List UInt8))
    (rows : List (String × Dict String Json)) (resolved : Dict String (List String)) :
    ReconciledCampaign :=
  let files := dossierFiles workspace.members
  let trackerIds := rows.map Prod.fst
  let packets := resolved.map fun entry => (entry.1, packetAt files (entry.2.headD ""))
  let dirToResolved := resolved.map fun entry => (entry.2.headD "", entry.1)
  let resolvedIds := Dict.keys packets
  let matchedIds := (trackerIds.filter fun id => id ∈ resolvedIds).insertionSort (· ≤ ·)
  let trackerOnlyIds := (trackerIds.filter fun id => id ∉ resolvedIds).insertionSort (· ≤ ·)
  let dossierOnlyIds := (resolvedIds.filter fun id => id ∉ trackerIds).insertionSort (· ≤ ·)
  let members := workspace.members.insertionSort fun first second =>
    first.canonicalPath ≤ second.canonicalPath
  let artifacts := members.zipIdx.map fun entry =>
    bindArtifact sanitized dirToResolved entry.1 entry.2
  { campaign := {
      fingerprint := workspace.fingerprint
      applications := trackedApplications rows packets ++
        untrackedApplications dossierOnlyIds rows.length packets
      vacancies := packets.filterMap fun (id, packet) =>
        packet.vacancy.map fun text => (id, text)
      artifacts := artifacts.map BoundArtifact.toParsedArtifact }
    trackerRows := rows
    artifacts
    dossierCount := files.length
    matchedCount := matchedIds.length
    trackerOnlyCount := trackerOnlyIds.length
    dossierOnlyCount := dossierOnlyIds.length
    logicalApplicationCount := rows.length + dossierOnlyIds.length }

/-- `parse_campaign_workspace`. -/
def reconcileCampaign (workspace : CampaignWorkspace) : Except String ReconciledCampaign := do
  let (sanitized, rows) ← readTracker workspace
  let resolved := resolvedToDirs (rows.map Prod.fst)
    ((Dict.keys (dossierFiles workspace.members)).insertionSort (· ≤ ·))
  match resolved.find? fun entry => 1 < entry.2.length with
  | some (id, _) =>
    throw ("Ambiguous packet directories resolve to the same source ID '" ++ id ++ "'")
  | none => return reconciledCampaign workspace sanitized rows resolved

end

/-! ### What is expected -/

/-- A file below a packet directory. -/
def Below (directory path : String) : Prop :=
  '/' ∉ directory.toList ∧ ∃ rest, path = "application-packets/" ++ directory ++ "/" ++ rest

/-- The application a packet directory belongs to. -/
inductive Resolves (trackerIds : List String) (directory : String) : String → Prop
  | exact (row : directory ∈ trackerIds) : Resolves trackerIds directory directory
  | longest {id : String} (noRow : directory ∉ trackerIds) (row : id ∈ trackerIds)
      (begins : (id ++ "_").toList <+: directory.toList)
      (longest : ∀ other ∈ trackerIds, (other ++ "_").toList <+: directory.toList →
        other.length ≤ id.length) : Resolves trackerIds directory id
  | own (noRow : directory ∉ trackerIds)
      (none : ∀ id ∈ trackerIds, ¬(id ++ "_").toList <+: directory.toList) :
      Resolves trackerIds directory directory

/-- The packet directories of an archive. -/
structure PacketDirectories (workspace : CampaignWorkspace) (directories : List String) :
    Prop where
  distinct : directories.Nodup
  mem_iff : ∀ directory, directory ∈ directories ↔
    ∃ member ∈ workspace.members, Below directory member.canonicalPath

section

variable [TextTables] [TrackerFiles]

/-- The rows and the packets come together in one list of applications, every file goes where its
directory goes, and the counts add up. -/
structure CampaignReconciled (workspace : CampaignWorkspace) (directories : List String)
    (parsed : ReconciledCampaign) : Prop where
  tracker : ∃ sanitized, readTracker workspace = .ok (sanitized, parsed.trackerRows)
  applications : ∃ unmatched, unmatched.Perm (directories.filter fun directory =>
      reconcileDossierDirectoryName directory (parsed.trackerRows.map Prod.fst) ∉
        parsed.trackerRows.map Prod.fst) ∧
    (parsed.campaign.applications.map fun app => app.sourceApplicationId) =
      parsed.trackerRows.map Prod.fst ++ unmatched
  records : (parsed.campaign.applications.take parsed.trackerRows.length).map
    (fun app => (app.sourceApplicationId, app.trackerRecord)) = parsed.trackerRows
  distinctIds : (parsed.campaign.applications.map fun app => app.sourceApplicationId).Nodup
  orders : (parsed.campaign.applications.map fun app => app.sourceOrder) =
    List.range parsed.campaign.applications.length
  members : (parsed.artifacts.map fun artifact => artifact.relativePath).Perm
    (workspace.members.map CampaignMember.canonicalPath)
  bindings : ∀ artifact ∈ parsed.artifacts, ∀ id, artifact.sourceApplicationId = some id ↔
    ∃ directory, Below directory artifact.relativePath ∧
      Resolves (parsed.trackerRows.map Prod.fst) directory id
  targets : ∀ artifact ∈ parsed.artifacts, ∀ id ∈ artifact.sourceApplicationId,
    id ∈ parsed.campaign.applications.map fun app => app.sourceApplicationId
  trackerCount : parsed.matchedCount + parsed.trackerOnlyCount = parsed.trackerRows.length
  packetCount : parsed.matchedCount + parsed.dossierOnlyCount = directories.length
  dossierCount : parsed.dossierCount = directories.length
  total : parsed.trackerRows.length + parsed.dossierOnlyCount =
    parsed.campaign.applications.length
  logical : parsed.logicalApplicationCount = parsed.campaign.applications.length

end

/-! ### Packet directories -/

theorem packetDirectoryOf_eq_some_iff {path directory : String} :
    packetDirectoryOf path = some directory ↔ Below directory path := by
  have front (rest : List Char) :
      ("application-packets/".toList ++ rest).splitOn '/' =
        "application-packets".toList :: rest.splitOn '/' := by
    have plain : '/' ∉ "application-packets".toList := by decide
    exact List.splitOn_append_cons_self_of_not_mem plain rest
  unfold packetDirectoryOf Below
  constructor
  · intro found
    split at found
    · next begins =>
      obtain ⟨tail, split⟩ := List.isPrefixOf_iff_prefix.mp begins
      rw [← split, front] at found
      by_cases slash : '/' ∈ tail
      · obtain ⟨before, after, parts, plain⟩ := List.eq_append_cons_of_mem slash
        rw [parts, List.splitOn_append_cons_self_of_not_mem plain] at found
        obtain ⟨first, others, more⟩ :=
          List.exists_cons_of_ne_nil (List.splitOn_ne_nil '/' after)
        rw [more] at found
        obtain rfl := Option.some.inj found
        rw [String.toList_ofList]
        refine ⟨plain, String.ofList after, String.toList_inj.mp ?_⟩
        rw [← split, parts]
        simp
      · rw [List.splitOn_eq_singleton slash] at found
        cases found
    · cases found
  · rintro ⟨plain, rest, rfl⟩
    have letters : ("application-packets/" ++ directory ++ "/" ++ rest).toList =
        "application-packets/".toList ++ (directory.toList ++ '/' :: rest.toList) := by
      simp
    rw [letters, if_pos (List.isPrefixOf_iff_prefix.mpr (List.prefix_append _ _)), front,
      List.splitOn_append_cons_self_of_not_mem plain]
    obtain ⟨first, others, more⟩ :=
      List.exists_cons_of_ne_nil (List.splitOn_ne_nil '/' rest.toList)
    rw [more]
    exact congrArg some String.ofList_toList

theorem packetDirectories_dossierFiles (workspace : CampaignWorkspace) :
    PacketDirectories workspace (Dict.keys (dossierFiles workspace.members)) where
  distinct := Dict.nodup_keys_groupFrom _ _ [] List.nodup_nil
  mem_iff := fun directory => by
    unfold dossierFiles Dict.keys
    rw [List.mem_map]
    constructor
    · rintro ⟨⟨_, files⟩, member, rfl⟩
      obtain ⟨rfl, filled⟩ := Dict.mem_groupFrom_nil.mp member
      obtain ⟨file, inside⟩ := List.exists_mem_of_ne_nil _ filled
      obtain ⟨inMembers, found⟩ := Dict.mem_having.mp inside
      exact ⟨file, inMembers, packetDirectoryOf_eq_some_iff.mp found⟩
    · rintro ⟨file, inMembers, below⟩
      refine ⟨_, Dict.mem_groupFrom_nil.mpr ⟨rfl, List.ne_nil_of_mem (Dict.mem_having.mpr
        ⟨inMembers, packetDirectoryOf_eq_some_iff.mpr below⟩)⟩, rfl⟩

/-! ### Where a directory belongs -/

/-- The rule of `reconcile_dossier_directory_name` decides where a directory belongs. -/
theorem resolves_iff {trackerIds : List String} {directory id : String} :
    Resolves trackerIds directory id ↔ reconcileDossierDirectoryName directory trackerIds = id := by
  unfold reconcileDossierDirectoryName
  by_cases row : directory ∈ trackerIds
  · rw [if_pos row]
    constructor
    · rintro (_ | ⟨noRow, -⟩ | ⟨noRow, -⟩)
      · rfl
      · exact absurd row noRow
      · exact absurd row noRow
    · rintro rfl
      exact .exact row
  · rw [if_neg row]
    simp only
    have candidate (other : String) : other ∈ trackerIds.filter (fun id =>
        (id ++ "_").toList.isPrefixOf directory.toList) ↔
          other ∈ trackerIds ∧ (other ++ "_").toList <+: directory.toList := by
      rw [List.mem_filter, List.isPrefixOf_iff_prefix]
    cases longest : (trackerIds.filter fun id =>
        (id ++ "_").toList.isPrefixOf directory.toList).argmax String.length with
    | none =>
      have none : ∀ id ∈ trackerIds, ¬(id ++ "_").toList <+: directory.toList := by
        intro other inside begins
        have some := (candidate other).mpr ⟨inside, begins⟩
        rw [List.argmax_eq_none.mp longest] at some
        cases some
      constructor
      · rintro (row' | ⟨-, inside, begins, -⟩ | _)
        · exact absurd row' row
        · exact absurd begins (none _ inside)
        · rfl
      · rintro rfl
        exact .own row none
    | some found =>
      obtain ⟨inside, begins⟩ := (candidate found).mp (List.argmax_mem longest)
      have most : ∀ other ∈ trackerIds, (other ++ "_").toList <+: directory.toList →
          other.length ≤ found.length := fun other inOthers otherBegins =>
        List.le_of_mem_argmax ((candidate other).mpr ⟨inOthers, otherBegins⟩) longest
      constructor
      · rintro (row' | ⟨-, inOthers, otherBegins, otherMost⟩ | ⟨-, none⟩)
        · exact absurd row' row
        · have same : (found ++ "_").toList.length = (id ++ "_").toList.length := by
            rw [String.length_toList, String.length_toList, String.length_append,
              String.length_append]
            exact congrArg (· + "_".length)
              (le_antisymm (otherMost found inside begins) (most id inOthers otherBegins))
          have sameLetters : (found ++ "_").toList = (id ++ "_").toList :=
            (List.prefix_of_prefix_length_le begins otherBegins same.le).eq_of_length same
          have sameText : found.toList ++ ['_'] = id.toList ++ ['_'] := by simpa using sameLetters
          exact String.toList_inj.mp (List.append_cancel_right sameText)
        · exact absurd begins (none found inside)
      · rintro rfl
        exact .longest row inside begins most

/-- A directory that belongs to no row belongs to its own application. -/
theorem reconcile_of_not_mem {trackerIds : List String} {directory : String}
    (noRow : reconcileDossierDirectoryName directory trackerIds ∉ trackerIds) :
    reconcileDossierDirectoryName directory trackerIds = directory := by
  have resolves : Resolves trackerIds directory
      (reconcileDossierDirectoryName directory trackerIds) := resolves_iff.mpr rfl
  generalize reconcileDossierDirectoryName directory trackerIds = id at *
  cases resolves with
  | exact row => rfl
  | longest _ row => exact absurd row noRow
  | own => rfl

/-! ### Packets that are resolved -/

/-- Where every directory belongs to another application, each of them has one directory. -/
theorem resolvedToDirs_of_nodup {trackerIds directories : List String}
    (apart : (directories.map fun directory =>
      reconcileDossierDirectoryName directory trackerIds).Nodup) :
    resolvedToDirs trackerIds directories = directories.map fun directory =>
      (reconcileDossierDirectoryName directory trackerIds, [directory]) := by
  refine Dict.groupFrom_of_nodup (fun directory =>
    reconcileDossierDirectoryName directory trackerIds) directories [] ?_
  exact apart

/-- No two directories belong to one application exactly when none has two directories. -/
theorem find?_resolvedToDirs_eq_none_iff {trackerIds directories : List String}
    (distinct : directories.Nodup) :
    (resolvedToDirs trackerIds directories).find? (fun entry => 1 < entry.2.length) = none ↔
      (directories.map fun directory =>
        reconcileDossierDirectoryName directory trackerIds).Nodup := by
  constructor
  · intro none
    refine (List.nodup_map_iff_inj_on distinct).mpr fun first inside second other same => ?_
    let group := Dict.having (fun directory =>
      some (reconcileDossierDirectoryName directory trackerIds))
        (reconcileDossierDirectoryName second trackerIds) directories
    have firstIn : first ∈ group := Dict.mem_having.mpr ⟨inside, congrArg some same⟩
    have secondIn : second ∈ group := Dict.mem_having.mpr ⟨other, rfl⟩
    have entry : (reconcileDossierDirectoryName second trackerIds, group) ∈
        resolvedToDirs trackerIds directories :=
      Dict.mem_groupFrom_nil.mpr ⟨rfl, List.ne_nil_of_mem firstIn⟩
    have few : group.length ≤ 1 := not_lt.mp fun more =>
      List.find?_eq_none.mp none _ entry (decide_eq_true more)
    obtain ⟨only, one⟩ := List.length_eq_one_iff.mp
      (le_antisymm few (List.length_pos_of_mem firstIn))
    rw [one, List.mem_singleton] at firstIn secondIn
    rw [firstIn, secondIn]
  · intro apart
    rw [resolvedToDirs_of_nodup apart]
    refine List.find?_eq_none.mpr fun entry member => ?_
    obtain ⟨directory, -, rfl⟩ := List.mem_map.mp member
    rw [decide_eq_true_eq, not_lt]
    exact le_refl 1

section

variable [TextTables] [TrackerFiles]

/-- The rows of a tracker have their own identifiers. -/
theorem nodup_trackerIds {workspace : CampaignWorkspace} {sanitized : Option (List UInt8)}
    {rows : List (String × Dict String Json)}
    (read : readTracker workspace = .ok (sanitized, rows)) : (rows.map Prod.fst).Nodup := by
  unfold readTracker at read
  split at read
  · cases read
    exact List.nodup_nil
  · simp only [bind_ok_iff, pure_ok_iff, Prod.mk.injEq] at read
    obtain ⟨workbook, -, found, readRows, -, -, -, rfl⟩ := read
    exact (readIds_ok readRows).1

theorem relativePath_bindArtifact (sanitized : Option (List UInt8))
    (dirToResolved : Dict String String) (member : CampaignMember) (sourceOrder : Nat) :
    (bindArtifact sanitized dirToResolved member sourceOrder).relativePath =
      member.canonicalPath := by
  unfold bindArtifact
  cases sanitized with
  | none => rfl
  | some bytes =>
    simp only
    split
    · next tracker => exact tracker.symm
    · rfl

/-- The tracker lies below no packet, so it is bound as every other member is. -/
theorem sourceApplicationId_bindArtifact (sanitized : Option (List UInt8))
    (dirToResolved : Dict String String) (member : CampaignMember) (sourceOrder : Nat) :
    (bindArtifact sanitized dirToResolved member sourceOrder).sourceApplicationId =
      (packetDirectoryOf member.canonicalPath).map fun directory =>
        (Dict.lookup directory dirToResolved).getD directory := by
  unfold bindArtifact
  cases sanitized with
  | none => rfl
  | some bytes =>
    simp only
    split
    · next tracker =>
      have outside : packetDirectoryOf "ApplicationTracker.xlsx" = none := by decide
      rw [tracker, outside]
      rfl
    · rfl

variable [CampaignReaders]

/-- Directories that belong to applications of their own. -/
def resolvedApart (trackerIds directories : List String) : Dict String (List String) :=
  directories.map fun directory =>
    (reconcileDossierDirectoryName directory trackerIds, [directory])

variable {parsed : ReconciledCampaign}

/-- What is parsed of an archive: its tracker is read, and no two packets belong together. -/
theorem reconcileCampaign_ok_iff {workspace : CampaignWorkspace} :
    reconcileCampaign workspace = .ok parsed ↔ ∃ sanitized rows,
      readTracker workspace = .ok (sanitized, rows) ∧
        (((Dict.keys (dossierFiles workspace.members)).insertionSort (· ≤ ·)).map fun directory =>
          reconcileDossierDirectoryName directory (rows.map Prod.fst)).Nodup ∧
        reconciledCampaign workspace sanitized rows (resolvedApart (rows.map Prod.fst)
          ((Dict.keys (dossierFiles workspace.members)).insertionSort (· ≤ ·))) = parsed := by
  have distinct : ((Dict.keys (dossierFiles workspace.members)).insertionSort (· ≤ ·)).Nodup :=
    (List.perm_insertionSort _ _).nodup_iff.mpr
      (packetDirectories_dossierFiles workspace).distinct
  unfold reconcileCampaign
  rw [bind_ok_iff]
  constructor
  · rintro ⟨⟨sanitized, rows⟩, read, returned⟩
    refine ⟨sanitized, rows, read, ?_⟩
    simp only at returned
    split at returned
    · cases returned
    · next none =>
      have apart := (find?_resolvedToDirs_eq_none_iff distinct).mp none
      rw [resolvedToDirs_of_nodup apart] at returned
      exact ⟨apart, pure_ok_iff.mp returned⟩
  · rintro ⟨sanitized, rows, read, apart, rfl⟩
    refine ⟨(sanitized, rows), read, ?_⟩
    simp only
    rw [(find?_resolvedToDirs_eq_none_iff distinct).mpr apart]
    simp only
    rw [resolvedToDirs_of_nodup apart]
    rfl

/-! ### The parts of a campaign -/

variable (workspace : CampaignWorkspace) (sanitized : Option (List UInt8))
  (rows : List (String × Dict String Json)) (directories : List String)

omit [TextTables] [TrackerFiles] [CampaignReaders] in
theorem keys_packets (files : Dict String (List CampaignMember)) (trackerIds : List String) :
    Dict.keys ((resolvedApart trackerIds directories).map fun entry =>
      (entry.1, packetAt files (entry.2.headD ""))) =
        directories.map fun directory => reconcileDossierDirectoryName directory trackerIds := by
  unfold resolvedApart Dict.keys
  rw [List.map_map, List.map_map]
  rfl

omit [TextTables] [TrackerFiles] [CampaignReaders] in
/-- The directories that belong to no row. -/
theorem filter_resolved (trackerIds : List String) :
    (directories.map fun directory =>
        reconcileDossierDirectoryName directory trackerIds).filter (fun id => id ∉ trackerIds) =
      directories.filter fun directory =>
        reconcileDossierDirectoryName directory trackerIds ∉ trackerIds := by
  induction directories with
  | nil => rfl
  | cons directory rest inductionHypothesis =>
    rw [List.map_cons]
    by_cases row : reconcileDossierDirectoryName directory trackerIds ∈ trackerIds
    · rw [List.filter_cons_of_neg (by simpa using row),
        List.filter_cons_of_neg (by simpa using row), inductionHypothesis]
    · rw [List.filter_cons_of_pos (by simpa using row),
        List.filter_cons_of_pos (by simpa using row), inductionHypothesis,
        reconcile_of_not_mem row]

theorem ids_reconciled : (reconciledCampaign workspace sanitized rows
      (resolvedApart (rows.map Prod.fst) directories)).campaign.applications.map
        (fun app => app.sourceApplicationId) =
    rows.map Prod.fst ++ (directories.filter fun directory =>
      reconcileDossierDirectoryName directory (rows.map Prod.fst) ∉
        rows.map Prod.fst).insertionSort (· ≤ ·) := by
  unfold reconciledCampaign
  simp only [keys_packets, filter_resolved]
  rw [List.map_append, ids_tracked, ids_untracked]

omit [TrackerFiles] in
theorem length_trackedApplications (resolved : Dict String PacketDirectory) :
    (trackedApplications rows resolved).length = rows.length := by
  unfold trackedApplications
  rw [List.length_map, List.length_zipIdx]

theorem records_reconciled : ((reconciledCampaign workspace sanitized rows
      (resolvedApart (rows.map Prod.fst) directories)).campaign.applications.take
        rows.length).map (fun app => (app.sourceApplicationId, app.trackerRecord)) = rows := by
  unfold reconciledCampaign
  simp only
  rw [List.take_left' (length_trackedApplications rows _)]
  unfold trackedApplications
  rw [List.map_map]
  exact List.zipIdx_map_fst 0 rows

theorem orders_reconciled : (reconciledCampaign workspace sanitized rows
      (resolvedApart (rows.map Prod.fst) directories)).campaign.applications.map
        (fun app => app.sourceOrder) =
    List.range (reconciledCampaign workspace sanitized rows
      (resolvedApart (rows.map Prod.fst) directories)).campaign.applications.length := by
  have tracked (resolved : Dict String PacketDirectory) :
      (trackedApplications rows resolved).map (fun app => app.sourceOrder) =
        List.range rows.length := by
    unfold trackedApplications
    rw [List.map_map, List.range_eq_range']
    exact List.zipIdx_map_snd 0 rows
  have untracked (ids : List String) (resolved : Dict String PacketDirectory) :
      (untrackedApplications ids rows.length resolved).map (fun app => app.sourceOrder) =
        (List.range ids.length).map (rows.length + ·) := by
    unfold untrackedApplications
    rw [List.map_map, List.range_eq_range', ← List.zipIdx_map_snd 0 ids, List.map_map]
    rfl
  have length (ids : List String) (resolved : Dict String PacketDirectory) :
      (untrackedApplications ids rows.length resolved).length = ids.length := by
    unfold untrackedApplications
    rw [List.length_map, List.length_zipIdx]
  unfold reconciledCampaign
  simp only
  rw [List.map_append, tracked, untracked, List.length_append, length_trackedApplications, length,
    List.range_add]

theorem artifacts_reconciled {artifact : BoundArtifact} :
    artifact ∈ (reconciledCampaign workspace sanitized rows
      (resolvedApart (rows.map Prod.fst) directories)).artifacts → ∃ member ∈ workspace.members,
        artifact.relativePath = member.canonicalPath ∧ artifact.sourceApplicationId =
          (packetDirectoryOf member.canonicalPath).map fun directory => (Dict.lookup directory
            (directories.map fun directory =>
              (directory, reconcileDossierDirectoryName directory (rows.map Prod.fst)))).getD
                directory := by
  intro bound
  unfold reconciledCampaign resolvedApart at bound
  simp only [List.map_map] at bound
  obtain ⟨⟨member, order⟩, inside, rfl⟩ := List.mem_map.mp bound
  have isMember := (List.mem_insertionSort _).mp (List.fst_mem_of_mem_zipIdx inside)
  exact ⟨member, isMember, relativePath_bindArtifact _ _ _ _,
    sourceApplicationId_bindArtifact _ _ _ _⟩

theorem paths_reconciled : ((reconciledCampaign workspace sanitized rows
      (resolvedApart (rows.map Prod.fst) directories)).artifacts.map fun artifact =>
        artifact.relativePath).Perm (workspace.members.map CampaignMember.canonicalPath) := by
  have sorted := List.perm_insertionSort (fun first second : CampaignMember =>
    first.canonicalPath ≤ second.canonicalPath) workspace.members
  unfold reconciledCampaign
  simp only [List.map_map, Function.comp_def, relativePath_bindArtifact]
  have paths := sorted.map CampaignMember.canonicalPath
  rw [← List.zipIdx_map_fst 0 (workspace.members.insertionSort _), List.map_map] at paths
  exact paths

omit [TextTables] [TrackerFiles] [CampaignReaders] in
/-- Two lists without repetitions have as many items in common. -/
theorem length_filter_mem_comm {first second : List String} (one : first.Nodup)
    (other : second.Nodup) : (first.filter fun id => id ∈ second).length =
      (second.filter fun id => id ∈ first).length := by
  refine List.Perm.length_eq ((List.perm_ext_iff_of_nodup (one.filter _) (other.filter _)).mpr
    fun id => ?_)
  rw [List.mem_filter, List.mem_filter, decide_eq_true_eq, decide_eq_true_eq, and_comm]

omit [TextTables] [TrackerFiles] [CampaignReaders] in
/-- A list is what it has in common with another and what it has not. -/
theorem length_filter_add_not_mem (first second : List String) :
    (first.filter fun id => id ∈ second).length + (first.filter fun id => id ∉ second).length =
      first.length := by
  rw [List.length_eq_length_filter_add (l := first) fun id => id ∈ second]
  simp only [decide_not]

/-- The counts of rows and directories that have and have not found each other. -/
theorem counts_reconciled (rowsApart : (rows.map Prod.fst).Nodup)
    (apart : (directories.map fun directory =>
      reconcileDossierDirectoryName directory (rows.map Prod.fst)).Nodup)
    (same : parsed = reconciledCampaign workspace sanitized rows
      (resolvedApart (rows.map Prod.fst) directories)) :
    parsed.matchedCount + parsed.trackerOnlyCount = rows.length ∧
      parsed.matchedCount + parsed.dossierOnlyCount = directories.length ∧
        rows.length + parsed.dossierOnlyCount = parsed.campaign.applications.length := by
  have length (ids : List String) (resolved : Dict String PacketDirectory) :
      (untrackedApplications ids rows.length resolved).length = ids.length := by
    unfold untrackedApplications
    rw [List.length_map, List.length_zipIdx]
  subst same
  unfold reconciledCampaign
  simp only [keys_packets, List.length_insertionSort, List.length_append, length,
    length_trackedApplications, and_true]
  constructor
  · rw [length_filter_add_not_mem, List.length_map]
  · rw [length_filter_mem_comm rowsApart apart, length_filter_add_not_mem, List.length_map]

/-- The parts of an accepted archive come together. -/
theorem reconciled_of_accepted {workspace : CampaignWorkspace}
    (accepted : reconcileCampaign workspace = .ok parsed) :
    CampaignReconciled workspace (Dict.keys (dossierFiles workspace.members)) parsed := by
  obtain ⟨sanitized, rows, read, apart, rfl⟩ := reconcileCampaign_ok_iff.mp accepted
  have packets := packetDirectories_dossierFiles workspace
  have sorted := List.perm_insertionSort (· ≤ ·) (Dict.keys (dossierFiles workspace.members))
  generalize (Dict.keys (dossierFiles workspace.members)).insertionSort (· ≤ ·) = directories
    at apart sorted
  generalize known : Dict.keys (dossierFiles workspace.members) = packetNames at packets sorted
  have rowsApart := nodup_trackerIds read
  have ids := ids_reconciled workspace sanitized rows directories
  have unmatched := List.perm_insertionSort (· ≤ ·) (directories.filter fun directory =>
    reconcileDossierDirectoryName directory (rows.map Prod.fst) ∉ rows.map Prod.fst)
  have listed {directory : String} (member : directory ∈ packetNames) :
      reconcileDossierDirectoryName directory (rows.map Prod.fst) ∈
        (reconciledCampaign workspace sanitized rows
          (resolvedApart (rows.map Prod.fst) directories)).campaign.applications.map
            fun app => app.sourceApplicationId := by
    rw [ids, List.mem_append]
    by_cases row : reconcileDossierDirectoryName directory (rows.map Prod.fst) ∈ rows.map Prod.fst
    · exact .inl row
    · refine .inr (unmatched.mem_iff.mpr ?_)
      rw [reconcile_of_not_mem row]
      exact List.mem_filter.mpr ⟨sorted.mem_iff.mpr member, decide_eq_true row⟩
  have bound {artifact : BoundArtifact} (member : artifact ∈ (reconciledCampaign workspace
        sanitized rows (resolvedApart (rows.map Prod.fst) directories)).artifacts) (id : String) :
      artifact.sourceApplicationId = some id ↔ ∃ directory ∈ packetNames,
        Below directory artifact.relativePath ∧
          reconcileDossierDirectoryName directory (rows.map Prod.fst) = id := by
    obtain ⟨file, isMember, path, target⟩ := artifacts_reconciled _ _ _ _ member
    rw [target, path, Option.map_eq_some_iff]
    refine exists_congr fun directory => ?_
    rw [packetDirectoryOf_eq_some_iff]
    constructor
    · rintro ⟨below, same⟩
      have inside := (packets.mem_iff directory).mpr ⟨file, isMember, below⟩
      rw [Dict.lookup_map_of_mem (sorted.mem_iff.mpr inside)] at same
      exact ⟨inside, below, same⟩
    · rintro ⟨inside, below, same⟩
      rw [Dict.lookup_map_of_mem (sorted.mem_iff.mpr inside)]
      exact ⟨below, same⟩
  have counts := counts_reconciled workspace sanitized rows directories rowsApart apart rfl
  exact {
    tracker := ⟨sanitized, read⟩
    applications := ⟨_, unmatched.trans (sorted.filter _), ids⟩
    records := records_reconciled workspace sanitized rows directories
    distinctIds := by
      rw [ids]
      refine List.nodup_append.mpr ⟨rowsApart, unmatched.nodup_iff.mpr ?_, ?_⟩
      · exact (sorted.nodup_iff.mpr packets.distinct).filter _
      · rintro id inRows directory inPackets rfl
        obtain ⟨-, noRow⟩ := List.mem_filter.mp (unmatched.mem_iff.mp inPackets)
        have noRow := of_decide_eq_true noRow
        rw [reconcile_of_not_mem noRow] at noRow
        exact noRow inRows
    orders := orders_reconciled workspace sanitized rows directories
    members := paths_reconciled workspace sanitized rows directories
    bindings := fun artifact member id => by
      rw [bound member]
      constructor
      · rintro ⟨directory, -, below, same⟩
        exact ⟨directory, below, resolves_iff.mpr same⟩
      · rintro ⟨directory, below, resolves⟩
        obtain ⟨file, isMember, path, -⟩ := artifacts_reconciled _ _ _ _ member
        exact ⟨directory, (packets.mem_iff directory).mpr ⟨file, isMember, path ▸ below⟩, below,
          resolves_iff.mp resolves⟩
    targets := fun artifact member id target => by
      obtain ⟨directory, inside, -, rfl⟩ := (bound member id).mp target
      exact listed inside
    trackerCount := counts.1
    packetCount := counts.2.1.trans sorted.length_eq
    dossierCount := (List.length_map _).symm.trans (congrArg List.length known)
    total := counts.2.2
    logical := counts.2.2 }

/-- Two directories that belong to one application are refused. -/
theorem reconcileCampaign_ambiguous {workspace : CampaignWorkspace}
    {sanitized : Option (List UInt8)} {rows : List (String × Dict String Json)}
    (read : readTracker workspace = .ok (sanitized, rows)) {directories : List String}
    (packets : PacketDirectories workspace directories) {first second id : String}
    (inFirst : first ∈ directories) (inSecond : second ∈ directories)
    (different : first ≠ second) (one : Resolves (rows.map Prod.fst) first id)
    (other : Resolves (rows.map Prod.fst) second id) : ∃ ambiguous, reconcileCampaign workspace =
      .error ("Ambiguous packet directories resolve to the same source ID '" ++ ambiguous ++
        "'") := by
  have names := packetDirectories_dossierFiles workspace
  have sorted := List.perm_insertionSort (· ≤ ·) (Dict.keys (dossierFiles workspace.members))
  have isName {directory : String} (inside : directory ∈ directories) :
      directory ∈ (Dict.keys (dossierFiles workspace.members)).insertionSort (· ≤ ·) :=
    sorted.mem_iff.mpr ((names.mem_iff directory).mpr ((packets.mem_iff directory).mp inside))
  have distinct := sorted.nodup_iff.mpr names.distinct
  unfold reconcileCampaign
  rw [read]
  simp only [bind, Except.bind]
  cases found : (resolvedToDirs (rows.map Prod.fst)
      ((Dict.keys (dossierFiles workspace.members)).insertionSort (· ≤ ·))).find?
        fun entry => 1 < entry.2.length with
  | some entry => exact ⟨entry.1, rfl⟩
  | none =>
    have apart := (find?_resolvedToDirs_eq_none_iff distinct).mp found
    refine absurd (List.inj_on_of_nodup_map apart (isName inFirst) (isName inSecond) ?_) different
    rw [resolves_iff.mp one, resolves_iff.mp other]

/-- An archive that is accepted is reconciled with the rows of its tracker, and one whose packets
are ambiguous is refused. -/
theorem campaign_reconciled (workspace : CampaignWorkspace) :
    ∃ directories, PacketDirectories workspace directories ∧
      (∀ parsed, reconcileCampaign workspace = .ok parsed →
        CampaignReconciled workspace directories parsed) ∧
      ∀ sanitized rows, readTracker workspace = .ok (sanitized, rows) →
        ∀ first ∈ directories, ∀ second ∈ directories, first ≠ second →
          ∀ id, Resolves (rows.map Prod.fst) first id → Resolves (rows.map Prod.fst) second id →
            ∃ ambiguous, reconcileCampaign workspace =
              .error ("Ambiguous packet directories resolve to the same source ID '" ++ ambiguous ++
                "'") := by
  have packets := packetDirectories_dossierFiles workspace
  refine ⟨_, packets, fun parsed accepted => reconciled_of_accepted accepted, ?_⟩
  intro sanitized rows read first inFirst second inSecond different id one other
  exact reconcileCampaign_ambiguous read packets inFirst inSecond different one other

end

section

/-- A tracker of two rows. -/
@[reducible] def TrackerFiles.twoRows : TrackerFiles where
  readWorkbook := fun _ => .ok
    { headers := ["id"], records := [[("id", .str "A1")], [("id", .str "A1_b")]] }
  sanitize := fun _ _ => .ok []
  sha256 := fun _ => "e3b0"

attribute [local instance] TextTables.plain CampaignReaders.nothing TrackerFiles.twoRows

/-- An archive with two rows, of which the second has a packet, and a packet without a row. -/
def springWorkspace : CampaignWorkspace where
  fingerprint := "f00d"
  idAliases := ["id", "applicationid", "sourceapplicationid", "appid", "codice"]
  aliases := by decide
  members := [
    ⟨"ApplicationTracker.xlsx", [80, 75], "a1", 2⟩,
    ⟨"application-packets/A1_b_clinic/cv.pdf", [37], "a2", 1⟩,
    ⟨"application-packets/walk-in/vacancy.md", [35], "a3", 1⟩,
    ⟨"application-packets/readme.txt", [], "a4", 0⟩]
  distinct := by decide

theorem campaign_reconciled_spring : ∃ directories parsed,
    reconcileCampaign springWorkspace = .ok parsed ∧
      CampaignReconciled springWorkspace directories parsed := by
  obtain ⟨directories, -, reconciled, -⟩ := campaign_reconciled springWorkspace
  have succeeds : (reconcileCampaign springWorkspace).isOk = true := by decide +kernel
  obtain ⟨parsed, accepted⟩ := ok_of_isOk succeeds
  exact ⟨directories, parsed, accepted, reconciled parsed accepted⟩

end

end CareerOS
