/-
This file is how a campaign archive becomes a list of applications: the rows of
the tracker in their order, each with the packet directory that belongs to it,
and then the packets no row claims. A source identifier names one row of the
tracker and one packet at most, so it names one application.

The workbook is read here from its cells on, and a packet from the text of its
vacancy file on. Reading a day out of a cell and the Markdown of a vacancy are
parameters.
-/

import CareerOS.Campaigns.Planner
import CareerOS.Library.Outcome

namespace CareerOS

/-- `ParsedApplication`, with what its snapshot is built from. -/
structure CampaignApplication extends ParsedApplication where
  title : String
  company : String
  location : Option String
  platformUrl : Option String
  jobPostingUrl : Option String
  url : Option String

/-- `ParsedVacancy`. -/
structure ParsedVacancy where
  title : String
  company : String
  location : Option String
  url : Option String
  category : Option String

/-- The readers of days and vacancies. -/
class CampaignReaders where
  /-- `date.fromisoformat(text)`, or nothing on a `ValueError`. -/
  fromIsoDate : String → Option Date
  /-- `parse_vacancy_markdown(text)`, or nothing on a `ValueError`. -/
  parseVacancy : String → Option ParsedVacancy

/-- Readers of no day and no vacancy. -/
@[reducible] def CampaignReaders.nothing : CampaignReaders where
  fromIsoDate := fun _ => none
  parseVacancy := fun _ => none

/-- One packet directory: its name and the text of its vacancy file, when it has one in UTF-8. -/
structure PacketDirectory where
  name : String
  vacancy : Option String

/-- One member of the archive, as the import stores it. -/
structure ParsedArtifact where
  relativePath : String
  displayName : String
  category : String

/-- `ACCEPTED_ID_ALIASES`. -/
def acceptedIdAliases : List String :=
  ["applicationid", "sourceapplicationid", "id", "appid", "codice"]

/-- An accepted archive: the records of its tracker sheet, its packets and its members. A set
has no order of its own, so the aliases are tried in the one the interpreter gives them. -/
structure CampaignArchive where
  fingerprint : String
  idAliases : List String
  aliases : idAliases.Perm acceptedIdAliases
  records : List (Dict String Json)
  packets : List PacketDirectory
  artifacts : List ParsedArtifact

/-- `ParsedCampaign`; the vacancy texts are by application. -/
structure ParsedCampaign where
  fingerprint : String
  applications : List CampaignApplication
  vacancies : Dict String String
  artifacts : List ParsedArtifact

/-! ### The cells of a record -/

/-- `str(value)` of a cell, which holds no list and no dictionary. -/
def cellText : Json → String
  | .null => "None"
  | .bool true => "True"
  | .bool false => "False"
  | .int value => toString value
  | .float text | .str text => text
  | .arr _ | .obj _ => ""

/-- A cell that is empty, or text that is blank. -/
def isBlankCell : Json → Bool
  | .null => true
  | .str text => Text.blank text
  | _ => false

section

variable [TextTables]

/-- `clean_header_key`. -/
def cleanHeaderKey (key : String) : String :=
  String.ofList ((Text.strip (TextTables.lower key)).toList.filter fun letter =>
    !(Text.isSpace letter || ['_', '-', '/'].contains letter))

/-- `find_field`. Where two headers are the same key, the later one counts. -/
def findField (record : Dict String Json) : List String → Option Json
  | [] => none
  | candidate :: rest =>
    let found := Dict.lookup (cleanHeaderKey candidate)
      (record.reverse.map fun (key, value) => (cleanHeaderKey key, value))
    match found with
    | some value => if isBlankCell value then findField record rest else some value
    | none => findField record rest

/-- `coerce_text(find_field(record, candidates))`. -/
def findText (record : Dict String Json) (candidates : List String) : Option String :=
  (findField record candidates).map cellText

/-- The stripped text of an address cell. -/
def findUrl (record : Dict String Json) (candidates : List String) : Option String :=
  (findText record candidates).bind Text.stripOrNone

variable [CampaignReaders]

/-- `coerce_date(find_field(record, candidates))`. -/
def findDate (record : Dict String Json) (candidates : List String) : Option Date :=
  match findField record candidates with
  | some (.str text) =>
    let day := (Text.strip text).toList.splitOn 'T' |>.headD []
    CampaignReaders.fromIsoDate (String.ofList day)
  | _ => none

/-- The application one record of the tracker stands for. -/
def trackerApplication (record : Dict String Json) (sourceApplicationId : String)
    (sourceOrder : Nat) (packetDir : Option String) : CampaignApplication :=
  let platformUrl := findUrl record ["platform url", "source url"]
  let jobPostingUrl := findUrl record ["job posting url", "job url", "posting url"]
  let genericUrl := findUrl record ["application url", "url", "link"]
  { sourceApplicationId
    sourceOrder
    title := (findText record ["role title", "job title", "role", "title"]).getD "Untitled role"
    company := (findText record ["company name", "company", "employer"]).getD "Unknown company"
    location := findText record ["location", "workplace location", "city"]
    sourceStatus := findText record ["status", "source status", "stage"]
    priority := findText record ["priority"]
    platform := findText record
      ["platform / source", "platform source", "source platform", "platform", "source"]
    category := findText record ["job category", "category"]
    outcome := findText record ["outcome", "result"]
    foundAt := findDate record ["date found", "found date", "found at"]
    appliedAt := findDate record
      ["application date", "applied date", "date applied", "applied at"]
    followUpAt := findDate record
      ["follow-up date", "follow up date", "followup date", "next follow up", "follow up"]
    lastUpdateAt := findDate record
      ["last update", "last update date", "updated at", "last updated"]
    nextAction := findText record ["next action", "action"]
    platformUrl
    jobPostingUrl
    url := (jobPostingUrl.or platformUrl).or genericUrl
    trackerRecord := record
    sources := if packetDir.isSome then ["tracker", "dossier"] else ["tracker"]
    packetDir }

/-- The application a packet stands for that no record claims. -/
def dossierApplication (sourceApplicationId : String) (sourceOrder : Nat)
    (vacancy : Option String) : CampaignApplication :=
  let parsed := (vacancy.bind CampaignReaders.parseVacancy).getD
    ⟨"Untitled role", "Unknown company", none, none, none⟩
  { sourceApplicationId
    sourceOrder
    title := parsed.title
    company := parsed.company
    location := parsed.location
    sourceStatus := none
    priority := none
    platform := none
    category := parsed.category
    outcome := none
    foundAt := none
    appliedAt := none
    followUpAt := none
    lastUpdateAt := none
    nextAction := none
    platformUrl := none
    jobPostingUrl := parsed.url
    url := none
    trackerRecord := []
    sources := ["dossier"]
    packetDir := some sourceApplicationId }

/-! ### The identifiers of the applications -/

/-- The identifiers of the tracker rows, in their order. -/
def readIds (aliases : List String) (seenIds : List String) :
    List (Dict String Json) → Except String (List (String × Dict String Json))
  | [] => .ok []
  | record :: rest => do
    let appId := Text.strip ((findText record aliases).getD "")
    refuseWhen (appId = "") "Applications row is missing source application ID"
    refuseWhen (appId ∈ seenIds) ("Duplicate source application ID: " ++ appId)
    let others ← readIds aliases (appId :: seenIds) rest
    return (appId, record) :: others

/-- `reconcile_dossier_directory_name`. -/
def reconcileDossierDirectoryName (dirName : String) (trackerIds : List String) : String :=
  if dirName ∈ trackerIds then dirName
  else
    let candidates := trackerIds.filter fun id => (id ++ "_").toList.isPrefixOf dirName.toList
    (candidates.argmax String.length).getD dirName

/-- The applications of the tracker, each with the packet its identifier resolves. -/
def trackedApplications (rows : List (String × Dict String Json))
    (resolved : Dict String PacketDirectory) : List CampaignApplication :=
  rows.zipIdx.map fun row =>
    trackerApplication row.1.2 row.1.1 row.2
      ((Dict.lookup row.1.1 resolved).map PacketDirectory.name)

/-- The applications of the packets no row claims. -/
def untrackedApplications (ids : List String) (baseOrder : Nat)
    (resolved : Dict String PacketDirectory) : List CampaignApplication :=
  ids.zipIdx.map fun row =>
    dossierApplication row.1 (baseOrder + row.2)
      ((Dict.lookup row.1 resolved).bind PacketDirectory.vacancy)

/-- The packets of an archive under the identifiers they resolve to. -/
def resolvedPackets (packets : List PacketDirectory) (trackerIds : List String) :
    Dict String PacketDirectory :=
  packets.map fun packet => (reconcileDossierDirectoryName packet.name trackerIds, packet)

/-- `parse_campaign_workspace`, from the records and the packets on. -/
def parseCampaignWorkspace (archive : CampaignArchive) : Except String ParsedCampaign := do
  let rows ← readIds archive.idAliases [] archive.records
  let trackerIds := rows.map Prod.fst
  let resolved := resolvedPackets archive.packets trackerIds
  refuseWhen (¬(Dict.keys resolved).Nodup)
    "Ambiguous packet directories resolve to the same source ID"
  let dossierOnly := ((Dict.keys resolved).filter fun id => id ∉ trackerIds).mergeSort (· ≤ ·)
  return {
    fingerprint := archive.fingerprint
    applications := trackedApplications rows resolved ++
      untrackedApplications dossierOnly rows.length resolved
    vacancies := resolved.filterMap fun (id, packet) => packet.vacancy.map fun text => (id, text)
    artifacts := archive.artifacts }

omit [CampaignReaders] in
/-- The rows that are read have their own identifiers. -/
theorem readIds_ok {aliases seenIds : List String} {records : List (Dict String Json)}
    {rows : List (String × Dict String Json)}
    (read : readIds aliases seenIds records = .ok rows) :
    (rows.map Prod.fst).Nodup ∧ ∀ id ∈ rows.map Prod.fst, id ∉ seenIds := by
  induction records generalizing seenIds rows with
  | nil =>
    cases read
    exact ⟨List.nodup_nil, fun _ impossible => absurd impossible List.not_mem_nil⟩
  | cons record rest inductionHypothesis =>
    simp only [readIds, bind_ok_iff, pure_ok_iff, refuseWhen_ok_iff] at read
    obtain ⟨-, -, -, fresh, others, readRest, rfl⟩ := read
    obtain ⟨distinct, unseen⟩ := inductionHypothesis readRest
    constructor
    · refine List.nodup_cons.mpr ⟨fun again => ?_, distinct⟩
      exact unseen _ again List.mem_cons_self
    · intro id member
      rcases List.mem_cons.mp member with rfl | inside
      · exact fresh
      · exact fun seen => unseen id inside (List.mem_cons_of_mem _ seen)

theorem ids_tracked (rows : List (String × Dict String Json))
    (resolved : Dict String PacketDirectory) :
    (trackedApplications rows resolved).map (fun app => app.sourceApplicationId) =
      rows.map Prod.fst := by
  unfold trackedApplications
  rw [List.map_map, ← List.zipIdx_map_fst 0 rows, List.map_map, List.zipIdx_map_fst 0 rows]
  rfl

omit [TextTables] in
theorem ids_untracked (ids : List String) (baseOrder : Nat)
    (resolved : Dict String PacketDirectory) :
    (untrackedApplications ids baseOrder resolved).map (fun app => app.sourceApplicationId) =
      ids := by
  unfold untrackedApplications
  rw [List.map_map]
  exact List.zipIdx_map_fst 0 ids

/-- The applications of an accepted archive have their own identifiers. -/
theorem nodup_ids_parsed {archive : CampaignArchive} {parsed : ParsedCampaign}
    (accepted : parseCampaignWorkspace archive = .ok parsed) :
    (parsed.applications.map fun app => app.sourceApplicationId).Nodup := by
  simp only [parseCampaignWorkspace, bind_ok_iff, pure_ok_iff, refuseWhen_ok_iff, not_not]
    at accepted
  obtain ⟨rows, read, -, distinct, rfl⟩ := accepted
  rw [List.map_append, ids_tracked, ids_untracked]
  have sorted := List.mergeSort_perm ((Dict.keys (resolvedPackets archive.packets
    (rows.map Prod.fst))).filter fun id => id ∉ rows.map Prod.fst) (· ≤ ·)
  refine List.nodup_append.mpr
    ⟨(readIds_ok read).1, sorted.nodup_iff.mpr (distinct.filter _), ?_⟩
  rintro id inRows other inPackets rfl
  have outside := (List.mem_filter.mp (sorted.mem_iff.mp inPackets)).2
  exact of_decide_eq_true outside inRows

end

end CareerOS
