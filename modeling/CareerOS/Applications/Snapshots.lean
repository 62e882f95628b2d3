/-
This file is the snapshot of a listing an application keeps: the projection onto
the fields the workflow uses, and the rule that a match survives only while it is
the current, attested match of the job row it was taken from.
-/

import CareerOS.Applications.Schemas

namespace CareerOS

def applicationSnapshotSchemaVersion : Int := 2

/-- `APPLICATION_SNAPSHOT_SAFE_FIELDS`. -/
def applicationSnapshotSafeFields : List String :=
  ["title", "company", "description", "location", "external_url", "application_url",
    "application_email", "workload", "publication_date", "platform", "platform_job_id"]

/-- The catalog row of a listing. -/
structure ScrapedJob where
  platform : String
  platformJobId : String
  title : String
  company : String
  description : Option String
  location : Option String
  externalUrl : String
  applicationUrl : Option String
  applicationEmail : Option String
  workload : Option String
  publicationDate : Option DateTime

/-- An owned job row after its analysis receipt was checked. The score is a float column. -/
structure Job where
  id : Nat
  scrapedJobId : Nat
  scrapedJob : ScrapedJob
  affinityScore : Option String
  affinityAnalysis : Option String
  worthApplying : Option Bool
  analysisExecutionId : Option String
  analysisRowFingerprint : Option String
  analysisVerified : Bool
  externalAnalysisVerified : Bool

def Job.scoreJson (job : Job) : Json :=
  match job.affinityScore with
  | some text => .float text
  | none => .null

def Job.worthApplyingJson (job : Job) : Json :=
  match job.worthApplying with
  | some value => .bool value
  | none => .null

/-- `_neutral_match`. -/
def neutralMatch (reason : String) : Dict String Json := [
  ("score", .null),
  ("analysis", .null),
  ("worth_applying", .null),
  ("receipt_verified", .bool false),
  ("quarantine_reason", .str reason)]

/-- `_verified_match`. -/
def verifiedMatch (job : Job) : Dict String Json := [
  ("score", job.scoreJson),
  ("analysis", .ofText job.affinityAnalysis),
  ("worth_applying", job.worthApplyingJson),
  ("receipt_verified", .bool true),
  ("execution_id", .ofText job.analysisExecutionId),
  ("row_fingerprint", .ofText job.analysisRowFingerprint)]

/-- `snapshot_match_is_current`. A score is compared as the float it is stored as. -/
def snapshotMatchIsCurrent (snapshot : Dict String Json) (job : Job) : Bool :=
  (job.analysisVerified || job.externalAnalysisVerified) &&
    match Dict.lookup "match" snapshot with
    | some (.obj found) =>
      ["score", "analysis", "worth_applying"].all fun field =>
        (Dict.lookup field found).getD .null = (Dict.lookup field (verifiedMatch job)).getD .null
    | _ => false

/-- The match a sanitized snapshot carries. -/
def sanitizedMatch (snapshot : Dict String Json) (verifiedJob : Option Job)
    (quarantineReason : String) : Dict String Json :=
  match verifiedJob with
  | some job =>
    if snapshotMatchIsCurrent snapshot job then verifiedMatch job else neutralMatch quarantineReason
  | none => neutralMatch quarantineReason

/-- The safe fields a snapshot has. -/
def safeProjection (snapshot : Dict String Json) : Dict String Json :=
  applicationSnapshotSafeFields.filterMap fun field =>
    (Dict.lookup field snapshot).map fun value => (field, value)

/-- `sanitize_application_snapshot`. -/
def sanitizeApplicationSnapshot (snapshot : Dict String Json) (verifiedJob : Option Job)
    (quarantineReason : String) : Dict String Json :=
  safeProjection snapshot ++ [
    ("schema_version", .int applicationSnapshotSchemaVersion),
    ("match", .obj (sanitizedMatch snapshot verifiedJob quarantineReason))]

/-- `snapshot_from_job`. -/
def snapshotFromJob [Pydantic] (job : Job) : Dict String Json :=
  let scraped := job.scrapedJob
  sanitizeApplicationSnapshot [
    ("schema_version", .int applicationSnapshotSchemaVersion),
    ("title", .str scraped.title),
    ("company", .str scraped.company),
    ("description", .ofText scraped.description),
    ("location", .ofText scraped.location),
    ("external_url", .str scraped.externalUrl),
    ("application_url", .ofText scraped.applicationUrl),
    ("application_email", .ofText scraped.applicationEmail),
    ("workload", .ofText scraped.workload),
    ("publication_date", .ofText (scraped.publicationDate.map Pydantic.isoformat)),
    ("platform", .str scraped.platform),
    ("platform_job_id", .str scraped.platformJobId),
    ("match", .obj [
      ("score", job.scoreJson),
      ("analysis", .ofText job.affinityAnalysis),
      ("worth_applying", job.worthApplyingJson)])] (some job) "analysis_not_receipt_verified"

/-- `_manual_snapshot`. -/
def manualSnapshot [TextTables] (data : ManualJobSnapshot) : Dict String Json :=
  sanitizeApplicationSnapshot [
    ("schema_version", .int 2),
    ("title", .str data.title),
    ("company", .str data.company),
    ("description", .ofText data.description),
    ("location", .ofText data.location),
    ("external_url", .ofText data.externalUrl),
    ("application_url", .ofText data.applicationUrl),
    ("application_email", .ofText data.applicationEmail),
    ("workload", .ofText data.workload),
    ("publication_date", .null),
    ("platform", .str "manual"),
    ("platform_job_id", .null),
    ("match", .obj [])] none "manual_snapshot_has_no_model_analysis"

/-! ### What sanitizing keeps -/

theorem lookup_safeProjection (field : String) (snapshot : Dict String Json) :
    Dict.lookup field (safeProjection snapshot) =
      if field ∈ applicationSnapshotSafeFields then Dict.lookup field snapshot else none := by
  unfold safeProjection
  generalize applicationSnapshotSafeFields = fields
  induction fields with
  | nil => rfl
  | cons first rest inductionHypothesis =>
    rw [List.filterMap_cons]
    by_cases same : first = field
    · subst same
      rw [if_pos List.mem_cons_self]
      cases found : Dict.lookup first snapshot with
      | none =>
        rw [Option.map_none, inductionHypothesis, found, ite_self]
      | some value =>
        rw [Option.map_some, Dict.lookup_cons, if_pos rfl]
    · have members : (field ∈ first :: rest) = (field ∈ rest) := by
        simp [Ne.symm same]
      rw [if_congr (iff_of_eq members) rfl rfl, ← inductionHypothesis]
      cases Dict.lookup first snapshot with
      | none => rfl
      | some value => rw [Option.map_some, Dict.lookup_cons, if_neg same]

/-- A safe field of a sanitized snapshot is the field of the source. -/
theorem lookup_sanitize {field : String} (safe : field ∈ applicationSnapshotSafeFields)
    (snapshot : Dict String Json) (verifiedJob : Option Job) (quarantineReason : String) :
    Dict.lookup field (sanitizeApplicationSnapshot snapshot verifiedJob quarantineReason) =
      Dict.lookup field snapshot := by
  have others : field ≠ "schema_version" ∧ field ≠ "match" := by
    revert safe
    unfold applicationSnapshotSafeFields
    rintro member
    constructor <;> rintro rfl <;> revert member <;> decide
  unfold sanitizeApplicationSnapshot
  rw [Dict.lookup_append, lookup_safeProjection, if_pos safe, Dict.lookup_cons, Dict.lookup_cons,
    Dict.lookup_nil, if_neg others.1.symm, if_neg others.2.symm, Option.or_none]

end CareerOS
