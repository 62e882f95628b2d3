/-
This file is the check a backup makes of the applications and the timelines it
carries. It is made of the exported rows, at export and again at restore, and
knows nothing of the writers: each row and each event has to pass on its own.
-/

import CareerOS.Applications.DossierSchemas
import CareerOS.Applications.Snapshots
import CareerOS.Library.Outcome

namespace CareerOS

/-- Two lists of names hold the same names. -/
def sameNames (first second : List String) : Bool :=
  first.all second.contains && second.all first.contains

/-! ### Dates -/

/-- The number of days of an ISO week year's weeks: does the year have a week 53? -/
def hasWeek53 (year : Nat) : Bool :=
  let dayOf (year : Nat) := (year + year / 4 - year / 100 + year / 400) % 7
  dayOf year = 4 || dayOf (year - 1) = 3

/-- A field of decimal digits. -/
def readDigits (digits : List Char) : Option Nat :=
  if digits ≠ [] ∧ digits.all Url.isDigit then some (Url.decimal digits) else none

/-- The month and day, or the week and weekday, after the year of an ISO date. -/
def readMonthDay (year : Nat) (dashed : Bool) (rest : List Char) : Bool :=
  match rest with
  | 'W' :: w₁ :: w₂ :: day =>
    let weekday :=
      match day, dashed with
      | [], _ => some 1
      | '-' :: digits, true => if digits.length = 1 then readDigits digits else none
      | digits, false => if digits.length = 1 then readDigits digits else none
      | _, _ => none
    match readDigits [w₁, w₂], weekday with
    | some week, some weekday =>
      1 ≤ week && (week ≤ 52 || (week = 53 && hasWeek53 year)) && 1 ≤ weekday && weekday ≤ 7 &&
        -- the last week of the last year runs into a year no date has
        (year < 9999 || week < 52 || weekday ≤ 5)
    | _, _ => false
  | m₁ :: m₂ :: day =>
    let digits :=
      match day, dashed with
      | '-' :: digits, true => digits
      | digits, false => digits
      | _, _ => []
    match readDigits [m₁, m₂], (if digits.length = 2 then readDigits digits else none) with
    | some month, some day =>
      1 ≤ month && month ≤ 12 && 1 ≤ day && day ≤ daysInMonth year month
    | _, _ => false
  | _ => false

/-- Does `date.fromisoformat(text)` return? -/
def dateFromIsoformat (text : String) : Bool :=
  match text.toList with
  | y₁ :: y₂ :: y₃ :: y₄ :: rest =>
    match readDigits [y₁, y₂, y₃, y₄] with
    | none => false
    | some year =>
      1 ≤ year &&
        match rest with
        | '-' :: rest => readMonthDay year true rest
        | rest => readMonthDay year false rest
  | _ => false

/-! ### Applications -/

/-- A text that is there and not blank. -/
def solidText (value : Option Json) : Bool :=
  match value with
  | some (.str text) => !Text.blank text
  | _ => false

/-- An optional identity of the source of a listing. -/
def sourceIdentity (maximum : Nat) (value : Option Json) : Bool :=
  match value with
  | none | some .null => true
  | some (.str text) => !Text.blank text && text.length ≤ maximum
  | some _ => false

/-- The value of a key, null where it is missing. -/
def fieldOf (key : String) (fields : Dict String Json) : Json :=
  (Dict.lookup key fields).getD .null

/-- A score that a verified match may carry. -/
def scoreAllowed (value : Json) : Bool :=
  match value with
  | .null => true
  | .int score => 0 ≤ score && score ≤ 100
  | _ => false

def isTextOrNull (value : Json) : Bool :=
  match value with
  | .null | .str _ => true
  | _ => false

def isBoolOrNull (value : Json) : Bool :=
  match value with
  | .null | .bool _ => true
  | _ => false

/-- `_uuid`. -/
def isUuid (value : Json) : Bool :=
  match value with
  | .str text => canonicalUuid text
  | _ => false

/-- A SHA-256 digest in hexadecimal. -/
def isDigest (value : Json) : Bool :=
  match value with
  | .str text => text.length = 64 && text.toList.all fun letter =>
      Url.isDigit letter || (0x61 ≤ letter.toNat && letter.toNat ≤ 0x66)
  | _ => false

/-- `_validate_application_match`. -/
def validateApplicationMatch (value : Option Json) : Except String Unit :=
  match value with
  | some (.obj found) =>
    match Dict.lookup "receipt_verified" found with
    | some (.bool true) =>
      refuseWhen (¬(sameNames (Dict.keys found) ["score", "analysis", "worth_applying",
          "receipt_verified", "execution_id", "row_fingerprint"] ∧
          scoreAllowed (fieldOf "score" found) ∧ isTextOrNull (fieldOf "analysis" found) ∧
          isBoolOrNull (fieldOf "worth_applying" found) ∧ isUuid (fieldOf "execution_id" found) ∧
          isDigest (fieldOf "row_fingerprint" found)))
        "Verified application match projection is invalid"
    | some (.bool false) =>
      refuseWhen (¬(sameNames (Dict.keys found) ["score", "analysis", "worth_applying",
          "receipt_verified", "quarantine_reason"] ∧
          fieldOf "score" found = .null ∧ fieldOf "analysis" found = .null ∧
          fieldOf "worth_applying" found = .null ∧
          solidText (Dict.lookup "quarantine_reason" found)))
        "Quarantined application match projection is invalid"
    | _ => .error "Application match projection is invalid"
  | _ => .error "Application match projection is invalid"

/-- The publication date of a snapshot. -/
def validatePublicationDate (value : Option Json) : Except String Unit :=
  match value with
  | none | some .null => .ok ()
  | some (.str text) => refuseWhen (¬dateFromIsoformat text) "Invalid isoformat string"
  | some _ => .error "Application publication date is invalid"

/-- The first loop of `_validate_application_domain`, for one snapshot; a stage is always known. -/
def validateSnapshot [TextTables] (snapshot : Dict String Json) : Except String Unit := do
  refuseWhen ((Dict.keys snapshot).any (fun key =>
      !(applicationSnapshotSafeFields ++ ["schema_version", "match"]).contains key) ∨
      Dict.lookup "schema_version" snapshot ≠ some (.int applicationSnapshotSchemaVersion))
    "Application snapshot shape is invalid"
  refuseWhen (¬(solidText (Dict.lookup "title" snapshot) ∧
      solidText (Dict.lookup "company" snapshot)))
    "Application snapshot identity is invalid"
  let _ ← ManualJobSnapshot.modelValidate
    (ManualJobSnapshot.modelFields.filterMap fun field =>
      (Dict.lookup field snapshot).map fun value => (field, value))
  validatePublicationDate (Dict.lookup "publication_date" snapshot)
  refuseWhen (¬sourceIdentity 40 (Dict.lookup "platform" snapshot))
    "Application source identity is invalid"
  refuseWhen (¬sourceIdentity 255 (Dict.lookup "platform_job_id" snapshot))
    "Application source identity is invalid"
  validateApplicationMatch (Dict.lookup "match" snapshot)

/-! ### Events -/

/-- The checks of an event that do not look into its payload. -/
def eventShape (event : ApplicationEvent) : Bool :=
  (event.eventType = .stage ↔ event.stage.isSome) &&
    (!event.eventType.needsNote ||
      match event.note with
      | some note => !Text.blank note
      | none => false)

/-- The payload of a task event. -/
def validateTaskPayload [Pydantic] (payload : Dict String Json) : Except String Unit :=
  match Dict.lookup "task" payload with
  | some (.obj task) => do
    refuseWhen (¬(sameNames (Dict.keys payload) ["schema_version", "task"] ∧
        Dict.lookup "schema_version" payload = some (.str "1.0") ∧
        sameNames (Dict.keys task) TaskResponse.modelFields))
      "Application task event payload is invalid"
    refuseWhen (TaskResponse.modelValidate .strict (.obj task) = none)
      "task record failed its schema"
  | _ => .error "Application task event payload is invalid"

/-- The text of a changed field. -/
def changedField (value : Json) : Option String :=
  match value with
  | .str field => some field
  | _ => none

/-- The payload of a preparation event. -/
def validatePreparationPayload (payload : Dict String Json) : Except String Unit :=
  match Dict.lookup "changed_fields" payload with
  | some (.arr changed) =>
    refuseWhen (¬(sameNames (Dict.keys payload) ["changed_fields"] ∧ changed ≠ [] ∧
        changed.all (fun field => (changedField field).isSome) ∧
        (changed.filterMap changedField).Nodup ∧
        (changed.filterMap changedField).all ["title", "company", "description",
          "application_url", "application_email", "resume_version_id"].contains))
      "Application preparation event payload is invalid"
  | _ => .error "Application preparation event payload is invalid"

/-- The bound on the payload of an event. -/
def validateEventSize (event : ApplicationEvent) : Except String Unit :=
  if event.eventType = .dossierPublished then
    refuseWhen ((Json.obj event.payload).encodedSize > maxDossierInputBytes)
      "Published dossier event is too large"
  else validateApplicationEventPayload (.obj event.payload)

/-- The second loop of `_validate_application_domain`, for one event. -/
def validateEvent [Pydantic] (event : ApplicationEvent) : Except String Unit := do
  refuseWhen (¬eventShape event) "Application event is invalid"
  validateEventSize event
  if event.eventType.isTask then validateTaskPayload event.payload
  else if event.eventType = .preparation then validatePreparationPayload event.payload
  else pure ()

/-- `_validate_application_domain` on one application and its timeline. -/
def validateApplication [TextTables] [Pydantic] (application : Application) :
    Except String Unit := do
  validateSnapshot application.jobSnapshot
  forM application.events validateEvent

/-- The row of an application in an archive, exported beside the owned job row it is linked to. -/
def exportApplication (job : Option Job) (application : Application) : Application :=
  { application with
    jobSnapshot := sanitizeApplicationSnapshot application.jobSnapshot job
      "analysis_not_receipt_verified_at_export" }

/-- The backup accepts an application that is exported beside the given job row. -/
def BackedUp [TextTables] [Pydantic] (job : Option Job) (application : Application) : Prop :=
  validateApplication (exportApplication job application) = .ok ()

theorem backedUp_iff [TextTables] [Pydantic] (job : Option Job) (application : Application) :
    BackedUp job application ↔
      validateSnapshot (exportApplication job application).jobSnapshot = .ok () ∧
        ∀ event ∈ application.events, validateEvent event = .ok () := by
  unfold BackedUp validateApplication
  rw [bind_ok_iff, ← forM_ok_iff]
  exact ⟨fun ⟨_, snapshot, events⟩ => ⟨snapshot, events⟩,
    fun ⟨snapshot, events⟩ => ⟨(), snapshot, events⟩⟩

end CareerOS
