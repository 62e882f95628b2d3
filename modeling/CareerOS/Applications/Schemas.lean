/-
This file is the request schemas of the application service. A request object
exists only after its schema accepted the body, so what the schema guarantees is
carried by the object: a title is stripped and not blank, a note is there where
its kind needs one, the payload is bounded.
-/

import CareerOS.Applications.Payload
import CareerOS.Applications.Tasks
import CareerOS.Jobs.Urls

namespace CareerOS

/-- A text that went through a validator which strips it and refuses a blank one. -/
structure Stripped (limit : Nat) (text : String) : Prop where
  stripped : Text.strip text = text
  solid : text ≠ ""
  short : text.length ≤ limit

/-- A stripping validator behind a bound on the length. -/
def stripText (limit : Nat) (refusal text : String) : Except String {t : String // Stripped limit t} :=
  if long : 1 ≤ text.length ∧ text.length ≤ limit then
    if solid : Text.strip text ≠ "" then
      .ok ⟨Text.strip text, Text.strip_strip text, solid,
        le_trans (Text.length_strip_le text) long.2⟩
    else .error refusal
  else .error "the length is out of bounds"

/-! ### Addresses -/

/-- The characters of the part before the at sign. -/
def isLocalChar (letter : Char) : Bool :=
  Url.isAlpha letter || Url.isDigit letter || ".!#$%&*+/=?^_`\x7b|\x7d~-".toList.contains letter ||
    letter.toNat == 0x27

/-- One label of a domain. -/
def isDomainLabel (label : List Char) : Bool :=
  1 ≤ label.length && label.length ≤ 63 &&
    (label.all fun letter => Url.isAlpha letter || Url.isDigit letter || letter == '-') &&
    label.head? ≠ some '-' && label.getLast? ≠ some '-'

/-- The domain after the at sign: labels, then a top level of letters only. -/
def isEmailDomain (domain : List Char) : Bool :=
  match (domain.splitOn '.').reverse with
  | [] => false
  | topLevel :: labels =>
    labels ≠ [] && labels.all isDomainLabel && 2 ≤ topLevel.length && topLevel.length ≤ 63 &&
      topLevel.all Url.isAlpha

/-- `_APPLICATION_EMAIL.fullmatch` on an address taken apart at its last at sign. -/
def isApplicationEmail (user : List Char) (separator : Bool) (domain : List Char) : Bool :=
  separator && 1 ≤ user.length && user.length ≤ 64 && user.all isLocalChar && isEmailDomain domain

/-- `normalize_application_email`. -/
def normalizeApplicationEmail [TextTables] (value : Option String) :
    Except String (Option String) :=
  match value.bind Text.stripOrNone with
  | none => .ok none
  | some normalized =>
    let (user, separator, domain) := Url.rpartition '@' normalized.toList
    let domain := (TextTables.lower (String.ofList domain)).toList
    if isApplicationEmail user separator domain then
      .ok (some (String.ofList (user ++ '@' :: domain)))
    else .error "application_email is invalid"

/-- What a normal address came from. -/
def IsNormalUrl [TextTables] (value : Option String) : Prop :=
  ∃ source, normalizeJobUrl source false = .ok value

def IsNormalEmail [TextTables] (value : Option String) : Prop :=
  ∃ source, normalizeApplicationEmail source = .ok value

/-! ### The manual snapshot -/

/-- An optional field of a JSON object that must be a string of bounded length. -/
def readOptionalText (key : String) (limit : Nat) (fields : Dict String Json) :
    Except String (Option String) :=
  match Dict.lookup key fields with
  | none | some .null => .ok none
  | some (.str text) =>
    if text.length ≤ limit then .ok (some text) else .error (key ++ " is too long")
  | some _ => .error (key ++ " must be a string")

/-- A required field of a JSON object that must be a string. -/
def readRequiredText (key : String) (fields : Dict String Json) : Except String String :=
  match Dict.lookup key fields with
  | some (.str text) => .ok text
  | _ => .error (key ++ " must be a string")

/-- `ManualJobSnapshot`. -/
structure ManualJobSnapshot [TextTables] where
  title : String
  company : String
  description : Option String
  location : Option String
  externalUrl : Option String
  applicationUrl : Option String
  applicationEmail : Option String
  workload : Option String
  titleFits : Stripped 240 title
  companyFits : Stripped 240 company
  descriptionFits : ∀ text, description = some text → text.length ≤ 100000
  locationFits : ∀ text, location = some text → text.length ≤ 500
  workloadFits : ∀ text, workload = some text → text.length ≤ 120
  externalUrlNormal : IsNormalUrl externalUrl
  applicationUrlNormal : IsNormalUrl applicationUrl
  emailNormal : IsNormalEmail applicationEmail

/-- The fields of the schema. -/
def ManualJobSnapshot.modelFields : List String :=
  ["title", "company", "description", "location", "external_url", "application_url",
    "application_email", "workload"]

/-- A length bound kept as a fact about an optional text. -/
def boundText (key : String) (limit : Nat) (value : Option String) :
    Except String {v : Option String // ∀ text, v = some text → text.length ≤ limit} :=
  if fits : ∀ text, value = some text → text.length ≤ limit then .ok ⟨value, fits⟩
  else .error (key ++ " is too long")

/-- A result kept together with where it came from. -/
def keepSource {Source Value : Type} (convert : Source → Except String Value) (source : Source) :
    Except String {value : Value // ∃ source, convert source = .ok value} :=
  match converted : convert source with
  | .ok value => .ok ⟨value, source, converted⟩
  | .error refusal => .error refusal

/-- `ManualJobSnapshot.model_validate` on the items of a JSON object; strings are read the same
way in both modes. -/
def ManualJobSnapshot.modelValidate [TextTables] (fields : Dict String Json) :
    Except String ManualJobSnapshot := do
  if (Dict.keys fields).any fun key => !ManualJobSnapshot.modelFields.contains key then
    throw "extra fields are not permitted"
  let title ← readRequiredText "title" fields
  let title ← stripText 240 "must not be empty" title
  let company ← readRequiredText "company" fields
  let company ← stripText 240 "must not be empty" company
  let description ← readOptionalText "description" 100000 fields
  let description ← boundText "description" 100000 description
  let location ← readOptionalText "location" 500 fields
  let location ← boundText "location" 500 location
  let externalUrl ← readOptionalText "external_url" 2048 fields
  let externalUrl ← keepSource (fun value => normalizeJobUrl value false) externalUrl
  let applicationUrl ← readOptionalText "application_url" 2048 fields
  let applicationUrl ← keepSource (fun value => normalizeJobUrl value false) applicationUrl
  let applicationEmail ← readOptionalText "application_email" 320 fields
  let applicationEmail ← keepSource normalizeApplicationEmail applicationEmail
  let workload ← readOptionalText "workload" 120 fields
  let workload ← boundText "workload" 120 workload
  return ⟨title, company, description, location, externalUrl, applicationUrl, applicationEmail,
    workload, title.2, company.2, description.2, location.2, workload.2, externalUrl.2,
    applicationUrl.2, applicationEmail.2⟩

/-! ### Creating an application -/

/-- Where a new application comes from: `job_id` or `manual_job`, never both. -/
inductive JobSource [TextTables]
  | job (jobId : Nat)
  | manual (snapshot : ManualJobSnapshot)

/-- `ApplicationCreate`. -/
structure ApplicationCreate [TextTables] where
  source : JobSource
  resumeVersionId : Option String
  initialStage : Stage
  note : Option String
  stageInitial : initialStage.isInitial = true

/-! ### Timeline events -/

/-- The rules of `ApplicationEventCreate` across its fields. -/
structure EventRules (eventType : EventType) (stage : Option Stage) (note : Option String)
    (payload : Dict String Json) : Prop where
  kind : eventType.isInput = true
  stageIff : eventType = .stage ↔ stage.isSome
  noteNeeded : eventType.needsNote = true → ∃ text, note = some text ∧ text ≠ ""
  bounded : validateBoundedJson (.obj payload) = .ok ()

/-- `ApplicationEventCreate`. -/
structure ApplicationEventCreate where
  expectedRevision : Nat
  eventType : EventType
  stage : Option Stage
  occurredAt : Option DateTime
  note : Option String
  payload : Dict String Json
  rules : EventRules eventType stage note payload

/-! ### Tasks -/

/-- `ApplicationTaskCreate`. -/
structure ApplicationTaskCreate where
  expectedRevision : Nat
  title : String
  dueAt : Option DateTime
  priority : TaskPriority
  reminderAt : Option DateTime
  titleFits : Stripped 500 title

/-- `ApplicationTaskUpdate`. The outer option tells whether the field is in `model_fields_set`;
a title, a priority and a status that are set are not null. -/
structure ApplicationTaskUpdate where
  expectedRevision : Nat
  title : Option String
  dueAt : Option (Option DateTime)
  priority : Option TaskPriority
  reminderAt : Option (Option DateTime)
  status : Option TaskStatus
  titleFits : ∀ text, title = some text → Stripped 500 text

/-! ### Preparing an application -/

/-- `ApplicationPreparationUpdate`. The outer option tells whether the field is in
`model_fields_set`. -/
structure ApplicationPreparationUpdate [TextTables] where
  expectedRevision : Nat
  title : Option (Option String)
  company : Option (Option String)
  description : Option (Option String)
  applicationUrl : Option (Option String)
  applicationEmail : Option (Option String)
  resumeVersionId : Option (Option String)
  titleFits : ∀ text, title = some (some text) → Stripped 240 text
  companyFits : ∀ text, company = some (some text) → Stripped 240 text
  descriptionFits : ∀ text, description = some (some text) → text.length ≤ 100000
  urlNormal : ∀ value, applicationUrl = some value → IsNormalUrl value
  emailNormal : ∀ value, applicationEmail = some value → IsNormalEmail value

end CareerOS
