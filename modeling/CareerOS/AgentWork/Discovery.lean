/-
This file is the acceptance of one vacancy of a reviewed discovery: it opens an
application for a vacancy that has none, and adds a note to the application of
one that was observed before. It runs inside the transaction of the acceptance,
which already holds the write lock.
-/

import CareerOS.Applications.Service

namespace CareerOS

/-- `WorkGate`. -/
structure WorkGate where
  dimension : String
  status : String
  reason : String
  factIds : List String
  quoteReferences : List String
  unknowns : List String

def WorkGate.modelDump (gate : WorkGate) : Json := .obj [
  ("dimension", .str gate.dimension),
  ("status", .str gate.status),
  ("reason", .str gate.reason),
  ("fact_ids", .ofTexts gate.factIds),
  ("quote_references", .ofTexts gate.quoteReferences),
  ("unknowns", .ofTexts gate.unknowns)]

/-- `DimensionScore`. -/
structure DimensionScore where
  score : Nat
  explanation : String

def DimensionScore.modelDump (score : DimensionScore) : Json := .obj [
  ("score", .int score.score),
  ("explanation", .str score.explanation)]

/-- `WorkScores`. -/
structure WorkScores where
  role : DimensionScore
  requirements : DimensionScore
  language : DimensionScore
  location : DimensionScore
  contract : DimensionScore
  freshness : DimensionScore
  overallScore : Nat

def WorkScores.modelDump (scores : WorkScores) : Json := .obj [
  ("role", scores.role.modelDump),
  ("requirements", scores.requirements.modelDump),
  ("language", scores.language.modelDump),
  ("location", scores.location.modelDump),
  ("contract", scores.contract.modelDump),
  ("freshness", scores.freshness.modelDump),
  ("overall_score", .int scores.overallScore)]

/-- `DiscoveryVacancy`, with the bounds its schema puts on what an application keeps. -/
structure DiscoveryVacancy where
  title : String
  company : String
  location : Option String
  externalUrl : String
  sourceText : String
  observedAt : DateTime
  sourcePlatform : Option String
  gates : List WorkGate
  scores : WorkScores
  titleFits : 1 ≤ title.length ∧ title.length ≤ 240
  companyFits : 1 ≤ company.length ∧ company.length ≤ 240
  locationFits : ∀ text, location = some text → text.length ≤ 500
  sourceTextFits : 1 ≤ sourceText.length ∧ sourceText.length ≤ 20000

/-- The catalog row of a vacancy after the observation was stored. -/
structure CatalogRow where
  id : Nat
  externalUrl : String
  /-- The digest behind the stable identifier of a manual capture. -/
  identityDigest : String
  contentRevision : Nat
  digestLength : identityDigest.length = 24

/-- `stable_manual_platform_job_id`. -/
def CatalogRow.platformJobId (catalog : CatalogRow) : String := "manual-" ++ catalog.identityDigest

/-- One vacancy of an accepted proposal. -/
structure Discovery where
  requestId : String
  proposalId : String
  vacancy : DiscoveryVacancy
  jobId : Nat
  catalog : CatalogRow
  contentChanged : Bool

/-- `_snapshot`. -/
def discoverySnapshot (discovery : Discovery) : Dict String Json :=
  sanitizeApplicationSnapshot [
    ("schema_version", .int 2),
    ("title", .str discovery.vacancy.title),
    ("company", .str discovery.vacancy.company),
    ("description", .str discovery.vacancy.sourceText),
    ("location", .ofText discovery.vacancy.location),
    ("external_url", .str discovery.catalog.externalUrl),
    ("application_url", .null),
    ("application_email", .null),
    ("workload", .null),
    ("publication_date", .null),
    ("platform", .str "manual"),
    ("platform_job_id", .str discovery.catalog.platformJobId),
    ("match", .obj [])] none "external_agent_discovery"

/-- The payload of the event of a discovery. -/
def discoveryPayload [Pydantic] (discovery : Discovery) : Dict String Json := [
  ("agent_request_id", .str discovery.requestId),
  ("agent_proposal_id", .str discovery.proposalId),
  ("source", .str "external_agent"),
  ("source_platform", .ofText discovery.vacancy.sourcePlatform),
  ("observed_at", .str (Pydantic.isoformat discovery.vacancy.observedAt)),
  ("content_revision", .int discovery.catalog.contentRevision),
  ("content_changed", .bool discovery.contentChanged),
  ("gates", .arr (discovery.vacancy.gates.map WorkGate.modelDump)),
  ("scores", discovery.vacancy.scores.modelDump)]

/-- `_record_application` for a vacancy without an application. -/
def discoverApplication [Pydantic] (discovery : Discovery) (now : DateTime) : Application where
  jobId := some discovery.jobId
  scrapedJobId := some discovery.catalog.id
  resumeVersionId := none
  revision := 1
  currentStage := .saved
  jobSnapshot := discoverySnapshot discovery
  jobTitle := Text.slice discovery.vacancy.title 240
  jobCompany := Text.slice discovery.vacancy.company 240
  jobLocation :=
    match discovery.vacancy.location with
    | some location => if location = "" then none else some (Text.slice location 500)
    | none => none
  latestEventAt := now
  nextAction := projection none
  events := [{
    eventType := .stage
    stage := some .saved
    occurredAt := now
    note := some "Created from reviewed external-agent discovery"
    payload := discoveryPayload discovery ++ [("initial", .bool true)]
    createdAt := now }]

/-- `_record_application` for a vacancy with an application. -/
def observeAgain [Pydantic] (discovery : Discovery) (now : DateTime) (application : Application) :
    Application :=
  { application with
    revision := application.revision + 1
    latestEventAt := now }.append {
      eventType := .note
      stage := none
      occurredAt := now
      note := some "Vacancy observed again in a reviewed external-agent discovery"
      payload := discoveryPayload discovery
      createdAt := now }

/-- `_record_application`. -/
def recordApplication [Pydantic] (discovery : Discovery) (now : DateTime)
    (application : Option Application) : Application :=
  match application with
  | none => discoverApplication discovery now
  | some application => observeAgain discovery now application

end CareerOS
