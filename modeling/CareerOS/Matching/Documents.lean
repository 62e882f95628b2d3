/-
This file assembles the two evidence documents of a match: the candidate's from
the search profile and its CV, the job's from a listing or from a catalog row.
The text that goes into the prompt is a shorter projection of the same fields
and is left out, since nothing after the model call reads it.
-/

import CareerOS.Matching.EvidenceCatalog

namespace CareerOS

/-- `EvidenceDocument`, without the prompt text. -/
structure EvidenceDocument (Digest : Type) where
  id : String
  kind : SourceKind
  sourceFingerprint : Digest
  catalogFingerprint : Digest
  catalogVersion : String
  coverageComplete : List (Dimension × Bool)
  quotes : Dict String (Quote Digest)
  requirementSummary : Json
  deriving DecidableEq

/-- What `candidate_evidence_document` reads of a profile. A value that is missing or null is
the empty text. -/
structure CandidateProfileFields where
  roleDescription : String
  searchStrategy : String
  cvContent : String
  locationFilter : String

/-- What `job_evidence_document` reads of a job. A value that is missing or null is the empty
text. -/
structure JobFields where
  title : String
  company : String
  location : String
  workload : String
  description : String
  deriving DecidableEq, Repr

section

variable [CaseTables] [ClauseGrammar]

/-! ### The candidate -/

/-- The location evidence of a candidate. -/
def candidateLocation (locationFilter cv : String) : String :=
  let preferred := if locationFilter = "" then "" else s!"Preferred Location: {locationFilter}."
  let parts := [preferred, matchingFragments cv .location].filter (· ≠ "")
  Text.orElse (joinLines parts) "No explicit location evidence in raw candidate profile."

/-- `summary_dimensions` of `candidate_evidence_document`. -/
def candidateDimensions (profile : CandidateProfileFields) : Dimension → String
  | .skill => skillEvidence (cleanHtmlTags profile.cvContent)
      "No explicit skill evidence in raw candidate profile."
  | .experience => Text.orElse (matchingFragments (cleanHtmlTags profile.cvContent) .experience)
      "No explicit experience evidence in raw candidate profile."
  | .intent =>
      let role := sanitizePromptText profile.roleDescription (some 1000)
      let strategy := sanitizePromptText profile.searchStrategy (some 1000)
      s!"Expected Role: {role}. Search Strategy: {strategy}"
  | .language => Text.orElse (matchingFragments (cleanHtmlTags profile.cvContent) .language)
      "No explicit language evidence in raw candidate profile."
  | .location => candidateLocation (sanitizePromptText profile.locationFilter (some 500))
      (cleanHtmlTags profile.cvContent)
  | .transferability => skillEvidence (cleanHtmlTags profile.cvContent)
      "No explicit transferability evidence in raw candidate profile."
  | .qualification =>
      Text.orElse (matchingFragments (cleanHtmlTags profile.cvContent) .qualification)
        "No explicit qualification evidence in raw candidate profile."

/-! ### The job -/

/-- The intent evidence of a job: its title. -/
def titleEvidence (title : String) : String :=
  let title := sanitizePromptText title (some 500)
  if title = "" then "No explicit intent evidence." else s!"Title: {title}."

/-- `summary_dimensions` of `job_evidence_document`, from the title, the location and the
description without tags. -/
def jobDimensions (title location description : String) : Dimension → String
  | .skill => skillEvidence description "No explicit skill requirement in raw job evidence."
  | .experience => Text.orElse (matchingFragments description .experience)
      "No explicit experience requirement in raw job evidence."
  | .intent => titleEvidence title
  | .language => Text.orElse (matchingFragments description .language)
      "No explicit language requirement in raw job evidence."
  | .location =>
      let location := sanitizePromptText location (some 500)
      s!"Location: {location}. {matchingFragments description .location}"
  | .transferability => skillEvidence description
      "No explicit transferability requirement in raw job evidence."
  | .qualification => Text.orElse (matchingFragments description .qualification)
      "No explicit qualification requirement in raw job evidence."

variable {Digest : Type} [Fingerprints Digest]

/-- `candidate_evidence_document`. -/
def candidateEvidenceDocument (profile : CandidateProfileFields) : EvidenceDocument Digest :=
  let quotes := atomicQuotes "candidate:profile" (candidateDimensions profile) .candidate
  let summary := ClauseGrammar.requirementSummary .candidate (cleanHtmlTags profile.cvContent)
  { id := "candidate:profile"
    kind := .candidate
    sourceFingerprint := Fingerprints.source [("cv_content", profile.cvContent),
      ("role_description", profile.roleDescription), ("search_strategy", profile.searchStrategy),
      ("location_filter", profile.locationFilter)]
    catalogFingerprint :=
      catalogFingerprint quotes summary coverageComplete matchEvidenceCatalogVersion
    catalogVersion := matchEvidenceCatalogVersion
    coverageComplete := coverageComplete
    quotes
    requirementSummary := summary }

/-- The object whose digest is the source fingerprint of a job. -/
def jobSource (job : JobFields) : Dict String String :=
  [("company", job.company), ("description", cleanHtmlTags job.description),
    ("location", job.location), ("title", cleanHtmlTags job.title), ("workload", job.workload)]

/-- The quotes of a job. -/
def jobQuotes (job : JobFields) (rowIndex : Int) : Dict String (Quote Digest) :=
  atomicQuotes s!"job:{rowIndex}"
    (jobDimensions job.title job.location (cleanHtmlTags job.description)) .job

/-- `job_evidence_document`. -/
def jobEvidenceDocument (job : JobFields) (rowIndex : Int) : EvidenceDocument Digest :=
  let quotes := jobQuotes job rowIndex
  let summary := ClauseGrammar.requirementSummary .job (cleanHtmlTags job.description)
  { id := s!"job:{rowIndex}"
    kind := .job
    sourceFingerprint := Fingerprints.source (jobSource job)
    catalogFingerprint :=
      catalogFingerprint quotes summary coverageComplete matchEvidenceCatalogVersion
    catalogVersion := matchEvidenceCatalogVersion
    coverageComplete := coverageComplete
    quotes
    requirementSummary := summary }

/-- One side of a match input. -/
def EvidenceDocument.matchInput (document : EvidenceDocument Digest) : MatchInput Digest where
  catalogFingerprint := document.catalogFingerprint
  catalogVersion := document.catalogVersion
  id := document.id
  sourceFingerprint := document.sourceFingerprint

/-- `match_input_fingerprint`. -/
def matchInputFingerprint (candidate job : EvidenceDocument Digest) : Digest :=
  Fingerprints.matchInput candidate.matchInput job.matchInput

end

end CareerOS
