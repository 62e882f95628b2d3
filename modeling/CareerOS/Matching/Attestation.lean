/-
This file is how an analysis becomes a stored result. A run derives it from the
scores the model proposed and from the receipt of the execution; storing it
checks it against the receipt and against the evidence documents of the catalog
row; a response reads it back under the schema of jobs.
-/

import CareerOS.Library.Pydantic
import CareerOS.Matching.AnalysisEvidence
import CareerOS.Matching.Policy

namespace CareerOS

/-! ### An analysis -/

/-- `analysis_structured` of a local match. -/
structure AnalysisStructured (Digest : Type) where
  recommendation : MatchRecommendation
  evidenceCitations : List (Citation Digest)
  deriving DecidableEq

/-- One result of `analyze_job_batch`. -/
structure MatchAnalysis (Digest : Type) where
  affinityScore : Int
  affinityAnalysis : String
  worthApplying : Bool
  scores : Dimension → Int
  structured : AnalysisStructured Digest
  redFlags : Option (List String)
  provenance : String
  modelId : String
  contractVersion : String
  executionId : Option String
  outputFingerprint : Option Digest
  rowIndex : Nat
  rowFingerprint : Option Digest
  inputFingerprint : Option Digest

/-- `_local_ai_execution`, the receipt that a validated model call returns. -/
structure LocalExecution (Digest : Type) where
  modelId : String
  contractVersion : String
  executionId : Option String
  outputFingerprint : Option Digest
  rowFingerprints : List Digest
  rowInputFingerprints : List Digest

/-- A row of scores as the model returned it: what `int()` makes of each field that is there and
can be read. -/
abbrev ScoreRow : Type := Dimension → Option Int

/-- `_coerce_sub_score(value) or 0`. -/
def coerceSubScore (value : Option Int) : Int :=
  match value with
  | some score => max 0 (min 100 score)
  | none => 0

section

variable [TextTables] [CaseTables] [MatchWeights] {Digest : Type}

/-- One row of `analyze_job_batch`. -/
def analyzeRow (candidate job : EvidenceDocument Digest) (rowIndex : Nat) (item : ScoreRow)
    (execution : LocalExecution Digest) : MatchAnalysis Digest :=
  let scores := fun dimension => coerceSubScore (item dimension)
  let citations := materializeMatchCitations candidate job scores
  let (score, recommendation, worthApplying) := deriveMatchOutcome scores citations
  let (summary, flags) := deriveMatchPresentation recommendation citations
  { affinityScore := score
    affinityAnalysis := summary
    worthApplying
    scores
    structured := ⟨recommendation, citations⟩
    redFlags := flags
    provenance := "local_model_validated"
    modelId := Text.strip execution.modelId
    contractVersion := Text.strip execution.contractVersion
    executionId := execution.executionId
    outputFingerprint := execution.outputFingerprint
    rowIndex
    rowFingerprint := execution.rowFingerprints[rowIndex]?
    inputFingerprint := execution.rowInputFingerprints[rowIndex]? }

/-- `analyze_job_batch`, after the model call. -/
def analyzeJobBatch [ClauseGrammar] [Fingerprints Digest] (jobsMetadata : List JobFields)
    (profile : CandidateProfileFields) (results : List ScoreRow)
    (execution : LocalExecution Digest) : Except String (List (MatchAnalysis Digest)) := do
  refuseWhen (3 < jobsMetadata.length)
    "Local match analysis accepts at most three jobs per atomic batch"
  refuseWhen (Text.blank execution.modelId ∨ Text.strip execution.contractVersion ≠ "1.1.0")
    "Validated match output has invalid local execution provenance"
  refuseWhen (results.length ≠ jobsMetadata.length)
    "Validated match output row count changed before persistence"
  let candidate := candidateEvidenceDocument profile
  return (jobsMetadata.zip results).mapIdx fun rowIndex (job, item) =>
    analyzeRow candidate (jobEvidenceDocument job rowIndex) rowIndex item execution

/-! ### Storing it -/

/-- `AIExecution`, as far as an attestation reads it. -/
structure AIExecution (Digest : Type) where
  id : String
  userId : Option Nat
  task : String
  contractVersion : String
  modelId : String
  outputFingerprint : Option Digest
  rowFingerprints : List Digest
  rowInputFingerprints : List Digest
  accepted : Bool

variable [DecidableEq Digest] [Fingerprints Digest]

/-- `validate_persisted_match_payload`. -/
def validatePersistedMatchPayload (analysis : MatchAnalysis Digest) : Except String Unit := do
  refuseWhen (∃ dimension ∈ Dimension.all, ¬(0 ≤ analysis.scores dimension ∧
    analysis.scores dimension ≤ 100)) "a score is outside the contract range"
  refuseWhen (analysis.rowFingerprint ≠ some (Fingerprints.scores analysis.scores))
    "analysis row fingerprint does not match its contract payload"
  refuseWhen (deriveMatchOutcome analysis.scores analysis.structured.evidenceCitations ≠
      (analysis.affinityScore, analysis.structured.recommendation, analysis.worthApplying))
    "visible match outcome is inconsistent with cited dimensions"
  let (summary, flags) := deriveMatchPresentation analysis.structured.recommendation
    analysis.structured.evidenceCitations
  refuseWhen (analysis.affinityAnalysis ≠ summary)
    "visible match summary is not deterministically derived"
  refuseWhen (analysis.redFlags ≠ flags) "visible match flags are not deterministically derived"

/-- `match_quote_bindings`. -/
def matchQuoteBindings (candidate job : EvidenceDocument Digest) : Dict String (Quote Digest) :=
  candidate.quotes ++ job.quotes

/-- The check of one side of a citation against the current quotes. -/
def quoteBinding (bindings : Dict String (Quote Digest)) (dimension : Dimension)
    (quoteId : String) (hash : Option Digest) (text : String) : Except String (Quote Digest) :=
  match Dict.lookup quoteId bindings with
  | some quote =>
    if quote.dimension = dimension ∧ some quote.textHash = hash ∧ quote.text = text then .ok quote
    else .error "analysis citation does not match its current atomic evidence"
  | none => .error "analysis citation does not match its current atomic evidence"

/-- The check of one citation of an analysis. -/
def validateCitation (bindings : Dict String (Quote Digest)) (scores : Dimension → Int)
    (citation : Citation Digest) : Except String PUnit := do
  let job ← quoteBinding bindings citation.type citation.jobQuoteId citation.jobQuoteHash
    citation.jobEvidence
  let candidate ← quoteBinding bindings citation.type citation.candidateQuoteId
    citation.candidateQuoteHash citation.candidateEvidence
  refuseWhen (citation.assessment ≠ deriveCitationAssessment citation.type (scores citation.type)
      job.content candidate.content)
    "analysis citation assessment is not deterministically materialized"

/-- `validate_match_attestation`. -/
def validateMatchAttestation (analysis : MatchAnalysis Digest)
    (execution : Option (AIExecution Digest)) (expectedUserId : Nat)
    (expectedInputFingerprint : Digest) (bindings : Dict String (Quote Digest))
    (expectedCitations : List (Citation Digest)) : Except String Unit := do
  validatePersistedMatchPayload analysis
  refuseWhen (analysis.provenance ≠ "local_model_validated")
    "analysis provenance is not model-validated"
  refuseWhen (Text.blank analysis.modelId) "analysis model identity is missing"
  refuseWhen (analysis.contractVersion ≠ "1.1.0") "analysis contract version is unsupported"
  match execution, analysis.executionId with
  | none, _ => throw "analysis execution receipt is missing"
  | _, none => throw "analysis execution identity is invalid"
  | some execution, some executionId =>
    refuseWhen (canonicalUuid executionId = false) "analysis execution identity is invalid"
    refuseWhen (execution.id ≠ executionId) "analysis references a different execution"
    refuseWhen (execution.accepted = false ∨ execution.task ≠ "job_match")
      "analysis execution was not an accepted job match"
    refuseWhen (execution.modelId ≠ analysis.modelId ∨ execution.contractVersion ≠ "1.1.0")
      "analysis model receipt does not match its metadata"
    refuseWhen (execution.userId ≠ some expectedUserId)
      "analysis execution belongs to a different user"
    refuseWhen (analysis.outputFingerprint = none ∨
        execution.outputFingerprint ≠ analysis.outputFingerprint)
      "analysis batch fingerprint does not match its execution"
    refuseWhen (execution.rowFingerprints[analysis.rowIndex]? ≠ analysis.rowFingerprint)
      "analysis row is not present in its execution receipt"
    refuseWhen (analysis.inputFingerprint ≠ some expectedInputFingerprint ∨
        execution.rowInputFingerprints[analysis.rowIndex]? ≠ analysis.inputFingerprint)
      "analysis input does not match its current job evidence"
    refuseWhen (analysis.structured.evidenceCitations ≠ expectedCitations)
      "analysis citations are not server-materialized"
    forM analysis.structured.evidenceCitations (validateCitation bindings analysis.scores)

/-- The columns of a job that an analysis writes. -/
structure StoredAnalysis (Digest : Type) where
  affinityScore : Int
  affinityAnalysis : String
  worthApplying : Bool
  scores : Dimension → Int
  analysisStructured : AnalysisStructured Digest
  redFlags : Option (List String)
  analysisProvenance : String
  analysisModelId : String
  analysisContractVersion : String
  analysisExecutionId : Option String
  analysisOutputFingerprint : Option Digest
  analysisExecutionRowIndex : Nat
  analysisRowFingerprint : Option Digest
  analysisInputFingerprint : Option Digest

/-- The columns that `save_single_job` writes. -/
def MatchAnalysis.columns (analysis : MatchAnalysis Digest) : StoredAnalysis Digest where
  affinityScore := analysis.affinityScore
  affinityAnalysis := analysis.affinityAnalysis
  worthApplying := analysis.worthApplying
  scores := analysis.scores
  analysisStructured := analysis.structured
  redFlags := analysis.redFlags
  analysisProvenance := analysis.provenance
  analysisModelId := Text.slice (Text.strip analysis.modelId) 240
  analysisContractVersion := analysis.contractVersion
  analysisExecutionId := analysis.executionId
  analysisOutputFingerprint := analysis.outputFingerprint
  analysisExecutionRowIndex := analysis.rowIndex
  analysisRowFingerprint := analysis.rowFingerprint
  analysisInputFingerprint := analysis.inputFingerprint

/-- `save_single_job` of a captured listing, with the catalog before and after the work that it
awaits: the stored columns, or nothing when the row was replaced. -/
def saveSingleJob [ClauseGrammar] (catalog current : Catalog) (captured : CapturedRecord)
    (profile : CandidateProfileFields) (userId : Nat) (executions : List (AIExecution Digest))
    (analysis : MatchAnalysis Digest) : Except String (Option (StoredAnalysis Digest)) :=
  match loadCapturedCatalogRecord catalog captured with
  | none => .ok none
  | some row => do
    let executionId := Text.strip (analysis.executionId.getD "")
    let execution := executions.find? fun execution =>
      executionId ≠ "" ∧ execution.id = executionId
    let candidate : EvidenceDocument Digest := candidateEvidenceDocument profile
    let job := jobEvidenceDocument row.jobFields analysis.rowIndex
    validateMatchAttestation analysis execution userId (matchInputFingerprint candidate job)
      (matchQuoteBindings candidate job)
      (materializeMatchCitations candidate job analysis.scores)
    match loadCapturedCatalogRecord current captured with
    | none => return none
    | some _ => return some analysis.columns

end

end CareerOS
