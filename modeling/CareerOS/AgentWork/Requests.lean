/-
This file is the life of one request for agent work without its acceptance: the
rows it is made of, the guards its operations share, the submission of a
proposal by the agent, and the cancellation, rejection and lazy expiry of the
request. An operation reads before it writes. What it reads before its first
write is whatever was committed at those moments; its first write is a
conditional update, which takes the writer's reservation, so that everything
after it sees its own transaction.

What the operations compute from texts, evidence and templates is given from
outside: whether a result is grounded, what the digest of a payload is, which
inputs a context holds.
-/

import CareerOS.AgentWork.Discovery
import CareerOS.Applications.DossierSchemas
import CareerOS.Library.Transaction

namespace CareerOS

/-! ### Errors -/

/-- `AgentWorkErrorCode`. -/
inductive AgentWorkErrorCode
  | grantRequired
  | grantExpired
  | grantRevoked
  | scopeDenied
  | workNotFound
  | workExpired
  | workCanceled
  | staleInput
  | invalidResult
  | evidenceInvalid
  | resultConflict
  | revisionConflict
  | vaultUnavailable
  | desktopUnavailable
  deriving DecidableEq

/-- `AgentWorkError`. -/
structure AgentWorkError where
  code : AgentWorkErrorCode
  message : String
  deriving DecidableEq

/-- What an operation raises. -/
inductive WorkFailure
  | work (error : AgentWorkError)
  /-- A `ValidationError` of pydantic. -/
  | validation
  /-- An `IntegrityError` of the database. -/
  | integrity
  /-- An `OperationalError` of the database. -/
  | operational
  /-- Any other exception. -/
  | other
  deriving DecidableEq

def WorkFailure.of (code : AgentWorkErrorCode) (message : String) : WorkFailure :=
  .work ⟨code, message⟩

/-! ### Payloads -/

/-- `WorkKind`. -/
inductive WorkKind
  | discover
  | analyze
  | materials
  deriving DecidableEq

/-- `AnalysisClaim`. -/
structure AnalysisClaim where
  claimText : String
  factIds : List String
  quoteText : Option String

def AnalysisClaim.modelDump (claim : AnalysisClaim) : Json := .obj [
  ("claim_text", .str claim.claimText),
  ("fact_ids", .ofTexts claim.factIds),
  ("quote_text", .ofText claim.quoteText)]

/-- `RecommendationKind`. -/
inductive Recommendation
  | strongFit
  | consider
  | weakFit
  | insufficientEvidence
  deriving DecidableEq

def Recommendation.name : Recommendation → String
  | .strongFit => "strong_fit"
  | .consider => "consider"
  | .weakFit => "weak_fit"
  | .insufficientEvidence => "insufficient_evidence"

/-- `AnalysisProposalPayload`. -/
structure AnalysisProposal where
  gates : List WorkGate
  scores : WorkScores
  claims : List AnalysisClaim
  recommendation : Recommendation

/-- `CitedMaterialText`. -/
structure CitedMaterialText where
  id : String
  text : String
  factIds : List String

def CitedMaterialText.modelDump (cited : CitedMaterialText) : Json := .obj [
  ("id", .str cited.id),
  ("text", .str cited.text),
  ("fact_ids", .ofTexts cited.factIds)]

/-- `MaterialAnswer`. -/
structure MaterialAnswer extends CitedMaterialText where
  question : String

def MaterialAnswer.modelDump (answer : MaterialAnswer) : Json := .obj [
  ("id", .str answer.id),
  ("text", .str answer.text),
  ("fact_ids", .ofTexts answer.factIds),
  ("question", .str answer.question)]

/-- `MaterialRequirement`. -/
structure MaterialRequirement where
  requirement : String
  quoteText : String
  factIds : List String

def MaterialRequirement.modelDump (row : MaterialRequirement) : Json := .obj [
  ("requirement", .str row.requirement),
  ("quote_text", .str row.quoteText),
  ("fact_ids", .ofTexts row.factIds)]

/-- `MaterialEmail`. -/
structure MaterialEmail where
  mode : String
  subject : String
  body : List CitedMaterialText
  attachmentNames : List String

def MaterialEmail.modelDump (email : MaterialEmail) : Json := .obj [
  ("mode", .str email.mode),
  ("subject", .str email.subject),
  ("body", .arr (email.body.map CitedMaterialText.modelDump)),
  ("attachment_names", .ofTexts email.attachmentNames)]

/-- `MaterialsProposalPayload`. -/
structure MaterialsProposal where
  presetId : String
  presetVersion : Nat
  locale : String
  cvSelectedFactIds : List String
  cvCitedOverrides : List CitedMaterialText
  coverLetter : List CitedMaterialText
  email : MaterialEmail
  questionsAnswers : List MaterialAnswer
  requirementsToEvidence : List MaterialRequirement
  reviewNotes : Option String

/-- `ProposalPayload`. -/
inductive ProposalPayload
  | discover (listings : List DiscoveryVacancy)
  | analyze (analysis : AnalysisProposal)
  | materials (materials : MaterialsProposal)

section

variable [Pydantic]

def DiscoveryVacancy.modelDump (vacancy : DiscoveryVacancy) : Json := .obj [
  ("title", .str vacancy.title),
  ("company", .str vacancy.company),
  ("location", .ofText vacancy.location),
  ("external_url", .str vacancy.externalUrl),
  ("source_text", .str vacancy.sourceText),
  ("observed_at", .str (Pydantic.dumpDateTime vacancy.observedAt)),
  ("source_platform", .ofText vacancy.sourcePlatform),
  ("gates", .arr (vacancy.gates.map WorkGate.modelDump)),
  ("scores", vacancy.scores.modelDump)]

/-- `payload.model_dump(mode="json")`. -/
def ProposalPayload.modelDump : ProposalPayload → Json
  | .discover listings => .obj [
    ("contract_version", .int 1),
    ("kind", .str "discover"),
    ("listings", .arr (listings.map DiscoveryVacancy.modelDump))]
  | .analyze analysis => .obj [
    ("contract_version", .int 1),
    ("kind", .str "analyze"),
    ("gates", .arr (analysis.gates.map WorkGate.modelDump)),
    ("scores", analysis.scores.modelDump),
    ("claims", .arr (analysis.claims.map AnalysisClaim.modelDump)),
    ("recommendation", .str analysis.recommendation.name)]
  | .materials material => .obj [
    ("contract_version", .int 1),
    ("kind", .str "materials"),
    ("preset_id", .str material.presetId),
    ("preset_version", .int material.presetVersion),
    ("locale", .str material.locale),
    ("cv_selected_fact_ids", .ofTexts material.cvSelectedFactIds),
    ("cv_cited_overrides", .arr (material.cvCitedOverrides.map CitedMaterialText.modelDump)),
    ("cover_letter", .arr (material.coverLetter.map CitedMaterialText.modelDump)),
    ("email", material.email.modelDump),
    ("questions_answers", .arr (material.questionsAnswers.map MaterialAnswer.modelDump)),
    ("requirements_to_evidence",
      .arr (material.requirementsToEvidence.map MaterialRequirement.modelDump)),
    ("review_notes", .ofText material.reviewNotes)]

end

/-! ### Rows -/

/-- `WorkState`. -/
inductive WorkState
  | queued
  | returned
  | accepted
  | rejected
  | canceled
  | expired
  deriving DecidableEq

/-- A state no request leaves. -/
def WorkState.isClosed : WorkState → Bool
  | .queued | .returned => false
  | .accepted | .rejected | .canceled | .expired => true

/-- One value for each target an agent's input can come from. -/
structure TargetRevisions (Value : Type) where
  profile : Value
  job : Value
  application : Value
  resume : Value
  dossier : Value
  deriving DecidableEq

def TargetRevisions.map {Value Other : Type} (convert : Value → Other)
    (targets : TargetRevisions Value) : TargetRevisions Other where
  profile := convert targets.profile
  job := convert targets.job
  application := convert targets.application
  resume := convert targets.resume
  dossier := convert targets.dossier

/-- The revisions of the inputs, none for a target the request does not have. -/
abbrev InputRevisions := TargetRevisions (Option Nat)

/-- What the acceptance of materials leaves in a receipt. -/
structure MaterialReceipt where
  resumeDraftId : String
  resumeRevision : Nat
  dossierRevision : Nat
  applicationId : String
  deriving DecidableEq

/-- The receipt of an acceptance. -/
structure AcceptanceReceipt where
  requestId : String
  proposalId : String
  workKind : WorkKind
  acceptedAt : DateTime
  targetJobId : Option Nat
  createdJobIds : List Nat
  createdApplicationIds : List String
  acceptedInputDigest : String
  acceptedInputRevisions : InputRevisions
  material : Option MaterialReceipt
  deriving DecidableEq

/-- `AgentWorkRequest`. -/
structure AgentWorkRequest where
  id : String
  userId : Nat
  boundGrantId : Option String
  workKind : WorkKind
  state : WorkState
  revision : Nat
  instruction : String
  targetJobId : Option Nat
  targetApplicationId : Option String
  targetResumeId : Option String
  presetId : Option String
  presetVersion : Option Nat
  locale : Option String
  selectedFactIds : Option (List String)
  contextSnapshot : Json
  inputDigest : String
  inputRevisions : InputRevisions
  expiresAt : DateTime
  updatedAt : DateTime
  acceptedReceipt : Option AcceptanceReceipt
  deriving DecidableEq

/-- `AgentProposal`. -/
structure AgentProposal where
  id : String
  requestId : String
  userId : Nat
  submittingGrantId : String
  idempotencyKey : String
  payloadDigest : String
  contractVersion : Nat
  clientLabel : String
  modelLabel : Option String
  payload : Json
  reviewRequired : Bool
  createdAt : DateTime
  deriving DecidableEq

/-- `AutomationGrant`. -/
structure AutomationGrant where
  id : String
  userId : Nat
  scopes : List String
  expiresAt : DateTime
  revokedAt : Option DateTime

/-- `CandidateProfile`, with the evidence and the preferences it holds. -/
structure CandidateProfile where
  id : String
  revision : Nat
  evidence : Json
  deriving DecidableEq

/-- `ScrapedJob` of a manual capture. -/
structure CatalogEntry extends CatalogRow where
  title : String
  company : String
  description : Option String
  location : Option String
  workload : Option String
  contentFingerprint : Option String
  firstSeenAt : DateTime
  lastSeenAt : DateTime
  lastChangedAt : DateTime
  normalizationStatus : Option String

/-- The columns of an analysis. -/
structure JobAnalysis where
  affinityScore : Option Nat
  affinityAnalysis : Option String
  worthApplying : Option Bool
  skillMatchScore : Option Nat
  experienceMatchScore : Option Nat
  languageMatchScore : Option Nat
  locationMatchScore : Option Nat
  analysisStructured : Option Json
  analysisProvenance : Option String
  analysisModelId : Option String
  analysisContractVersion : Option String
  analysisValidatedAt : Option DateTime

/-- `Job`. -/
structure JobRow where
  id : Nat
  scrapedJobId : Option Nat
  searchProfileId : Option Nat
  analysis : JobAnalysis

/-- `ResumeDraft`, with its title, template, facts and canvas as one document. -/
structure ResumeDraftRow where
  id : String
  profileId : String
  revision : Nat
  profileRevision : Nat
  document : Json
  generationContext : Json
  deriving DecidableEq

/-- The rows of the owner an acceptance reads and writes, each table in the order of its keys. -/
structure OwnedRows where
  profile : Option CandidateProfile
  catalog : List CatalogEntry
  jobs : List JobRow
  applications : List (String × Application)
  resumes : List ResumeDraftRow
  dossiers : List (String × ApplicationDossierDraft)

/-- One request with its proposals, and the rest of the vault as its operations see it. -/
structure WorkVault where
  /-- The users whose vault is in the state `VAULT_STATE_READY`. -/
  readyUsers : List Nat
  grants : List AutomationGrant
  request : AgentWorkRequest
  proposals : List AgentProposal
  rows : OwnedRows

/-- What is computed from texts, evidence and templates. -/
class AgentContent where
  /-- `TypeAdapter(ProposalPayload).validate_python`. -/
  validatePayload : Json → Option ProposalPayload
  /-- `compute_payload_digest`. -/
  payloadDigest : Json → String
  /-- `validate_proposal_payload`. -/
  validateProposal : AgentWorkRequest → ProposalPayload → Except AgentWorkError Unit
  /-- The digest of the context `build_context_snapshot` builds, or its refusal. -/
  contextDigest : AgentWorkRequest → OwnedRows → InputRevisions → Except AgentWorkError String
  /-- The digest of the identity of a manual capture, from its normal URL if it has one. -/
  manualIdentity : (userId : Nat) → (url : Option String) → (title company : String) →
    {digest : String // digest.length = 24}
  /-- `build_scraped_job_content_fingerprint`. -/
  contentFingerprint : (title company location workload description : String) → String
  /-- The document of a draft with accepted materials, or the exception that refuses it. -/
  materialDocument : CandidateProfile → ResumeDraftRow → MaterialsProposal → Except WorkFailure Json
  /-- The dossier content of accepted materials, or the exception that refuses it. -/
  materialDossier : MaterialsProposal → (provenance : GenerationProvenance) →
    Except WorkFailure ApplicationDossierDraftContent

/-- A program on the vault of one request. -/
abbrev Work := Transaction WorkVault WorkFailure

namespace Work

open Transaction

def fail {Value : Type} (code : AgentWorkErrorCode) (message : String) : Work Value :=
  refuse (.of code message)

/-- A query. Before its first write an operation sees what is committed by then; after it, what
it has written itself. -/
def select {Value : Type} (seen : Option WorkVault) (query : WorkVault → Value) : Work Value :=
  read .operational fun working => query (seen.getD working)

/-- A conditional update of the request: how many rows it changed. -/
def updateRequest (accepts : AgentWorkRequest → Bool)
    (change : AgentWorkRequest → AgentWorkRequest) : Work Nat :=
  statement .operational fun working =>
    if accepts working.request then .ok (1, { working with request := change working.request })
    else .ok (0, working)

/-- A new proposal; a request has at most one. -/
def insertProposal (proposal : AgentProposal) : Work Unit :=
  statement .operational fun working =>
    if working.proposals.any fun other => other.requestId = proposal.requestId then
      .error .integrity
    else .ok ((), { working with proposals := working.proposals ++ [proposal] })

/-- `db.commit()`. -/
def commit : Work Unit := Transaction.commit .operational

end Work

/-! ### Guards -/

open Transaction Work

/-- `require_ready`. -/
def requireReady (seen : Option WorkVault) (userId : Nat) : Work Unit := do
  let ready ← select seen fun vault => vault.readyUsers.contains userId
  refuseIf (¬ready) (.of .vaultUnavailable "Career Vault maintenance is pending")

/-- `require_grant`. -/
def requireGrant (seen : Option WorkVault) (grantId : Option String) (scope : Option String)
    (userId : Option Nat) (now : DateTime) : Work AutomationGrant := do
  let found ← select seen fun vault => vault.grants.find? fun grant => some grant.id = grantId
  match found with
  | none => fail .grantRequired "A live bound grant is required"
  | some grant => do
    refuseIf (∃ owner ∈ userId, grant.userId ≠ owner)
      (.of .grantRequired "A live bound grant is required")
    refuseIf (grant.revokedAt ≠ none) (.of .grantRevoked "The grant has been revoked")
    refuseIf (grant.expiresAt ≤ now) (.of .grantExpired "The grant has expired")
    refuseIf (∃ needed ∈ scope, ¬grant.scopes.contains needed)
      (.of .scopeDenied "The grant does not permit this operation")
    requireReady seen grant.userId
    return grant

/-- `require_work_live`. -/
def requireWorkLive (request : AgentWorkRequest) (now : DateTime) : Work Unit := do
  refuseIf (request.expiresAt ≤ now ∨ request.state = .expired)
    (.of .workExpired "The work request has expired")
  refuseIf (request.state = .canceled) (.of .workCanceled "The work request was canceled")

/-- The revisions of the inputs of a request. -/
def currentRevisions (rows : OwnedRows) (request : AgentWorkRequest) :
    Except AgentWorkError InputRevisions := do
  let unavailable : AgentWorkError := ⟨.workNotFound, "Target is unavailable"⟩
  let job ←
    match request.targetJobId with
    | none => pure none
    | some jobId =>
      match rows.jobs.find? fun job => job.id = jobId with
      | none => throw unavailable
      | some job =>
        match rows.catalog.find? fun entry => some entry.id = job.scrapedJobId with
        | none => throw unavailable
        | some entry => pure (some entry.contentRevision)
  let (application, dossier) ←
    match request.targetApplicationId with
    | none => pure (none, none)
    | some applicationId =>
      match rows.applications.lookup applicationId with
      | none => throw unavailable
      | some application => do
        if request.targetJobId ≠ none ∧ application.jobId ≠ request.targetJobId then
          throw ⟨.invalidResult, "Application and job targets differ"⟩
        pure (some application.revision,
          (rows.dossiers.lookup applicationId).map ApplicationDossierDraft.revision)
  let resume ←
    match request.targetResumeId with
    | none => pure none
    | some resumeId =>
      match rows.resumes.find? fun draft =>
        draft.id = resumeId ∧ draft.profileId = (rows.profile.map CandidateProfile.id).getD "" with
      | none => throw unavailable
      | some draft => pure (some draft.revision)
  return {
    profile := rows.profile.map CandidateProfile.revision
    job := job
    application := application
    resume := resume
    dossier := dossier }

section

variable [AgentContent]

/-- `current_input_state`: the digest of the inputs and their revisions. -/
def currentInputState (seen : Option WorkVault) (request : AgentWorkRequest) :
    Work (String × InputRevisions) := do
  let rows ← select seen WorkVault.rows
  let unavailable := WorkFailure.of .staleInput "The selected inputs are no longer available"
  let revisions ← ofExcept ((currentRevisions rows request).mapError fun _ => unavailable)
  let digest ← ofExcept
    ((AgentContent.contextDigest request rows revisions).mapError fun _ => unavailable)
  return (digest, revisions)

/-- `require_current_inputs`. -/
def requireCurrentInputs (request : AgentWorkRequest) : Work Unit := do
  let (digest, revisions) ← currentInputState none request
  refuseIf (revisions ≠ request.inputRevisions ∨ digest ≠ request.inputDigest)
    (.of .staleInput "The selected inputs changed; create a new work request")

end

/-! ### Guards only read -/

theorem readOnly_requireReady (seen : Option WorkVault) (userId : Nat) :
    ReadOnly (requireReady seen userId) :=
  (readOnly_read _ _).bind fun _ => readOnly_refuseIf _ _

theorem readOnly_requireGrant (seen : Option WorkVault) (grantId scope : Option String)
    (userId : Option Nat) (now : DateTime) :
    ReadOnly (requireGrant seen grantId scope userId now) := by
  refine (readOnly_read _ _).bind fun found => ?_
  cases found with
  | none => exact readOnly_ofExcept _
  | some grant =>
    exact (readOnly_refuseIf _ _).bind fun _ => (readOnly_refuseIf _ _).bind fun _ =>
      (readOnly_refuseIf _ _).bind fun _ => (readOnly_refuseIf _ _).bind fun _ =>
        (readOnly_requireReady _ _).bind fun _ => readOnly_pure _

theorem readOnly_requireWorkLive (request : AgentWorkRequest) (now : DateTime) :
    ReadOnly (requireWorkLive request now) :=
  (readOnly_refuseIf _ _).bind fun _ => readOnly_refuseIf _ _

section

variable [AgentContent]

theorem readOnly_currentInputState (seen : Option WorkVault) (request : AgentWorkRequest) :
    ReadOnly (currentInputState seen request) :=
  (readOnly_read _ _).bind fun _ => (readOnly_ofExcept _).bind fun _ =>
    (readOnly_ofExcept _).bind fun _ => readOnly_pure _

theorem readOnly_requireCurrentInputs (request : AgentWorkRequest) :
    ReadOnly (requireCurrentInputs request) :=
  (readOnly_currentInputState _ _).bind fun _ => readOnly_refuseIf _ _

end

/-- A conditional update changes the request when its row is accepted, and nothing otherwise. -/
theorem updateRequest_ok {accepts : AgentWorkRequest → Bool}
    {change : AgentWorkRequest → AgentWorkRequest} {failing : Nat → Bool}
    {store next : Store WorkVault} {changed : Nat}
    (ran : updateRequest accepts change failing store = (.ok changed, next)) :
    next.committed = store.committed ∧
      ((accepts store.working.request = true ∧ changed = 1 ∧
          next.working = { store.working with request := change store.working.request }) ∨
        (accepts store.working.request = false ∧ changed = 0 ∧ next.working = store.working)) := by
  obtain ⟨-, working, updated, rfl⟩ := statement_ok_iff.mp ran
  refine ⟨rfl, ?_⟩
  split at updated
  · rename_i accepted
    cases updated
    exact Or.inl ⟨accepted, rfl, rfl⟩
  · rename_i passed
    cases updated
    exact Or.inr ⟨Bool.eq_false_iff.mpr passed, rfl, rfl⟩

/-! ### The owner's side -/

/-- The request an operation names. -/
def WorkVault.findRequest (vault : WorkVault) (requestId : String) (userId : Nat) :
    Option AgentWorkRequest :=
  if vault.request.id = requestId ∧ vault.request.userId = userId then some vault.request else none

/-- `_expire_stale_work`. -/
def expireStaleWork (userId : Nat) (now : DateTime) : Work Nat :=
  updateRequest (fun row => row.userId = userId ∧ row.expiresAt ≤ now ∧
      (row.state = .queued ∨ row.state = .returned))
    fun row => { row with state := .expired, updatedAt := now, revision := row.revision + 1 }

/-- `list_work_requests`, as far as this request is concerned. -/
def listWorkRequests (seen : WorkVault) (userId : Nat) (state : Option WorkState)
    (grantId : Option String) (now : DateTime) : Work (List AgentWorkRequest) := do
  requireReady (some seen) userId
  let _ ← expireStaleWork userId now
  commit
  select none fun vault => [vault.request].filter fun row =>
    row.userId = userId ∧ (state = none ∨ state = some row.state) ∧
      (grantId = none ∨ grantId = row.boundGrantId)

/-- `get_work_request`. -/
def getWorkRequest (seen : WorkVault) (userId : Nat) (requestId : String) (now : DateTime) :
    Work (AgentWorkRequest × Option AgentProposal) := do
  requireReady (some seen) userId
  let _ ← expireStaleWork userId now
  commit
  let found ← select none fun vault => vault.findRequest requestId userId
  match found with
  | none => fail .workNotFound "Work request was not found"
  | some request => do
    let proposal ← select none fun vault =>
      vault.proposals.find? fun proposal => proposal.requestId = requestId
    return (request, proposal)

/-- The two ways an owner closes a request without accepting it. -/
inductive Closing
  | canceled
  | rejected

def Closing.state : Closing → WorkState
  | .canceled => .canceled
  | .rejected => .rejected

/-- The states a request can be closed from. -/
def Closing.allows : Closing → WorkState → Bool
  | .canceled, state => state = .queued ∨ state = .returned
  | .rejected, state => state = .returned

/-- The conditional update of `_transition`. -/
def closeRequest (userId : Nat) (requestId : String) (expectedRevision : Nat) (closing : Closing)
    (now : DateTime) : Work Nat :=
  updateRequest (fun row => row.id = requestId ∧ row.userId = userId ∧
      row.revision = expectedRevision ∧ closing.allows row.state ∧ row.expiresAt > now)
    fun row => { row with state := closing.state, revision := row.revision + 1, updatedAt := now }

/-- `_transition`, which `cancel_work_request` and `reject_work_request` are. -/
def transition (seen : WorkVault) (userId : Nat) (requestId : String) (expectedRevision : Nat)
    (closing : Closing) (now : DateTime) : Work AgentWorkRequest := do
  requireReady (some seen) userId
  let found ← select (some seen) fun vault => vault.findRequest requestId userId
  match found with
  | none => fail .workNotFound "Work request was not found"
  | some request =>
    if request.expiresAt ≤ now then do
      let _ ← expireStaleWork userId now
      commit
      fail .workExpired "Work request has expired"
    else do
      refuseIf (request.state = .canceled) (.of .workCanceled "Work request was canceled")
      let changed ← closeRequest userId requestId expectedRevision closing now
      if changed ≠ 1 then do
        Transaction.rollback
        fail .revisionConflict "Work request changed; refresh before retrying"
      else do
        commit
        select none WorkVault.request

/-! ### The agent's side -/

/-- `ProposalSubmissionRequest`. -/
structure ProposalSubmission where
  requestId : String
  inputDigest : String
  idempotencyKey : String
  client : String
  model : Option String
  result : ProposalPayload

/-- `ProposalReceiptView`. -/
structure ProposalReceipt where
  proposalId : String
  requestId : String
  state : WorkState
  payloadDigest : String
  reviewRequired : Bool
  createdAt : DateTime

/-- `_receipt`. -/
def AgentProposal.receipt (proposal : AgentProposal) (state : WorkState) : ProposalReceipt where
  proposalId := proposal.id
  requestId := proposal.requestId
  state := state
  payloadDigest := proposal.payloadDigest
  reviewRequired := proposal.reviewRequired
  createdAt := proposal.createdAt

/-- `_request`. The clock is read for the grant and again for the request. -/
def liveRequest (seen : WorkVault) (grantId requestId : String) (scope : Option String)
    (clock : Nat → DateTime) : Work AgentWorkRequest := do
  let grant ← requireGrant (some seen) (some grantId) scope none (clock 0)
  let found ← select (some seen) fun vault =>
    (vault.findRequest requestId grant.userId).filter fun request =>
      request.boundGrantId = some grantId
  match found with
  | none => fail .workNotFound "Work request was not found"
  | some request => do
    requireWorkLive request (clock 1)
    return request

section

variable [AgentContent] [Pydantic]

/-- The proposal a submission stores. -/
def ProposalSubmission.proposal (submission : ProposalSubmission) (drawn grantId : String)
    (request : AgentWorkRequest) (now : DateTime) : AgentProposal where
  id := drawn
  requestId := request.id
  userId := request.userId
  submittingGrantId := grantId
  idempotencyKey := submission.idempotencyKey
  payloadDigest := AgentContent.payloadDigest submission.result.modelDump
  contractVersion := 1
  clientLabel := submission.client
  modelLabel := submission.model
  payload := submission.result.modelDump
  reviewRequired := true
  createdAt := now

/-- The conditional update of a submission. -/
def returnRequest (request : AgentWorkRequest) (grantId : String) (now : DateTime) : Work Nat :=
  updateRequest (fun row => row.id = request.id ∧ row.userId = request.userId ∧
      row.boundGrantId = some grantId ∧ row.state = .queued ∧ row.revision = request.revision ∧
      row.expiresAt > now)
    fun row => { row with state := .returned, revision := row.revision + 1, updatedAt := now }

/-- The writes of a submission. -/
def storeProposal (request : AgentWorkRequest) (grantId drawn : String)
    (submission : ProposalSubmission) (clock : Nat → DateTime) : Work ProposalReceipt := do
  let changed ← returnRequest request grantId (clock 2)
  refuseIf (changed ≠ 1) (.of .resultConflict "The request changed during submission")
  let _ ← requireGrant none (some grantId) (some "proposals:write") (some request.userId) (clock 3)
  requireCurrentInputs request
  let proposal := submission.proposal drawn grantId request (clock 2)
  insertProposal proposal
  commit
  -- `db.refresh(proposal)`
  select none fun _ => proposal.receipt .returned

/-- What a submission raises for what its writes raised. -/
def submissionFailure : WorkFailure → WorkFailure
  | .integrity | .operational =>
    .of .resultConflict "The request changed during submission; retry safely"
  | failure => failure

/-- `submit_proposal`. -/
def submitProposal (seen : WorkVault) (grantId requestId drawn : String)
    (submission : ProposalSubmission) (clock : Nat → DateTime) : Work ProposalReceipt :=
  if requestId ≠ submission.requestId then
    fail .invalidResult "Submission identity does not match its request"
  else rollingBack submissionFailure do
    let request ← liveRequest seen grantId requestId (some "proposals:write") clock
    refuseIf (submission.inputDigest ≠ request.inputDigest)
      (.of .staleInput "Input digest does not match the request")
    ofExcept ((AgentContent.validateProposal request submission.result).mapError .work)
    let existing ← select (some seen) fun vault =>
      vault.proposals.find? fun proposal => proposal.requestId = requestId
    match existing with
    | some proposal =>
      if proposal.idempotencyKey = submission.idempotencyKey ∧
          proposal.payloadDigest = AgentContent.payloadDigest submission.result.modelDump then
        return proposal.receipt request.state
      else fail .resultConflict "A different result already exists"
    | none => do
      refuseIf (request.state ≠ .queued)
        (.of .revisionConflict "The request no longer accepts proposals")
      storeProposal request grantId drawn submission clock

end

end CareerOS
