/-
This file is the acceptance of a proposal by the owner. It reserves the request
with a conditional update, checks again everything the review relied on, and
hands the payload to the handler of its kind. A handler writes to the catalog,
the jobs, the applications, the resumes or the dossiers, one statement after the
other, and never commits. The acceptance writes its receipt and commits last, so
that an acceptance that fails anywhere, also inside a handler, leaves nothing
behind.
-/

import CareerOS.AgentWork.Requests

namespace CareerOS

open Transaction

/-- A handler works on the rows of the owner, inside the transaction of its caller. -/
abbrev Handler := Transaction OwnedRows WorkFailure

namespace Handler

def fail {Value : Type} (code : AgentWorkErrorCode) (message : String) : Handler Value :=
  refuse (.of code message)

def query {Value : Type} (look : OwnedRows → Value) : Handler Value := read .operational look

def execute (change : OwnedRows → OwnedRows) : Handler Unit := write .operational change

/-- A row the query must find. -/
def require {Value : Type} (look : OwnedRows → Option Value) (failure : WorkFailure) :
    Handler Value := do
  let found ← query look
  ofExcept (found.elim (.error failure) .ok)

end Handler

open Handler

/-! ### Discoveries -/

/-- The listing columns of `_canonical_fields`; the others are the same for every vacancy. -/
structure CanonicalFields where
  title : String
  company : String
  description : String
  location : Option String
  externalUrl : String

/-- `_canonical_fields`. -/
def canonicalFields [TextTables] (vacancy : DiscoveryVacancy) : Except WorkFailure CanonicalFields :=
  match normalizeJobUrl (some vacancy.externalUrl) true with
  | .error _ => .error .other
  | .ok none => .error (.of .invalidResult "Discovery vacancy URL is missing")
  | .ok (some externalUrl) => .ok {
    title := Text.strip vacancy.title
    company := Text.strip vacancy.company
    description := Text.strip vacancy.sourceText
    location := (vacancy.location.filter fun location => location ≠ "").map Text.strip
    externalUrl := externalUrl }

/-- `stable_manual_platform_job_id`, as the digest it ends in. -/
def stableManualIdentity [AgentContent] [TextTables] (userId : Nat) (title company externalUrl : String) :
    Except WorkFailure {digest : String // digest.length = 24} :=
  match normalizeJobUrl (some externalUrl) false with
  | .error _ => .error .other
  | .ok url => .ok (AgentContent.manualIdentity userId url title company)

/-- `_content_fingerprint`. -/
def CanonicalFields.fingerprint [AgentContent] (fields : CanonicalFields) : String :=
  AgentContent.contentFingerprint fields.title fields.company (fields.location.getD "") ""
    fields.description

/-- The next key of a table. -/
def nextKey (keys : List Nat) : Nat := keys.foldr max 0 + 1

/-- `_load_catalog_row`. -/
def loadCatalogRow (identity : String) (rows : OwnedRows) : Option CatalogEntry :=
  rows.catalog.find? fun entry => entry.identityDigest = identity

/-- The insertion of a catalog row; an identity has at most one. -/
def insertCatalogRow (entry : Nat → CatalogEntry) : Handler CatalogEntry :=
  statement .operational fun rows =>
    let entry := entry (nextKey (rows.catalog.map fun entry => entry.id))
    if rows.catalog.any fun other => other.identityDigest = entry.identityDigest then
      .error .integrity
    else .ok (entry, { rows with catalog := rows.catalog ++ [entry] })

/-- `_create_catalog_row`: the row, and whether it is new. -/
def createCatalogRow (identity : {digest : String // digest.length = 24})
    (vacancy : DiscoveryVacancy) (fields : CanonicalFields) (fingerprint : String) :
    Handler (CatalogEntry × Bool) :=
  savepoint (fun failure => failure = .integrity)
    (do
      let entry ← insertCatalogRow fun key => {
        id := key
        externalUrl := fields.externalUrl
        identityDigest := identity.1
        contentRevision := 1
        digestLength := identity.2
        title := fields.title
        company := fields.company
        description := some fields.description
        location := fields.location
        workload := none
        contentFingerprint := some fingerprint
        firstSeenAt := vacancy.observedAt
        lastSeenAt := vacancy.observedAt
        lastChangedAt := vacancy.observedAt
        normalizationStatus := some "pending" }
      return (entry, true))
    (do
      let recovered ← Handler.require (loadCatalogRow identity.1) .integrity
      return (recovered, false))

/-- The catalog row of an identity: the stored one, or a new one. -/
def loadOrCreateCatalogRow (identity : {digest : String // digest.length = 24})
    (vacancy : DiscoveryVacancy) (fields : CanonicalFields) (fingerprint : String) :
    Handler (CatalogEntry × Bool) := do
  let loaded ← query (loadCatalogRow identity.1)
  match loaded with
  | some entry => return (entry, false)
  | none => createCatalogRow identity vacancy fields fingerprint

/-- `catalog_content_changed`. -/
def catalogContentChanged (entry : CatalogEntry) (fields : CanonicalFields)
    (fingerprint : String) : Bool :=
  match entry.contentFingerprint with
  | some stored =>
    if Text.blank stored then fieldsChanged else stored ≠ fingerprint
  | none => fieldsChanged
where
  fieldsChanged : Bool :=
    entry.title ≠ fields.title || entry.company ≠ fields.company ||
      entry.description ≠ some fields.description || entry.location ≠ fields.location ||
        entry.workload ≠ none

/-- `apply_catalog_observation`. -/
def applyCatalogObservation (entry : CatalogEntry) (seenAt : DateTime) (fields : CanonicalFields)
    (fingerprint : String) : CatalogEntry × Bool :=
  let changed := catalogContentChanged entry fields fingerprint
  let lastSeenAt := max entry.lastSeenAt seenAt
  let revision := max 1 entry.contentRevision
  ({ entry with
    title := fields.title
    company := fields.company
    description := some fields.description
    location := fields.location
    workload := none
    externalUrl := fields.externalUrl
    contentFingerprint := some fingerprint
    contentRevision := if changed then revision + 1 else revision
    firstSeenAt := min entry.firstSeenAt seenAt
    lastSeenAt := lastSeenAt
    lastChangedAt := if changed then lastSeenAt else entry.lastChangedAt
    normalizationStatus :=
      if changed then some "pending"
      else
        match entry.normalizationStatus with
        | none => some "pending"
        | some status => if status = "" then some "provider_bootstrap" else some status }, changed)

/-- The row a catalog row is replaced with. -/
def replaceCatalogRow (entry : CatalogEntry) (rows : OwnedRows) : OwnedRows :=
  { rows with catalog := rows.catalog.map fun other => if other.id = entry.id then entry else other }

/-- `_upsert_catalog_row`: the row, and whether its content changed. -/
def upsertCatalogRow [AgentContent] [TextTables] (userId : Nat) (vacancy : DiscoveryVacancy) :
    Handler (CatalogEntry × Bool) := do
  let fields ← ofExcept (canonicalFields vacancy)
  let identity ← ofExcept
    (stableManualIdentity userId fields.title fields.company fields.externalUrl)
  let fingerprint := fields.fingerprint
  let (entry, created) ← loadOrCreateCatalogRow identity vacancy fields fingerprint
  if created then return (entry, false)
  else
    if vacancy.observedAt < entry.lastSeenAt then
      if catalogContentChanged entry fields fingerprint then
        fail .staleInput "A newer observation of this vacancy is already stored"
      else return (entry, false)
    else do
      let (observed, changed) := applyCatalogObservation entry vacancy.observedAt fields fingerprint
      execute (replaceCatalogRow observed)
      return (observed, changed)

/-- A job without an analysis. -/
def JobAnalysis.none : JobAnalysis where
  affinityScore := .none
  affinityAnalysis := .none
  worthApplying := .none
  skillMatchScore := .none
  experienceMatchScore := .none
  languageMatchScore := .none
  locationMatchScore := .none
  analysisStructured := .none
  analysisProvenance := .none
  analysisModelId := .none
  analysisContractVersion := .none
  analysisValidatedAt := .none

/-- `_get_or_create_job`; a job without a search profile comes first. -/
def getOrCreateJob (catalogId : Nat) : Handler JobRow := do
  let known ← query fun rows => rows.jobs.filter fun job => job.scrapedJobId = some catalogId
  match (known.find? fun job => job.searchProfileId = none) <|> known.head? with
  | some job => return job
  | none =>
    statement .operational fun rows =>
      let job : JobRow := ⟨nextKey (rows.jobs.map JobRow.id), some catalogId, none, .none⟩
      .ok (job, { rows with jobs := rows.jobs ++ [job] })

/-- The application of a vacancy, opened or observed again: its identifier. -/
def storeApplication [Pydantic] (drawn : String) (discovery : Discovery) (now : DateTime) :
    Handler String := do
  let known ← query fun rows =>
    rows.applications.find? fun row => row.2.scrapedJobId = some discovery.catalog.id
  match known with
  | none => do
    execute fun rows =>
      { rows with applications :=
        rows.applications ++ [(drawn, recordApplication discovery now none)] }
    return drawn
  | some (id, application) => do
    execute fun rows =>
      { rows with applications := rows.applications.map fun row =>
          if row.1 = id then (id, recordApplication discovery now (some application)) else row }
    return id

/-- What the vacancies of a proposal came to so far. -/
structure DiscoveryAcceptance where
  jobIds : List Nat
  applicationIds : List String
  /-- The vacancies done, with their fingerprints. -/
  seen : List (String × String)

section

variable [AgentContent] [Pydantic] [TextTables]

/-- The loop of `accept_discovery_flush_only`, for one vacancy. -/
def acceptVacancy (request : AgentWorkRequest) (proposal : AgentProposal) (drawn : Nat → String)
    (now : DateTime) (soFar : DiscoveryAcceptance) (vacancy : DiscoveryVacancy) :
    Handler DiscoveryAcceptance := do
  let identity ← ofExcept
    (stableManualIdentity request.userId vacancy.title vacancy.company vacancy.externalUrl)
  let fields ← ofExcept (canonicalFields vacancy)
  match soFar.seen.lookup identity.1 with
  | some previous =>
    if previous ≠ fields.fingerprint then
      fail .resultConflict "The proposal contains conflicting copies of one vacancy"
    else return soFar
  | none => do
    let (catalog, changed) ← upsertCatalogRow request.userId vacancy
    let job ← getOrCreateJob catalog.id
    let applicationId ← storeApplication (drawn soFar.applicationIds.length)
      ⟨request.id, proposal.id, vacancy, job.id, catalog.toCatalogRow, changed⟩ now
    return {
      jobIds := soFar.jobIds ++ [job.id]
      applicationIds := soFar.applicationIds ++ [applicationId]
      seen := (identity.1, fields.fingerprint) :: soFar.seen }

/-- `accept_discovery_flush_only`. -/
def acceptDiscovery (request : AgentWorkRequest) (proposal : AgentProposal)
    (listings : List DiscoveryVacancy) (drawn : Nat → String) (now : DateTime) :
    Handler DiscoveryAcceptance :=
  foldItems (acceptVacancy request proposal drawn now) ⟨[], [], []⟩ listings

end

/-! ### Analyses -/

/-- `eligibility`. -/
def eligibility (gates : List WorkGate) : String :=
  if gates.any fun gate => gate.status = "reject" then "reject"
  else if gates.any fun gate => gate.status = "hold" || gate.unknowns ≠ [] then "hold"
  else "eligible"

/-- The columns an accepted analysis leaves; those of an earlier analysis are gone. -/
def AnalysisProposal.columns (analysis : AnalysisProposal) (request : AgentWorkRequest)
    (proposal : AgentProposal) (now : DateTime) : JobAnalysis where
  affinityScore := some analysis.scores.overallScore
  affinityAnalysis := some ("External Agent Analysis: " ++ analysis.recommendation.name ++
    " (Score: " ++ toString analysis.scores.overallScore ++ ")")
  worthApplying := some (eligibility analysis.gates = "eligible" ∧
    (analysis.recommendation = .strongFit ∨ analysis.recommendation = .consider))
  skillMatchScore := some analysis.scores.role.score
  experienceMatchScore := some analysis.scores.requirements.score
  languageMatchScore := some analysis.scores.language.score
  locationMatchScore := some analysis.scores.location.score
  analysisStructured := some (.obj [
    ("recommendation", .str analysis.recommendation.name),
    ("gates", .arr (analysis.gates.map WorkGate.modelDump)),
    ("claims", .arr (analysis.claims.map AnalysisClaim.modelDump)),
    ("scores", analysis.scores.modelDump),
    ("source", .str "external_agent"),
    ("request_id", .str request.id),
    ("proposal_id", .str proposal.id),
    ("grant_id", .str proposal.submittingGrantId),
    ("input_digest", .str request.inputDigest),
    ("payload_digest", .str proposal.payloadDigest)])
  analysisProvenance := some "external_agent_proposal"
  analysisModelId := some (Text.orElse (proposal.modelLabel.getD "")
    (Text.orElse proposal.clientLabel "external-agent"))
  analysisContractVersion := some "1.0"
  analysisValidatedAt := some now

/-- `accept_analysis_flush_only`. -/
def acceptAnalysis (request : AgentWorkRequest) (proposal : AgentProposal)
    (analysis : AnalysisProposal) (now : DateTime) : Handler Unit := do
  let missing := WorkFailure.of .workNotFound "Target job not found for analysis acceptance"
  let jobId ← ofExcept (request.targetJobId.elim (.error missing) .ok)
  let job ← Handler.require (fun rows => rows.jobs.find? fun job => job.id = jobId) missing
  execute fun rows =>
    { rows with jobs := rows.jobs.map fun other =>
        if other.id = job.id then { job with analysis := analysis.columns request proposal now }
        else other }

/-! ### Materials -/

/-- `ApplicationDossierDraftPut` of an acceptance, which binds a resume draft. -/
structure DossierDraftPut where
  expectedRevision : Option Nat
  expectedApplicationRevision : Nat
  resumeDraftId : String
  expectedResumeDraftRevision : Nat
  content : ApplicationDossierDraftContent

/-- The draft that is stored for it. -/
def DossierDraftPut.stored (data : DossierDraftPut) (revision : Nat) : ApplicationDossierDraft where
  revision := revision
  applicationRevision := data.expectedApplicationRevision
  resumeVersionId := none
  resumeDraftId := some data.resumeDraftId
  resumeDraftRevision := some data.expectedResumeDraftRevision
  content := some data.content

/-- A conditional update that leaves what it matches as it is. -/
def lockRow (holds : OwnedRows → Bool) : Handler Nat :=
  statement .operational fun rows => .ok (if holds rows then 1 else 0, rows)

/-- The write of a dossier draft, new or over the revision it expects. -/
def writeDossierDraft (applicationId : String) (data : DossierDraftPut)
    (changedWhileSaving : WorkFailure) : Handler Nat := do
  let existing ← query fun rows => rows.dossiers.lookup applicationId
  match data.expectedRevision, existing with
  | none, some _ => refuse changedWhileSaving
  | none, none => do
    execute fun rows => { rows with dossiers := rows.dossiers ++ [(applicationId, data.stored 1)] }
    return 1
  | some _, none => refuse changedWhileSaving
  | some expected, some current => do
    refuseIf (current.revision ≠ expected) changedWhileSaving
    execute fun rows =>
      { rows with dossiers := rows.dossiers.map fun row =>
          if row.1 = applicationId then (applicationId, data.stored (expected + 1)) else row }
    return expected + 1

/-- `mutate_dossier_draft_flush_only`: the revision of the stored draft. -/
def mutateDossierDraft (applicationId : String) (data : DossierDraftPut) : Handler Nat := do
  let changedWhileSaving := WorkFailure.of .revisionConflict "Dossier changed before acceptance"
  let cannotApply :=
    WorkFailure.of .invalidResult "Materials cannot be applied to the selected drafts"
  let _ ← Handler.require (fun rows => rows.applications.lookup applicationId) cannotApply
  let locked ← lockRow fun rows => (rows.applications.lookup applicationId).any fun application =>
    application.revision = data.expectedApplicationRevision
  refuseIf (locked ≠ 1) changedWhileSaving
  let application ← Handler.require (fun rows => rows.applications.lookup applicationId) cannotApply
  refuseIf (application.revision ≠ data.expectedApplicationRevision) changedWhileSaving
  let draft ← Handler.require
    (fun rows => rows.resumes.find? fun draft => draft.id = data.resumeDraftId) cannotApply
  refuseIf (draft.revision ≠ data.expectedResumeDraftRevision) changedWhileSaving
  let lockedResume ← lockRow fun rows => rows.resumes.any fun draft =>
    draft.id = data.resumeDraftId ∧ draft.revision = data.expectedResumeDraftRevision
  refuseIf (lockedResume ≠ 1) changedWhileSaving
  let revision ← writeDossierDraft applicationId data changedWhileSaving
  let bound ← query fun rows => rows.applications.lookup applicationId
  refuseIf (bound.all fun application => application.revision ≠ data.expectedApplicationRevision)
    changedWhileSaving
  return revision

/-- The claims of materials, in the order their identities are compared. -/
def MaterialsProposal.claims (material : MaterialsProposal) : List CitedMaterialText :=
  material.coverLetter ++ material.email.body ++
    material.questionsAnswers.map MaterialAnswer.toCitedMaterialText

/-- The row the conditional update of a resume draft matches. -/
def ResumeDraftRow.isAt (draft : ResumeDraftRow) (draftId profileId : String)
    (expected : Option Nat) : Bool :=
  draft.id = draftId ∧ draft.profileId = profileId ∧ some draft.revision = expected

/-- The conditional update that reserves the resume draft. -/
def reserveResume (draftId profileId : String) (expected : Option Nat) : Handler Nat :=
  statement .operational fun rows =>
    .ok (rows.resumes.countP fun draft => draft.isAt draftId profileId expected,
      { rows with resumes := rows.resumes.map fun draft =>
          if draft.isAt draftId profileId expected then
            { draft with revision := draft.revision + 1 }
          else draft })

section

variable [AgentContent] [Pydantic]

/-- The provenance of accepted materials. -/
def AgentProposal.provenance (proposal : AgentProposal) (request : AgentWorkRequest)
    (generatedAt : DateTime) : GenerationProvenance where
  source := "external-agent"
  requestId := some request.id
  grantId := some proposal.submittingGrantId
  inputDigest := some request.inputDigest
  payloadDigest := some proposal.payloadDigest
  generatedAt := some (Pydantic.isoformat generatedAt)

/-- `accept_materials_flush_only`. -/
def acceptMaterials (request : AgentWorkRequest) (proposal : AgentProposal)
    (material : MaterialsProposal) (generatedAt : DateTime) : Handler MaterialReceipt := do
  let unavailable := WorkFailure.of .workNotFound "Material targets are unavailable"
  let profile ← Handler.require OwnedRows.profile unavailable
  let resumeId ← ofExcept (request.targetResumeId.elim (.error unavailable) .ok)
  let applicationId ← ofExcept (request.targetApplicationId.elim (.error unavailable) .ok)
  let draft ← Handler.require (fun rows => rows.resumes.find? fun draft =>
    draft.id = resumeId ∧ draft.profileId = profile.id) unavailable
  let reserved ← reserveResume draft.id profile.id request.inputRevisions.resume
  refuseIf (reserved ≠ 1) (.of .revisionConflict "CV draft changed before acceptance")
  let document ← ofExcept (AgentContent.materialDocument profile draft material)
  let provenance := proposal.provenance request generatedAt
  let revision := request.inputRevisions.resume.getD 0 + 1
  execute fun rows =>
    { rows with resumes := rows.resumes.map fun other =>
        if other.id = draft.id then
          { other with
            document := document
            revision := revision
            profileRevision := profile.revision
            generationContext := provenance.modelDump }
        else other }
  refuseIf (¬(material.claims.map CitedMaterialText.id).Nodup)
    (.of .invalidResult "Material claim identities must be unique")
  let content ← ofExcept (AgentContent.materialDossier material provenance)
  let applicationRevision ← ofExcept (request.inputRevisions.application.elim
    (.error (.of .invalidResult "Materials cannot be applied to the selected drafts")) .ok)
  let dossierRevision ← mutateDossierDraft applicationId {
    expectedRevision := request.inputRevisions.dossier
    expectedApplicationRevision := applicationRevision
    resumeDraftId := draft.id
    expectedResumeDraftRevision := revision
    content := content }
  return {
    resumeDraftId := draft.id
    resumeRevision := revision
    dossierRevision := dossierRevision
    applicationId := applicationId }

end

/-! ### The acceptance -/

/-- `AgentWorkAcceptRequest`; a target that is left out has no revision at all. -/
structure AgentWorkAccept where
  expectedRevision : Nat
  expectedTargetRevisions : TargetRevisions (Option (Option Nat))

/-- What a handler leaves in the receipt. -/
structure HandlerOutcome where
  createdJobIds : List Nat
  createdApplicationIds : List String
  material : Option MaterialReceipt

/-- A handler run on the rows of the vault. -/
def onRows {Value : Type} (handler : Handler Value) : Work Value :=
  zoom WorkVault.rows (fun rows vault => { vault with rows := rows }) handler

section

variable [AgentContent] [Pydantic] [TextTables]

/-- The handler of the kind of the payload. -/
def handlePayload (request : AgentWorkRequest) (proposal : AgentProposal)
    (payload : ProposalPayload) (drawn : Nat → String) (clock : Nat → DateTime) :
    Handler HandlerOutcome :=
  match payload with
  | .discover listings => do
    let discovery ← acceptDiscovery request proposal listings drawn (clock 0)
    return ⟨discovery.jobIds, discovery.applicationIds, none⟩
  | .analyze analysis => do
    acceptAnalysis request proposal analysis (clock 0)
    return ⟨[], [], none⟩
  | .materials material => do
    let receipt ← acceptMaterials request proposal material (clock 4)
    return ⟨[], [], some receipt⟩

/-- The acceptance of a request that is accepted already. -/
def replayAcceptance (seen : WorkVault) (request : AgentWorkRequest)
    (receipt : AcceptanceReceipt) (data : AgentWorkAccept) : Work AcceptanceReceipt := do
  -- the revision before the acceptance, or the one after it
  refuseIf (data.expectedRevision + 1 ≠ request.revision ∧
      data.expectedRevision ≠ request.revision)
    (.of .revisionConflict "Acceptance revision does not match its receipt")
  refuseIf (data.expectedTargetRevisions ≠ request.inputRevisions.map some)
    (.of .staleInput "Acceptance replay must use the reviewed target revisions")
  let (digest, revisions) ← currentInputState (some seen) request
  refuseIf (receipt.acceptedInputDigest ≠ digest ∨ receipt.acceptedInputRevisions ≠ revisions)
    (.of .staleInput "The accepted proposal targets have changed since acceptance")
  return receipt

/-- The conditional update of an acceptance. -/
def reserveRequest (request : AgentWorkRequest) (userId : Nat) (data : AgentWorkAccept)
    (now : DateTime) : Work Nat :=
  Work.updateRequest (fun row => row.id = request.id ∧ row.userId = userId ∧ row.state = .returned ∧
      row.revision = data.expectedRevision ∧ row.expiresAt > now)
    fun row => { row with revision := row.revision + 1 }

/-- The proposal of a reserved request, and its payload, both checked again. -/
def reviewedProposal (request : AgentWorkRequest) (data : AgentWorkAccept) :
    Work (AgentProposal × ProposalPayload) := do
  requireCurrentInputs request
  refuseIf (data.expectedTargetRevisions ≠ request.inputRevisions.map some)
    (.of .staleInput "Review must include the current target revisions")
  let found ← Work.select none fun vault =>
    vault.proposals.find? fun proposal => proposal.requestId = request.id
  let proposal ← ofExcept
    (found.elim (.error (.of .workNotFound "No proposal was returned")) .ok)
  let payload ← ofExcept
    ((AgentContent.validatePayload proposal.payload).elim (.error .validation) .ok)
  ofExcept ((AgentContent.validateProposal request payload).mapError .work)
  refuseIf (AgentContent.payloadDigest payload.modelDump ≠ proposal.payloadDigest)
    (.of .invalidResult "Stored proposal integrity verification failed")
  return (proposal, payload)

/-- Everything an acceptance does before it commits: the receipt it writes. -/
def prepareAcceptance (request : AgentWorkRequest) (userId : Nat) (data : AgentWorkAccept)
    (drawn : Nat → String) (clock : Nat → DateTime) : Work AcceptanceReceipt := do
  let changed ← reserveRequest request userId data (clock 0)
  refuseIf (changed ≠ 1) (.of .revisionConflict "The request changed before acceptance")
  let _ ← requireGrant none request.boundGrantId (some "proposals:write") (some userId) (clock 3)
  let (proposal, payload) ← reviewedProposal request data
  let outcome ← onRows (handlePayload request proposal payload drawn clock)
  let (digest, revisions) ← currentInputState none request
  let receipt : AcceptanceReceipt := {
    requestId := request.id
    proposalId := proposal.id
    workKind := request.workKind
    acceptedAt := clock 0
    targetJobId := request.targetJobId
    createdJobIds := outcome.createdJobIds
    createdApplicationIds := outcome.createdApplicationIds
    acceptedInputDigest := digest
    acceptedInputRevisions := revisions
    material := outcome.material }
  let _ ← Work.updateRequest (fun row => row.id = request.id) fun row =>
    { row with
      state := .accepted
      revision := data.expectedRevision + 1
      acceptedReceipt := some receipt
      updatedAt := clock 0 }
  return receipt

/-- `_accept_work_proposal`. -/
def acceptProposal (seen : WorkVault) (userId : Nat) (requestId : String) (data : AgentWorkAccept)
    (drawn : Nat → String) (clock : Nat → DateTime) : Work AcceptanceReceipt := do
  requireReady (some seen) userId
  let found ← Work.select (some seen) fun vault => vault.findRequest requestId userId
  let request ← ofExcept
    (found.elim (.error (.of .workNotFound "Work request was not found")) .ok)
  let _ ← requireGrant (some seen) request.boundGrantId (some "proposals:write") (some userId)
    (clock 1)
  requireWorkLive request (clock 2)
  match request.acceptedReceipt.filter fun _ => request.state = .accepted with
  | some receipt => replayAcceptance seen request receipt data
  | none => do
    let receipt ← prepareAcceptance request userId data drawn clock
    Work.commit
    return receipt

/-- What an acceptance raises for what happened inside. -/
def acceptanceFailure : WorkFailure → WorkFailure
  | .validation =>
    .of .invalidResult "Stored proposal does not satisfy the current contract"
  | .integrity | .operational =>
    .of .revisionConflict "The inputs changed during acceptance; refresh before retrying"
  | failure => failure

/-- `accept_work_proposal`. -/
def acceptWorkProposal (seen : WorkVault) (userId : Nat) (requestId : String)
    (data : AgentWorkAccept) (drawn : Nat → String) (clock : Nat → DateTime) :
    Work AcceptanceReceipt :=
  rollingBack acceptanceFailure (acceptProposal seen userId requestId data drawn clock)

end

/-! ### No handler commits -/

theorem flushOnly_handlerRequire {Value : Type} (look : OwnedRows → Option Value) (failure : WorkFailure) :
    FlushOnly (Handler.require look failure) :=
  (flushOnly_read _ _).bind fun _ => flushOnly_ofExcept _

theorem flushOnly_createCatalogRow (identity : {digest : String // digest.length = 24})
    (vacancy : DiscoveryVacancy) (fields : CanonicalFields) (fingerprint : String) :
    FlushOnly (createCatalogRow identity vacancy fields fingerprint) :=
  ((flushOnly_statement _ _).bind fun _ => flushOnly_pure _).savepoint
    ((flushOnly_handlerRequire _ _).bind fun _ => flushOnly_pure _)

theorem flushOnly_loadOrCreateCatalogRow (identity : {digest : String // digest.length = 24})
    (vacancy : DiscoveryVacancy) (fields : CanonicalFields) (fingerprint : String) :
    FlushOnly (loadOrCreateCatalogRow identity vacancy fields fingerprint) := by
  refine (flushOnly_read _ _).bind fun loaded => ?_
  cases loaded with
  | none => exact flushOnly_createCatalogRow _ _ _ _
  | some entry => exact flushOnly_pure _

section

variable [AgentContent] [Pydantic] [TextTables]

omit [Pydantic] in
theorem flushOnly_upsertCatalogRow (userId : Nat) (vacancy : DiscoveryVacancy) :
    FlushOnly (upsertCatalogRow userId vacancy) := by
  refine (flushOnly_ofExcept _).bind fun fields => (flushOnly_ofExcept _).bind fun identity =>
    (flushOnly_loadOrCreateCatalogRow _ _ _ _).bind fun found => ?_
  dsimp only
  split
  · exact flushOnly_pure _
  · split
    · split
      · exact flushOnly_ofExcept _
      · exact flushOnly_pure _
    · exact (flushOnly_write _ _).bind fun _ => flushOnly_pure _

omit [AgentContent] [Pydantic] [TextTables] in
theorem flushOnly_getOrCreateJob (catalogId : Nat) : FlushOnly (getOrCreateJob catalogId) := by
  refine (flushOnly_read _ _).bind fun known => ?_
  split
  · exact flushOnly_pure _
  · exact flushOnly_statement _ _

omit [AgentContent] [TextTables] in
theorem flushOnly_storeApplication (drawn : String) (discovery : Discovery) (now : DateTime) :
    FlushOnly (storeApplication drawn discovery now) := by
  refine (flushOnly_read _ _).bind fun known => ?_
  split
  · exact (flushOnly_write _ _).bind fun _ => flushOnly_pure _
  · exact (flushOnly_write _ _).bind fun _ => flushOnly_pure _

theorem flushOnly_acceptDiscovery (request : AgentWorkRequest) (proposal : AgentProposal)
    (listings : List DiscoveryVacancy) (drawn : Nat → String) (now : DateTime) :
    FlushOnly (acceptDiscovery request proposal listings drawn now) := by
  refine FlushOnly.foldItems (fun soFar vacancy => ?_) _ listings
  refine (flushOnly_ofExcept _).bind fun identity => (flushOnly_ofExcept _).bind fun fields => ?_
  split
  · split
    · exact flushOnly_ofExcept _
    · exact flushOnly_pure _
  · exact (flushOnly_upsertCatalogRow _ _).bind fun _ => (flushOnly_getOrCreateJob _).bind fun _ =>
      (flushOnly_storeApplication _ _ _).bind fun _ => flushOnly_pure _

section

omit [AgentContent] [Pydantic] [TextTables]

theorem flushOnly_acceptAnalysis (request : AgentWorkRequest) (proposal : AgentProposal)
    (analysis : AnalysisProposal) (now : DateTime) :
    FlushOnly (acceptAnalysis request proposal analysis now) :=
  (flushOnly_ofExcept _).bind fun _ => (flushOnly_handlerRequire _ _).bind fun _ =>
    flushOnly_write _ _

theorem flushOnly_writeDossierDraft (applicationId : String) (data : DossierDraftPut)
    (changedWhileSaving : WorkFailure) :
    FlushOnly (writeDossierDraft applicationId data changedWhileSaving) := by
  refine (flushOnly_read _ _).bind fun existing => ?_
  split
  · exact flushOnly_ofExcept _
  · exact (flushOnly_write _ _).bind fun _ => flushOnly_pure _
  · exact flushOnly_ofExcept _
  · exact (flushOnly_refuseIf _ _).bind fun _ => (flushOnly_write _ _).bind fun _ =>
      flushOnly_pure _

theorem flushOnly_mutateDossierDraft (applicationId : String) (data : DossierDraftPut) :
    FlushOnly (mutateDossierDraft applicationId data) :=
  (flushOnly_handlerRequire _ _).bind fun _ => (flushOnly_statement _ _).bind fun _ =>
    (flushOnly_refuseIf _ _).bind fun _ => (flushOnly_handlerRequire _ _).bind fun _ =>
      (flushOnly_refuseIf _ _).bind fun _ => (flushOnly_handlerRequire _ _).bind fun _ =>
        (flushOnly_refuseIf _ _).bind fun _ => (flushOnly_statement _ _).bind fun _ =>
          (flushOnly_refuseIf _ _).bind fun _ => (flushOnly_writeDossierDraft _ _ _).bind fun _ =>
            (flushOnly_read _ _).bind fun _ => (flushOnly_refuseIf _ _).bind fun _ =>
              flushOnly_pure _

end

omit [TextTables] in
theorem flushOnly_acceptMaterials (request : AgentWorkRequest) (proposal : AgentProposal)
    (material : MaterialsProposal) (generatedAt : DateTime) :
    FlushOnly (acceptMaterials request proposal material generatedAt) :=
  (flushOnly_handlerRequire _ _).bind fun _ => (flushOnly_ofExcept _).bind fun _ =>
    (flushOnly_ofExcept _).bind fun _ => (flushOnly_handlerRequire _ _).bind fun _ =>
      (flushOnly_statement _ _).bind fun _ => (flushOnly_refuseIf _ _).bind fun _ =>
        (flushOnly_ofExcept _).bind fun _ => (flushOnly_write _ _).bind fun _ =>
          (flushOnly_refuseIf _ _).bind fun _ => (flushOnly_ofExcept _).bind fun _ =>
            (flushOnly_ofExcept _).bind fun _ => (flushOnly_mutateDossierDraft _ _).bind fun _ =>
              flushOnly_pure _

/-- No handler commits. -/
theorem flushOnly_handlePayload (request : AgentWorkRequest) (proposal : AgentProposal)
    (payload : ProposalPayload) (drawn : Nat → String) (clock : Nat → DateTime) :
    FlushOnly (handlePayload request proposal payload drawn clock) := by
  cases payload with
  | discover listings =>
    exact (flushOnly_acceptDiscovery _ _ _ _ _).bind fun _ => flushOnly_pure _
  | analyze analysis => exact (flushOnly_acceptAnalysis _ _ _ _).bind fun _ => flushOnly_pure _
  | materials material => exact (flushOnly_acceptMaterials _ _ _ _).bind fun _ => flushOnly_pure _

omit [TextTables] in
theorem readOnly_reviewedProposal (request : AgentWorkRequest) (data : AgentWorkAccept) :
    ReadOnly (reviewedProposal request data) :=
  (readOnly_requireCurrentInputs _).bind fun _ => (readOnly_refuseIf _ _).bind fun _ =>
    (readOnly_read _ _).bind fun _ => (readOnly_ofExcept _).bind fun _ =>
      (readOnly_ofExcept _).bind fun _ => (readOnly_ofExcept _).bind fun _ =>
        (readOnly_refuseIf _ _).bind fun _ => readOnly_pure _

omit [AgentContent] [Pydantic] [TextTables] in
theorem flushOnly_onRows {Value : Type} {handler : Handler Value} (flushes : FlushOnly handler) :
    FlushOnly (onRows handler) :=
  flushes.zoom fun _ => rfl

theorem flushOnly_prepareAcceptance (request : AgentWorkRequest) (userId : Nat)
    (data : AgentWorkAccept) (drawn : Nat → String) (clock : Nat → DateTime) :
    FlushOnly (prepareAcceptance request userId data drawn clock) := by
  unfold prepareAcceptance reserveRequest
  refine FlushOnly.bind (flushOnly_statement _ _) fun _ => ?_
  refine (flushOnly_refuseIf _ _).bind fun _ => ?_
  refine (readOnly_requireGrant _ _ _ _ _).flushOnly.bind fun _ => ?_
  refine (readOnly_reviewedProposal _ _).flushOnly.bind fun reviewed => ?_
  exact (flushOnly_onRows (flushOnly_handlePayload _ _ _ _ _)).bind fun _ =>
    (readOnly_currentInputState _ _).flushOnly.bind fun _ => (flushOnly_statement _ _).bind fun _ =>
      flushOnly_pure _

omit [Pydantic] [TextTables] in
theorem flushOnly_replayAcceptance (seen : WorkVault) (request : AgentWorkRequest)
    (receipt : AcceptanceReceipt) (data : AgentWorkAccept) :
    FlushOnly (replayAcceptance seen request receipt data) :=
  (flushOnly_refuseIf _ _).bind fun _ => (flushOnly_refuseIf _ _).bind fun _ =>
    (readOnly_currentInputState _ _).flushOnly.bind fun _ => (flushOnly_refuseIf _ _).bind fun _ =>
      flushOnly_pure _

/-- An acceptance that fails anywhere leaves the vault as it was. -/
theorem atomic_acceptWorkProposal (seen : WorkVault) (userId : Nat) (requestId : String)
    (data : AgentWorkAccept) (drawn : Nat → String) (clock : Nat → DateTime) :
    Atomic (acceptWorkProposal seen userId requestId data drawn clock) := by
  refine Atomic.rollingBack ?_
  refine (readOnly_requireReady _ _).flushOnly.bind_atomic fun _ => (flushOnly_read _ _).bind_atomic
    fun _ => (flushOnly_ofExcept _).bind_atomic fun request =>
      (readOnly_requireGrant _ _ _ _ _).flushOnly.bind_atomic fun _ =>
        (readOnly_requireWorkLive _ _).flushOnly.bind_atomic fun _ => ?_
  split
  · exact (flushOnly_replayAcceptance _ _ _ _).atomic
  · exact (flushOnly_prepareAcceptance _ _ _ _ _).bind_atomic fun receipt =>
      atomic_commit_pure _ receipt

end

end CareerOS
