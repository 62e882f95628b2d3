/-
This file is the publication of a dossier. It runs alone: under the vault lock
and inside a transaction that took the write lock first, so what it reads is
what it writes over. It consumes the saved draft, advances the revision and
appends the event of the dossier in one transaction.
-/

import CareerOS.Applications.DossierSchemas
import CareerOS.Applications.Service

namespace CareerOS

/-- A published resume of the owner. -/
structure ResumeVersion where
  id : String
  draftId : String
  profileRevision : Nat
  qualityPassed : Bool
  selectedFactIds : List String
  facts : List (Dict String Json)
  /-- The draft revision recorded in its snapshot. -/
  publishedRevision : Option Nat

/-- A resume draft of the owner. -/
structure ResumeDraft where
  revision : Nat
  profileRevision : Nat

/-- The outcome of the readiness checks. -/
structure ReadinessReport where
  scoreKind : String
  status : String
  completenessScore : Nat
  fingerprint : String
  blockerCount : Nat

/-- What `build_packet_materials` hands back of the new dossier. -/
structure PacketMaterials where
  dossierId : String
  now : DateTime
  eventPayload : Dict String Json

/-- The other rows and files a publication reads inside its transaction. -/
structure PublicationFacts where
  vaultReady : Bool
  draft : Option ApplicationDossierDraft
  resumeVersion : String → Option ResumeVersion
  resumeDraft : String → Option ResumeDraft
  profileRevision : Nat
  /-- The readiness of the application with the given resume version linked. -/
  readiness : Application → ReadinessReport
  /-- `build_packet_materials`. -/
  materials : Application → ResumeVersion → ReadinessReport → Except ApplicationError PacketMaterials

/-- The version a draft bound to an unpublished resume draft is published with. -/
def versionOfResumeDraft (facts : PublicationFacts) (data : ApplicationDossierCreate)
    (draft : ApplicationDossierDraft) (resumeDraftId : String) :
    Except ApplicationError String :=
  match data.resumeVersionId with
  | none => .error (.validation
      ("Publishing an unpublished-draft-bound packet requires an explicit verified version " ++
        "of the same draft"))
  | some targetVersionId =>
    match facts.resumeVersion targetVersionId with
    | none => .error (.validation "The linked resume version is unavailable")
    | some version =>
      if version.draftId ≠ resumeDraftId then .error (.validation
        "The specified resume version was not published from the bound resume draft")
      else
        match facts.resumeDraft resumeDraftId with
        | none => .error (.conflict
            "Publish the current approved resume draft before publishing its packet")
        | some currentDraft =>
          if version.publishedRevision ≠ draft.resumeDraftRevision ∨
              some currentDraft.revision ≠ draft.resumeDraftRevision ∨
              currentDraft.profileRevision ≠ facts.profileRevision ∨
              version.profileRevision ≠ facts.profileRevision then
            .error (.conflict
              "Publish the current approved resume draft before publishing its packet")
          else .ok version.id

/-- The version a draft bound to a published version is published with. -/
def versionOfBinding (application : Application) (data : ApplicationDossierCreate)
    (draft : ApplicationDossierDraft) : Except ApplicationError (Option String) :=
  if data.resumeVersionId.isSome ∧ data.resumeVersionId ≠ draft.resumeVersionId then
    .error (.conflict "The selected resume differs from the saved dossier binding")
  else if draft.resumeVersionId ≠ application.resumeVersionId then
    .error (.conflict
      "Save the dossier draft against the current application before publishing")
  else .ok draft.resumeVersionId

/-- The resume version a dossier is published with. -/
def effectiveVersion (facts : PublicationFacts) (data : ApplicationDossierCreate)
    (application : Application) : Except ApplicationError (Option String) :=
  match facts.draft with
  | none =>
    if data.expectedDraftRevision.isSome then
      .error (.conflict "The dossier draft no longer exists")
    else .ok (data.resumeVersionId.or application.resumeVersionId)
  | some draft => do
    refuseWhen (data.expectedDraftRevision ≠ some draft.revision) (.conflict
      "The dossier draft changed in another editor; reload before publishing")
    refuseWhen (draft.applicationRevision ≠ application.revision) (.conflict
      "Save the dossier draft against the current application before publishing")
    let versionId ←
      match draft.resumeDraftId with
      | some resumeDraftId => (versionOfResumeDraft facts data draft resumeDraftId).map some
      | none => versionOfBinding application data draft
    let saved ← publishableDraftContent draft.content
    refuseWhen (saved ≠ requestedDossierContent data) (.conflict
      "The published dossier does not match the saved draft")
    return versionId

/-- The published resume a dossier is made with. -/
def linkedResume (facts : PublicationFacts) (versionId : Option String) :
    Except ApplicationError ResumeVersion :=
  match versionId.bind facts.resumeVersion with
  | none => .error (.validation "Link a published resume before creating a dossier")
  | some version => .ok version

/-- `publish_dossier`, up to the commit. -/
def publishDossier (facts : PublicationFacts) (data : ApplicationDossierCreate)
    (current : Application) : Except ApplicationError Application := do
  refuseWhen (¬facts.vaultReady) (.conflict "Vault maintenance is pending")
  refuseWhen (current.revision ≠ data.expectedRevision)
    (staleRevision data.expectedRevision current)
  let versionId ← effectiveVersion facts data current
  let version ← linkedResume facts versionId
  refuseWhen (¬version.qualityPassed)
    (.validation "The linked resume did not pass its quality checks")
  let readiness := facts.readiness { current with resumeVersionId := versionId }
  refuseWhen (readiness.blockerCount ≠ 0) (.validation
    "Resolve the application readiness blockers before publishing a dossier")
  let materials ← facts.materials current version readiness
  let relinked := { current with resumeVersionId := some version.id }
  let advanced ← advanceRevision relinked data.expectedRevision materials.now id relinked
  return advanced.append {
    eventType := .dossierPublished
    stage := none
    occurredAt := materials.now
    note := none
    payload := materials.eventPayload
    createdAt := materials.now }

theorem publishDossier_ok {facts : PublicationFacts} {data : ApplicationDossierCreate}
    {current next : Application} (committed : publishDossier facts data current = .ok next) :
    current.revision = data.expectedRevision ∧
      ∃ version readiness materials, facts.materials current version readiness = .ok materials ∧
        next = Application.append { current with
          resumeVersionId := some version.id
          revision := data.expectedRevision + 1
          latestEventAt := max materials.now current.latestEventAt } {
            eventType := .dossierPublished
            stage := none
            occurredAt := materials.now
            note := none
            payload := materials.eventPayload
            createdAt := materials.now } := by
  simp only [publishDossier, bind_ok_iff, refuseWhen_ok_iff, pure_ok_iff, advanceRevision_ok_iff,
    not_not] at committed
  obtain ⟨-, -, -, fresh, _, -, version, -, -, -, -, -, materials, built, _, ⟨-, -, -, rfl⟩, rfl⟩ :=
    committed
  exact ⟨fresh, version, _, materials, built, rfl⟩

end CareerOS
