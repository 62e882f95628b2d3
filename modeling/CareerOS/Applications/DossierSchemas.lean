/-
This file is the content of a dossier: what the owner asks to publish, what an
autosaved draft holds, and the common form the two are compared in. The options
of a letter, the draft of an email and the provenance of the text are kept whole
in the published event, so each is written as JSON here.
-/

import CareerOS.Applications.Models

namespace CareerOS

def maxDossierInputBytes : Nat := 256 * 1024
def maxDossierEvidenceLinks : Nat := 100
def maxDossierUniqueFacts : Nat := 50

/-- `LetterOptions`. -/
structure LetterOptions where
  presetId : String
  templateVersion : Nat
  locale : String
  recipient : Option String
  subject : Option String
  date : Option String
  formats : List String
  deriving DecidableEq

def LetterOptions.modelDump (options : LetterOptions) : Json := .obj [
  ("preset_id", .str options.presetId),
  ("template_version", .int options.templateVersion),
  ("locale", .str options.locale),
  ("recipient", .ofText options.recipient),
  ("subject", .ofText options.subject),
  ("date", .ofText options.date),
  ("formats", .ofTexts options.formats)]

/-- `EmailDraft`. -/
structure EmailDraft where
  mode : String
  recipient : Option String
  subject : String
  body : String
  attachmentNames : List String
  deriving DecidableEq

def EmailDraft.modelDump (draft : EmailDraft) : Json := .obj [
  ("mode", .str draft.mode),
  ("recipient", .ofText draft.recipient),
  ("subject", .str draft.subject),
  ("body", .str draft.body),
  ("attachment_names", .ofTexts draft.attachmentNames)]

/-- `GenerationProvenance`; the time is kept as it is written. -/
structure GenerationProvenance where
  source : String
  requestId : Option String
  grantId : Option String
  inputDigest : Option String
  payloadDigest : Option String
  generatedAt : Option String
  deriving DecidableEq

def GenerationProvenance.modelDump (provenance : GenerationProvenance) : Json := .obj [
  ("source", .str provenance.source),
  ("request_id", .ofText provenance.requestId),
  ("grant_id", .ofText provenance.grantId),
  ("input_digest", .ofText provenance.inputDigest),
  ("payload_digest", .ofText provenance.payloadDigest),
  ("generated_at", .ofText provenance.generatedAt)]

/-- `MaterialEvidenceClaim`. -/
structure MaterialEvidenceClaim where
  id : String
  text : String
  factIds : List String
  deriving DecidableEq

def MaterialEvidenceClaim.modelDump (claim : MaterialEvidenceClaim) : Json := .obj [
  ("id", .str claim.id),
  ("text", .str claim.text),
  ("fact_ids", .ofTexts claim.factIds)]

/-- `DossierAnswer`. -/
structure DossierAnswer where
  question : String
  answer : String
  deriving DecidableEq

def DossierAnswer.modelDump (answer : DossierAnswer) : Json := .obj [
  ("question", .str answer.question),
  ("answer", .str answer.answer)]

/-- `DossierChecklistItem`. -/
structure DossierChecklistItem where
  label : String
  completed : Bool
  deriving DecidableEq

def DossierChecklistItem.modelDump (item : DossierChecklistItem) : Json := .obj [
  ("label", .str item.label),
  ("completed", .bool item.completed)]

/-- `DossierRequirementEvidence`. -/
structure DossierRequirementEvidence where
  requirement : String
  evidenceFactIds : List String
  deriving DecidableEq

def DossierRequirementEvidence.modelDump (row : DossierRequirementEvidence) : Json := .obj [
  ("requirement", .str row.requirement),
  ("evidence_fact_ids", .ofTexts row.evidenceFactIds)]

/-- The content of a dossier, in the form a draft and a request are compared in. -/
structure DossierContent where
  coverLetter : Option String
  answers : List DossierAnswer
  checklist : List DossierChecklistItem
  requirementMatrix : List DossierRequirementEvidence
  letterOptions : Option LetterOptions
  emailDraft : Option EmailDraft
  generationProvenance : Option GenerationProvenance
  evidenceClaims : List MaterialEvidenceClaim
  deriving DecidableEq

/-- `ApplicationDossierCreate`. -/
structure ApplicationDossierCreate where
  expectedRevision : Nat
  expectedDraftRevision : Option Nat
  resumeVersionId : Option String
  content : DossierContent

/-- One answer of a draft. -/
structure DossierDraftAnswer where
  clientId : String
  question : String
  answer : String
  deriving DecidableEq

/-- One checklist item of a draft. -/
structure DossierDraftChecklistItem where
  clientId : String
  label : String
  completed : Bool
  deriving DecidableEq

/-- One requirement of a draft. -/
structure DossierDraftRequirementEvidence where
  clientId : String
  requirement : String
  evidenceFactIds : List String
  deriving DecidableEq

/-- `ApplicationDossierDraftContent`. -/
structure ApplicationDossierDraftContent where
  coverLetter : Option String
  answers : List DossierDraftAnswer
  checklist : List DossierDraftChecklistItem
  requirementMatrix : List DossierDraftRequirementEvidence
  letterOptions : Option LetterOptions
  emailDraft : Option EmailDraft
  generationProvenance : Option GenerationProvenance
  evidenceClaims : List MaterialEvidenceClaim
  deriving DecidableEq

/-- `ApplicationDossierDraft`. The content is missing when the stored one is invalid. -/
structure ApplicationDossierDraft where
  revision : Nat
  applicationRevision : Nat
  resumeVersionId : Option String
  resumeDraftId : Option String
  resumeDraftRevision : Option Nat
  content : Option ApplicationDossierDraftContent
  deriving DecidableEq

/-! ### The publishable form of a draft -/

/-- One answer of a draft, if both of its fields are filled. -/
def publishableAnswer (row : DossierDraftAnswer) :
    Except ApplicationError (Option DossierAnswer) :=
  let question := Text.strip row.question
  let answer := Text.strip row.answer
  if ¬(question = "" ↔ answer = "") then
    .error (.validation "Complete both fields in every dossier answer before publishing")
  else if question ≠ "" then .ok (some ⟨question, answer⟩)
  else .ok none

/-- One checklist item of a draft, if it has a label. -/
def publishableChecklistItem (row : DossierDraftChecklistItem) :
    Except ApplicationError (Option DossierChecklistItem) :=
  let label := Text.strip row.label
  if row.completed ∧ label = "" then
    .error (.validation "Completed dossier checklist items require a label")
  else if label ≠ "" then .ok (some ⟨label, row.completed⟩)
  else .ok none

/-- One requirement of a draft. -/
def publishableRequirement (row : DossierDraftRequirementEvidence) :
    Except ApplicationError (Option DossierRequirementEvidence) :=
  let requirement := Text.strip row.requirement
  if requirement = "" ∨ row.evidenceFactIds = [] then
    .error (.validation "Every dossier requirement needs text and confirmed evidence")
  else .ok (some ⟨requirement, row.evidenceFactIds⟩)

/-- `_publishable_draft_content`. -/
def publishableDraftContent (content : Option ApplicationDossierDraftContent) :
    Except ApplicationError DossierContent :=
  match content with
  | none => .error (.validation "The stored dossier draft is invalid")
  | some draft => do
    let answers ← draft.answers.mapM publishableAnswer
    let checklist ← draft.checklist.mapM publishableChecklistItem
    let requirementMatrix ← draft.requirementMatrix.mapM publishableRequirement
    return {
      coverLetter := draft.coverLetter.bind Text.stripOrNone
      answers := answers.reduceOption
      checklist := checklist.reduceOption
      requirementMatrix := requirementMatrix.reduceOption
      letterOptions := draft.letterOptions
      emailDraft := draft.emailDraft
      generationProvenance := draft.generationProvenance
      evidenceClaims := draft.evidenceClaims }

/-- `_requested_dossier_content`. -/
def requestedDossierContent (data : ApplicationDossierCreate) : DossierContent :=
  { data.content with coverLetter := data.content.coverLetter.bind Text.stripOrNone }

end CareerOS
