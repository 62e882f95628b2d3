/-
This file is how the two inputs of a dossier are validated: the content of an autosaved
draft, which may be incomplete, and the request that publishes a dossier. Both share the
options of the letter, the draft of the email, the provenance and the cited claims, and both
bound their evidence and their size. What validation returns it returns again unchanged.

How an identifier or a time is read and written again is a parameter. A letter that leaves
its locale out is read as one that names the locale of its preset.
-/

import CareerOS.Applications.DossierSchemas
import CareerOS.Resumes.Canvas

namespace CareerOS

/-- The readers of identifiers and times, each with what `model_dump(mode="json")` writes. -/
class DossierReaders where
  /-- `UUID`. -/
  uuid : String → Option String
  /-- `AwareDatetime`. -/
  moment : String → Option String
  uuid_uuid : ∀ text id, uuid text = some id → uuid id = some id
  moment_moment : ∀ text written, moment text = some written → moment written = some written

/-! ### Bounds and patterns -/

/-- A text of a bounded number of characters. -/
def boundedText (shortest longest : Nat) (text : String) : Except String Unit := do
  refuseWhen (text.length < shortest) "String is too short"
  refuseWhen (longest < text.length) "String is too long"

/-- A list of a bounded number of items. -/
def boundedItems {Item : Type} (fewest most : Nat) (items : List Item) : Except String Unit := do
  refuseWhen (items.length < fewest) "List is too short"
  refuseWhen (most < items.length) "List is too long"

/-- A check of a value that may be missing. -/
def checkGiven {Value : Type} (check : Value → Except String Unit) :
    Option Value → Except String Unit
  | none => .ok ()
  | some value => check value

/-- A reading of a value that may be missing. -/
def readGiven {Value : Type} (read : Value → Except String Value) :
    Option Value → Except String (Option Value)
  | none => .ok none
  | some value => (read value).map some

/-- `any(ord(c) < 32 or ord(c) == 127 for c in value)`. -/
def hasControls (value : String) : Bool :=
  value.toList.any fun letter => letter.toNat < 32 || letter.toNat == 127

/-- `^[0-9a-f]{64}$`. -/
def isHexDigest (value : String) : Bool :=
  value.length == 64 && value.toList.all fun letter =>
    letter.isDigit || ('a' ≤ letter && letter ≤ 'f')

/-- A letter or digit, and then letters, digits and the marks. -/
def isIdentifier (marks : List Char) (value : String) : Bool :=
  match value.toList with
  | [] => false
  | first :: rest => first.isAlphanum && rest.all fun letter =>
      letter.isAlphanum || marks.contains letter

/-- `PRESETS_BY_ID`: the version and the locale of every preset. -/
def templatePresets : Dict String (Nat × String) := [
  ("software-en", (1, "en")),
  ("cloud-platform-en", (1, "en")),
  ("swiss-software-en", (1, "en")),
  ("swiss-software-de", (1, "de")),
  ("swiss-infrastructure-en", (1, "en")),
  ("swiss-infrastructure-de", (1, "de")),
  ("logistics-de", (1, "de")),
  ("retail-de", (1, "de")),
  ("operational-de", (1, "de"))]

/-- `get_template_preset(id, version).locale`. -/
def templateLocale (id : String) (version : Nat) : Except String String :=
  match Dict.lookup id templatePresets with
  | none => .error s!"Unknown template preset '{id}'"
  | some (known, locale) =>
    if known = version then .ok locale
    else .error s!"Unknown version {version} for template preset '{id}'"

/-! ### The shared materials -/

/-- `LetterOptions.validate_presentation` and the bounds of the fields. -/
def LetterOptions.check (options : LetterOptions) : Except String Unit := do
  boundedText 0 64 options.presetId
  refuseWhen (options.templateVersion < 1) "Input should be greater than or equal to 1"
  checkGiven (boundedText 0 500) options.recipient
  checkGiven (boundedText 0 500) options.subject
  checkGiven (boundedText 0 100) options.date
  refuseWhen (∃ format ∈ options.formats, format ∉ ["pdf", "docx"])
    "Input should be 'pdf' or 'docx'"
  boundedItems 1 2 options.formats
  let locale ← templateLocale options.presetId options.templateVersion
  refuseWhen (options.locale ≠ locale ∨ ¬options.formats.Nodup)
    "Letter template locale or selected formats are inconsistent"
  refuseWhen (∃ value ∈ options.subject.toList ++ options.date.toList, hasControls value = true)
    "Letter field contains invalid controls"

/-- The validators of `EmailDraft`. -/
def EmailDraft.check (draft : EmailDraft) : Except String Unit := do
  refuseWhen (draft.mode ∉ ["short", "motivational"])
    "Input should be 'short' or 'motivational'"
  checkGiven (boundedText 0 320) draft.recipient
  boundedText 0 500 draft.subject
  boundedText 0 20000 draft.body
  boundedItems 0 20 draft.attachmentNames
  refuseWhen (∃ value ∈ draft.subject :: draft.recipient.toList, hasControls value = true)
    "Email header contains invalid controls"
  refuseWhen (¬draft.attachmentNames.Nodup) "Attachment names must be unique"
  refuseWhen (∃ name ∈ draft.attachmentNames, isIdentifier ['_', '.', '-'] name = false ∨
      128 < name.length ∨ ['.', '.'] <:+: name.toList)
    "Attachment name is not a canonical packet filename"

section

variable [DossierReaders]

/-- A field that is a `UUID`. -/
def readUuid (text : String) : Except String String :=
  match DossierReaders.uuid text with
  | some id => .ok id
  | none => .error "Input should be a valid UUID"

/-- A field that is an `AwareDatetime`. -/
def readMoment (text : String) : Except String String :=
  match DossierReaders.moment text with
  | some written => .ok written
  | none => .error "Input should be a valid datetime"

/-- A list of distinct identifiers. -/
def readUuids (fewest most : Nat) (message : String) (texts : List String) :
    Except String (List String) := do
  boundedItems fewest most texts
  let ids ← texts.mapM readUuid
  refuseWhen (¬ids.Nodup) message
  return ids

/-- `GenerationProvenance`. -/
def GenerationProvenance.read (provenance : GenerationProvenance) :
    Except String GenerationProvenance := do
  refuseWhen (provenance.source ∉ ["manual", "external-agent", "local-model"])
    "Input should be 'manual', 'external-agent' or 'local-model'"
  let requestId ← readGiven readUuid provenance.requestId
  let grantId ← readGiven readUuid provenance.grantId
  refuseWhen (∃ value ∈ provenance.inputDigest.toList ++ provenance.payloadDigest.toList,
    isHexDigest value = false) "String should match pattern '^[0-9a-f]\x7b64\x7d$'"
  let generatedAt ← readGiven readMoment provenance.generatedAt
  return { provenance with requestId, grantId, generatedAt }

/-- `MaterialEvidenceClaim`. -/
def MaterialEvidenceClaim.read (claim : MaterialEvidenceClaim) :
    Except String MaterialEvidenceClaim := do
  boundedText 1 100 claim.id
  refuseWhen (isIdentifier ['_', '.', ':', '-'] claim.id = false)
    "String should match pattern '^[A-Za-z0-9][A-Za-z0-9_.:-]*$'"
  boundedText 1 4000 claim.text
  let factIds ← readUuids 1 20 "Material evidence references must be unique" claim.factIds
  return { claim with factIds }

/-- The materials that come with a dossier. -/
structure DossierMaterials where
  letterOptions : Option LetterOptions
  emailDraft : Option EmailDraft
  generationProvenance : Option GenerationProvenance
  evidenceClaims : List MaterialEvidenceClaim

/-- The validation of the materials. -/
def DossierMaterials.read (materials : DossierMaterials) : Except String DossierMaterials := do
  checkGiven LetterOptions.check materials.letterOptions
  checkGiven EmailDraft.check materials.emailDraft
  let generationProvenance ← readGiven GenerationProvenance.read materials.generationProvenance
  boundedItems 0 100 materials.evidenceClaims
  let evidenceClaims ← materials.evidenceClaims.mapM MaterialEvidenceClaim.read
  refuseWhen (¬(evidenceClaims.map MaterialEvidenceClaim.id).Nodup)
    "Material claim identities must be unique"
  return { materials with generationProvenance, evidenceClaims }

/-- The bounds on the evidence of all requirements. -/
def checkEvidence (evidenceIds : List String) : Except String Unit := do
  refuseWhen (maxDossierEvidenceLinks < evidenceIds.length)
    "dossier cannot contain more than 100 evidence links"
  refuseWhen (maxDossierUniqueFacts < evidenceIds.dedup.length)
    "dossier cannot reference more than 50 unique facts"

/-! ### The draft -/

/-- `normalize_client_id`. -/
def readClientId (clientId : String) : Except String String := do
  boundedText 1 100 clientId
  refuseWhen (Text.strip clientId = "") "client_id must not be blank"
  return Text.strip clientId

/-- The validation of one answer of a draft. -/
def DossierDraftAnswer.read (row : DossierDraftAnswer) : Except String DossierDraftAnswer := do
  let clientId ← readClientId row.clientId
  boundedText 0 1000 row.question
  boundedText 0 20000 row.answer
  return { row with clientId }

/-- The validation of one checklist item of a draft. -/
def DossierDraftChecklistItem.read (row : DossierDraftChecklistItem) :
    Except String DossierDraftChecklistItem := do
  let clientId ← readClientId row.clientId
  boundedText 0 500 row.label
  return { row with clientId }

/-- The validation of one requirement of a draft. -/
def DossierDraftRequirementEvidence.read (row : DossierDraftRequirementEvidence) :
    Except String DossierDraftRequirementEvidence := do
  let clientId ← readClientId row.clientId
  boundedText 0 2000 row.requirement
  let evidenceFactIds ← readUuids 0 10 "Evidence fact ids must be unique per requirement"
    row.evidenceFactIds
  return { row with clientId, evidenceFactIds }

namespace ApplicationDossierDraftContent

/-- The materials of a draft. -/
def materials (content : ApplicationDossierDraftContent) : DossierMaterials where
  letterOptions := content.letterOptions
  emailDraft := content.emailDraft
  generationProvenance := content.generationProvenance
  evidenceClaims := content.evidenceClaims

/-- `content.model_dump(mode="json")`. -/
def modelDump (content : ApplicationDossierDraftContent) : Json := .obj [
  ("cover_letter", .ofText content.coverLetter),
  ("answers", .arr (content.answers.map fun row => .obj [
    ("client_id", .str row.clientId),
    ("question", .str row.question),
    ("answer", .str row.answer)])),
  ("checklist", .arr (content.checklist.map fun row => .obj [
    ("client_id", .str row.clientId),
    ("label", .str row.label),
    ("completed", .bool row.completed)])),
  ("requirement_matrix", .arr (content.requirementMatrix.map fun row => .obj [
    ("client_id", .str row.clientId),
    ("requirement", .str row.requirement),
    ("evidence_fact_ids", .ofTexts row.evidenceFactIds)])),
  ("letter_options", (content.letterOptions.map LetterOptions.modelDump).getD .null),
  ("email_draft", (content.emailDraft.map EmailDraft.modelDump).getD .null),
  ("generation_provenance",
    (content.generationProvenance.map GenerationProvenance.modelDump).getD .null),
  ("evidence_claims", .arr (content.evidenceClaims.map MaterialEvidenceClaim.modelDump))]

/-- `bound_aggregate_size` of a draft, after the identities of the claims. -/
def checkAggregate (content : ApplicationDossierDraftContent) : Except String Unit := do
  refuseWhen (¬(content.answers.map DossierDraftAnswer.clientId).Nodup)
    "dossier draft answer client ids must be unique"
  refuseWhen (¬(content.checklist.map DossierDraftChecklistItem.clientId).Nodup)
    "dossier draft checklist client ids must be unique"
  refuseWhen (¬(content.requirementMatrix.map DossierDraftRequirementEvidence.clientId).Nodup)
    "dossier draft requirement client ids must be unique"
  checkEvidence (content.requirementMatrix.flatMap DossierDraftRequirementEvidence.evidenceFactIds)
  refuseWhen (maxDossierInputBytes < content.modelDump.encodedSize)
    "dossier draft input exceeds 262144 bytes"

/-- `ApplicationDossierDraftContent.model_validate`. -/
def read (content : ApplicationDossierDraftContent) :
    Except String ApplicationDossierDraftContent := do
  checkGiven (boundedText 0 30000) content.coverLetter
  boundedItems 0 25 content.answers
  let answers ← content.answers.mapM DossierDraftAnswer.read
  boundedItems 0 50 content.checklist
  let checklist ← content.checklist.mapM DossierDraftChecklistItem.read
  boundedItems 1 25 content.requirementMatrix
  let requirementMatrix ← content.requirementMatrix.mapM DossierDraftRequirementEvidence.read
  let materials ← content.materials.read
  let stored : ApplicationDossierDraftContent :=
    { coverLetter := content.coverLetter, answers, checklist, requirementMatrix
      letterOptions := materials.letterOptions
      emailDraft := materials.emailDraft
      generationProvenance := materials.generationProvenance
      evidenceClaims := materials.evidenceClaims }
  stored.checkAggregate
  return stored

end ApplicationDossierDraftContent

/-! ### The request -/

/-- `DossierAnswer.normalize_text`. -/
def DossierAnswer.read (row : DossierAnswer) : Except String DossierAnswer := do
  boundedText 1 1000 row.question
  boundedText 1 20000 row.answer
  refuseWhen (Text.strip row.question = "") "question must not be blank"
  refuseWhen (Text.strip row.answer = "") "answer must not be blank"
  return ⟨Text.strip row.question, Text.strip row.answer⟩

/-- `DossierChecklistItem.normalize_label`. -/
def DossierChecklistItem.read (row : DossierChecklistItem) :
    Except String DossierChecklistItem := do
  boundedText 1 500 row.label
  refuseWhen (Text.strip row.label = "") "label must not be blank"
  return ⟨Text.strip row.label, row.completed⟩

/-- The validators of `DossierRequirementEvidence`. -/
def DossierRequirementEvidence.read (row : DossierRequirementEvidence) :
    Except String DossierRequirementEvidence := do
  boundedText 1 2000 row.requirement
  refuseWhen (Text.strip row.requirement = "") "requirement must not be blank"
  let evidenceFactIds ← readUuids 1 10 "Evidence fact ids must be unique per requirement"
    row.evidenceFactIds
  return ⟨Text.strip row.requirement, evidenceFactIds⟩

/-- The materials of a dossier. -/
def DossierContent.materials (content : DossierContent) : DossierMaterials where
  letterOptions := content.letterOptions
  emailDraft := content.emailDraft
  generationProvenance := content.generationProvenance
  evidenceClaims := content.evidenceClaims

/-- The validation of the content of a request. -/
def DossierContent.read (content : DossierContent) : Except String DossierContent := do
  checkGiven (boundedText 0 30000) content.coverLetter
  boundedItems 0 25 content.answers
  let answers ← content.answers.mapM DossierAnswer.read
  boundedItems 0 50 content.checklist
  let checklist ← content.checklist.mapM DossierChecklistItem.read
  boundedItems 1 25 content.requirementMatrix
  let requirementMatrix ← content.requirementMatrix.mapM DossierRequirementEvidence.read
  let materials ← content.materials.read
  checkEvidence (requirementMatrix.flatMap DossierRequirementEvidence.evidenceFactIds)
  return {
    coverLetter := content.coverLetter.bind Text.stripOrNone
    answers, checklist, requirementMatrix
    letterOptions := materials.letterOptions
    emailDraft := materials.emailDraft
    generationProvenance := materials.generationProvenance
    evidenceClaims := materials.evidenceClaims }

namespace ApplicationDossierCreate

/-- `data.model_dump(mode="json")`. -/
def modelDump (data : ApplicationDossierCreate) : Json := .obj [
  ("expected_revision", .int data.expectedRevision),
  ("expected_draft_revision",
    (data.expectedDraftRevision.map fun revision : Nat => Json.int revision).getD .null),
  ("resume_version_id", .ofText data.resumeVersionId),
  ("cover_letter", .ofText data.content.coverLetter),
  ("answers", .arr (data.content.answers.map DossierAnswer.modelDump)),
  ("checklist", .arr (data.content.checklist.map DossierChecklistItem.modelDump)),
  ("requirement_matrix",
    .arr (data.content.requirementMatrix.map DossierRequirementEvidence.modelDump)),
  ("letter_options", (data.content.letterOptions.map LetterOptions.modelDump).getD .null),
  ("email_draft", (data.content.emailDraft.map EmailDraft.modelDump).getD .null),
  ("generation_provenance",
    (data.content.generationProvenance.map GenerationProvenance.modelDump).getD .null),
  ("evidence_claims", .arr (data.content.evidenceClaims.map MaterialEvidenceClaim.modelDump))]

/-- `ApplicationDossierCreate.model_validate`. -/
def read (data : ApplicationDossierCreate) : Except String ApplicationDossierCreate := do
  refuseWhen (data.expectedRevision < 1) "Input should be greater than or equal to 1"
  refuseWhen (∃ revision ∈ data.expectedDraftRevision, revision < 1)
    "Input should be greater than or equal to 1"
  let resumeVersionId ← readGiven readUuid data.resumeVersionId
  let content ← data.content.read
  let request : ApplicationDossierCreate := { data with resumeVersionId, content }
  refuseWhen (maxDossierInputBytes < request.modelDump.encodedSize)
    "dossier input exceeds 262144 bytes"
  return request

end ApplicationDossierCreate

/-! ### What is read is read again as it is -/

variable {fewest most : Nat}

section

omit [DossierReaders]

theorem boundedText_ok_iff {shortest longest : Nat} {text : String} {outcome : Unit} :
    boundedText shortest longest text = .ok outcome ↔
      shortest ≤ text.length ∧ text.length ≤ longest := by
  simp only [boundedText, bind_ok_iff, refuseWhen_ok_iff, not_lt]
  constructor
  · rintro ⟨-, enough, few⟩
    exact ⟨enough, few⟩
  · rintro ⟨enough, few⟩
    exact ⟨(), enough, few⟩

theorem boundedItems_ok_iff {Item : Type} {items : List Item} {outcome : Unit} :
    boundedItems fewest most items = .ok outcome ↔
      fewest ≤ items.length ∧ items.length ≤ most := by
  simp only [boundedItems, bind_ok_iff, refuseWhen_ok_iff, not_lt]
  constructor
  · rintro ⟨-, enough, few⟩
    exact ⟨enough, few⟩
  · rintro ⟨enough, few⟩
    exact ⟨(), enough, few⟩

/-- A list of values that are read once is read again as it is. -/
theorem mapM_again {Item : Type} {read : Item → Except String Item}
    (again : ∀ {item kept}, read item = .ok kept → read kept = .ok kept)
    {items kept : List Item} (mapped : items.mapM read = .ok kept) :
    kept.mapM read = .ok kept := by
  refine mapM_self fun item member => ?_
  obtain ⟨given, -, read⟩ := (mem_of_mapM_ok mapped).mp member
  exact again read

theorem length_of_mapM {First Second : Type} {step : First → Except String Second}
    {inputs : List First} {outputs : List Second} (mapped : inputs.mapM step = .ok outputs) :
    outputs.length = inputs.length :=
  (mapM_ok_iff_forall₂.mp mapped).length_eq.symm

theorem readGiven_again {Value : Type} {read : Value → Except String Value}
    (again : ∀ {value kept}, read value = .ok kept → read kept = .ok kept)
    {value kept : Option Value} (given : readGiven read value = .ok kept) :
    readGiven read kept = .ok kept := by
  cases value with
  | none =>
    obtain rfl := Except.ok.inj given
    rfl
  | some value =>
    obtain ⟨written, read, rfl⟩ := map_ok_iff.mp given
    exact map_ok_iff.mpr ⟨written, again read, rfl⟩

end

theorem readUuid_again {text id : String} (read : readUuid text = .ok id) :
    readUuid id = .ok id := by
  unfold readUuid at read ⊢
  split at read
  · rename_i written known
    obtain rfl := Except.ok.inj read
    rw [DossierReaders.uuid_uuid _ _ known]
  · cases read

theorem readMoment_again {text written : String} (read : readMoment text = .ok written) :
    readMoment written = .ok written := by
  unfold readMoment at read ⊢
  split at read
  · rename_i kept known
    obtain rfl := Except.ok.inj read
    rw [DossierReaders.moment_moment _ _ known]
  · cases read

theorem readUuids_ok_iff {message : String} {texts ids : List String} :
    readUuids fewest most message texts = .ok ids ↔
      (fewest ≤ texts.length ∧ texts.length ≤ most) ∧ texts.mapM readUuid = .ok ids ∧
        ids.Nodup := by
  simp only [readUuids, bind_ok_iff, boundedItems_ok_iff, refuseWhen_ok_iff, pure_ok_iff, not_not]
  constructor
  · rintro ⟨_, bounded, ids, mapped, _, distinct, rfl⟩
    exact ⟨bounded, mapped, distinct⟩
  · rintro ⟨bounded, mapped, distinct⟩
    exact ⟨(), bounded, ids, mapped, (), distinct, rfl⟩

theorem readUuids_again {message : String} {texts ids : List String}
    (read : readUuids fewest most message texts = .ok ids) :
    readUuids fewest most message ids = .ok ids := by
  obtain ⟨bounded, mapped, distinct⟩ := readUuids_ok_iff.mp read
  exact readUuids_ok_iff.mpr
    ⟨by rwa [length_of_mapM mapped], mapM_again readUuid_again mapped, distinct⟩

theorem GenerationProvenance.read_again {provenance kept : GenerationProvenance}
    (read : provenance.read = .ok kept) : kept.read = .ok kept := by
  simp only [GenerationProvenance.read, bind_ok_iff, refuseWhen_ok_iff, pure_ok_iff] at read ⊢
  obtain ⟨_, known, requestId, request, grantId, grant, _, digests, generatedAt, moment, rfl⟩ :=
    read
  exact ⟨(), known, requestId, readGiven_again readUuid_again request, grantId,
    readGiven_again readUuid_again grant, (), digests, generatedAt,
    readGiven_again readMoment_again moment, rfl⟩

theorem MaterialEvidenceClaim.read_again {claim kept : MaterialEvidenceClaim}
    (read : claim.read = .ok kept) : kept.read = .ok kept := by
  simp only [MaterialEvidenceClaim.read, bind_ok_iff, refuseWhen_ok_iff, pure_ok_iff] at read ⊢
  obtain ⟨_, short, _, pattern, _, bounded, factIds, ids, rfl⟩ := read
  exact ⟨(), short, (), pattern, (), bounded, factIds, readUuids_again ids, rfl⟩

theorem DossierMaterials.read_again {materials kept : DossierMaterials}
    (read : materials.read = .ok kept) : kept.read = .ok kept := by
  simp only [DossierMaterials.read, bind_ok_iff, refuseWhen_ok_iff, boundedItems_ok_iff,
    pure_ok_iff] at read ⊢
  obtain ⟨_, letter, _, email, provenance, generated, _, few, claims, mapped, _, distinct, rfl⟩ :=
    read
  exact ⟨(), letter, (), email, provenance,
    readGiven_again GenerationProvenance.read_again generated, (),
    by rwa [length_of_mapM mapped], claims, mapM_again MaterialEvidenceClaim.read_again mapped, (),
    distinct, rfl⟩

omit [DossierReaders] in
theorem readClientId_again {clientId kept : String} (read : readClientId clientId = .ok kept) :
    readClientId kept = .ok kept := by
  simp only [readClientId, bind_ok_iff, refuseWhen_ok_iff, boundedText_ok_iff, pure_ok_iff]
    at read ⊢
  obtain ⟨_, ⟨-, short⟩, _, solid, rfl⟩ := read
  refine ⟨(), ⟨Text.length_pos_of_ne solid, (Text.length_strip_le clientId).trans short⟩, (), ?_,
    Text.strip_strip clientId⟩
  rwa [Text.strip_strip]

omit [DossierReaders] in
theorem DossierDraftAnswer.read_again {row kept : DossierDraftAnswer}
    (read : row.read = .ok kept) : kept.read = .ok kept := by
  simp only [DossierDraftAnswer.read, bind_ok_iff, pure_ok_iff] at read ⊢
  obtain ⟨clientId, identified, _, question, _, answer, rfl⟩ := read
  exact ⟨clientId, readClientId_again identified, (), question, (), answer, rfl⟩

omit [DossierReaders] in
theorem DossierDraftChecklistItem.read_again {row kept : DossierDraftChecklistItem}
    (read : row.read = .ok kept) : kept.read = .ok kept := by
  simp only [DossierDraftChecklistItem.read, bind_ok_iff, pure_ok_iff] at read ⊢
  obtain ⟨clientId, identified, _, label, rfl⟩ := read
  exact ⟨clientId, readClientId_again identified, (), label, rfl⟩

theorem DossierDraftRequirementEvidence.read_again {row kept : DossierDraftRequirementEvidence}
    (read : row.read = .ok kept) : kept.read = .ok kept := by
  simp only [DossierDraftRequirementEvidence.read, bind_ok_iff, pure_ok_iff] at read ⊢
  obtain ⟨clientId, identified, _, requirement, ids, evidence, rfl⟩ := read
  exact ⟨clientId, readClientId_again identified, (), requirement, ids, readUuids_again evidence,
    rfl⟩

/-- A stored draft is read again as it is. -/
theorem ApplicationDossierDraftContent.read_again {content kept : ApplicationDossierDraftContent}
    (read : content.read = .ok kept) : kept.read = .ok kept := by
  simp only [ApplicationDossierDraftContent.read, bind_ok_iff, boundedItems_ok_iff, pure_ok_iff]
    at read ⊢
  obtain ⟨_, cover, _, fewAnswers, answers, mappedAnswers, _, fewItems, checklist, mappedItems, _,
    fewRequirements, requirements, mappedRequirements, materials, read, _, aggregate, rfl⟩ := read
  exact ⟨(), cover, (), by rwa [length_of_mapM mappedAnswers], answers,
    mapM_again DossierDraftAnswer.read_again mappedAnswers, (),
    by rwa [length_of_mapM mappedItems], checklist,
    mapM_again DossierDraftChecklistItem.read_again mappedItems, (),
    by rwa [length_of_mapM mappedRequirements], requirements,
    mapM_again DossierDraftRequirementEvidence.read_again mappedRequirements, materials,
    DossierMaterials.read_again read, (), aggregate, rfl⟩

/-- What a stored draft satisfies. -/
structure StoredDraft (draft : ApplicationDossierDraftContent) : Prop where
  coverLetter : checkGiven (boundedText 0 30000) draft.coverLetter = .ok ()
  answers : draft.answers.length ≤ 25
  answerTexts : ∀ row ∈ draft.answers, row.question.length ≤ 1000 ∧ row.answer.length ≤ 20000
  checklist : draft.checklist.length ≤ 50
  labels : ∀ row ∈ draft.checklist, row.label.length ≤ 500
  requirements : 1 ≤ draft.requirementMatrix.length ∧ draft.requirementMatrix.length ≤ 25
  requirementTexts : ∀ row ∈ draft.requirementMatrix, row.requirement.length ≤ 2000 ∧
    row.evidenceFactIds.length ≤ 10 ∧
    row.evidenceFactIds.mapM readUuid = .ok row.evidenceFactIds ∧ row.evidenceFactIds.Nodup
  materials : draft.materials.read = .ok draft.materials
  evidence : checkEvidence (draft.requirementMatrix.flatMap
    DossierDraftRequirementEvidence.evidenceFactIds) = .ok ()

theorem storedDraft_of_read {content draft : ApplicationDossierDraftContent}
    (read : content.read = .ok draft) : StoredDraft draft := by
  simp only [ApplicationDossierDraftContent.read, bind_ok_iff, boundedItems_ok_iff, pure_ok_iff]
    at read
  obtain ⟨_, cover, _, fewAnswers, answers, mappedAnswers, _, fewItems, checklist, mappedItems, _,
    fewRequirements, requirements, mappedRequirements, materials, read, _, aggregate, rfl⟩ := read
  simp only [ApplicationDossierDraftContent.checkAggregate, bind_ok_iff] at aggregate
  obtain ⟨_, -, _, -, _, -, _, evidence, -⟩ := aggregate
  refine ⟨cover, by rw [length_of_mapM mappedAnswers]; exact fewAnswers.2, ?_,
    by rw [length_of_mapM mappedItems]; exact fewItems.2, ?_,
    by rwa [length_of_mapM mappedRequirements], ?_, DossierMaterials.read_again read, evidence⟩
  · intro row member
    obtain ⟨given, -, stored⟩ := (mem_of_mapM_ok mappedAnswers).mp member
    simp only [DossierDraftAnswer.read, bind_ok_iff, boundedText_ok_iff, pure_ok_iff] at stored
    obtain ⟨clientId, -, _, question, _, answer, rfl⟩ := stored
    exact ⟨question.2, answer.2⟩
  · intro row member
    obtain ⟨given, -, stored⟩ := (mem_of_mapM_ok mappedItems).mp member
    simp only [DossierDraftChecklistItem.read, bind_ok_iff, boundedText_ok_iff, pure_ok_iff]
      at stored
    obtain ⟨clientId, -, _, label, rfl⟩ := stored
    exact label.2
  · intro row member
    obtain ⟨given, -, stored⟩ := (mem_of_mapM_ok mappedRequirements).mp member
    simp only [DossierDraftRequirementEvidence.read, bind_ok_iff, boundedText_ok_iff, pure_ok_iff]
      at stored
    obtain ⟨clientId, -, _, requirement, ids, evidence, rfl⟩ := stored
    obtain ⟨bounded, mapped, distinct⟩ := readUuids_ok_iff.mp (readUuids_again evidence)
    exact ⟨requirement.2, bounded.2, mapped, distinct⟩

end

end CareerOS
