/-
This file is a reply of the career coach from the model call to the stored message: the attempts
of the model, the answer that the server writes of the claims, the receipt of the execution, and
the check by which a message is shown again.

An accepted answer survives every step unchanged, so its message is shown. Where no other answer
has the same fingerprint, a message that is shown with the same receipt says the same. It need
not be stored in the same way: what is stored is read by the contract, which takes defaults and
reads scalars laxly.
-/

import CareerOS.Career.CoachAnswers
import CareerOS.Library.Edges
import CareerOS.Library.Split
import CareerOS.Library.Words
import CareerOS.Matching.Attestation

namespace CareerOS

namespace Coach

/-- What a local model returns for a prompt. -/
structure Generated where
  payload : Json
  modelId : String

/-- Why there is no reply. -/
inductive CoachFailure
  /-- The answers of the model were not accepted. -/
  | validation (issues : List GroundingIssue)
  | unavailable
  /-- Its citations are not those of the selection. -/
  | citations (message : String)
  deriving DecidableEq

/-- The digest of an output. -/
class OutputFingerprint where
  fingerprint : Json → String

/-- A career fact that was selected, with what is written of its type and payload. -/
structure CareerFact where
  id : String
  text : String
  verificationStatus : Json

/-- A job that was selected, with what is written of its listing. -/
structure CoachJob where
  id : Int
  text : String

/-- `CoachMessage`, as an assistant stores it. -/
structure CoachMessage where
  content : String
  citedFactIds : Json
  citedJobIds : Json
  modelId : Option String
  generationMetadata : Json

section

variable [LaxScalars] [CoachTables] [TextTables] [CaseTables] [OutputFingerprint]

/-! ### The model call -/

/-- `fingerprint_output`. -/
def fingerprintOutput (result : CoachResult) : String :=
  OutputFingerprint.fingerprint result.dump

/-- `"\n".join(claim.text.strip() for claim in claims)`. -/
def serverAnswer (claims : List GroundedClaim) : String :=
  String.ofList (['\n'].intercalate (claims.map fun claim => Text.stripList claim.text.toList))

/-- What is made of a payload. -/
inductive Judgement
  /-- An exception that is not a `ValidationError`. -/
  | raised
  | issues (found : List GroundingIssue)
  | accepted (output : CoachResult)

/-- The validation of one payload: it is read, the server writes the answer, it is read again, and
it is checked against the documents. -/
def judge (documents : List Retrieval.EvidenceDocument) (payload : Json) : Judgement :=
  match CoachResult.read payload with
  | .error .type => .raised
  | .error .validation => .issues [⟨.schemaInvalid, CoachTables.schemaMessages payload⟩]
  | .ok proposed =>
    let answered := proposed.dumpWith (serverAnswer proposed.claims)
    match CoachResult.read answered with
    | .error .type => .raised
    | .error .validation => .issues [⟨.schemaInvalid, CoachTables.schemaMessages answered⟩]
    | .ok output =>
      match validateGrounding documents output with
      | [] => .accepted output
      | found => .issues found

/-- An accepted attempt. -/
structure Attempted where
  output : CoachResult
  modelId : String
  repairCount : Nat

/-- The loop over the attempts, with what the model returns at each of them and the number of
repairs that are left. -/
def attempts (documents : List Retrieval.EvidenceDocument) (attempt : Nat) :
    Nat → List (Option Generated) → Except CoachFailure Attempted
  | _, [] => .error .unavailable
  | 0, none :: _ => .error .unavailable
  | left + 1, none :: replies => attempts documents (attempt + 1) left replies
  | left, some generated :: replies =>
    match judge documents generated.payload with
    | .raised => .error .unavailable
    | .accepted output => .ok ⟨output, generated.modelId, attempt⟩
    | .issues found =>
      match left with
      | 0 => .error (.validation found)
      | left + 1 => attempts documents (attempt + 1) left replies

/-- `OrchestrationResult`, with the documents that were sent and the execution that is recorded. -/
structure Accepted where
  output : CoachResult
  repairCount : Nat
  documents : List Retrieval.EvidenceDocument
  execution : AIExecution String

variable (Score : Type) [Retrieval.Bm25Scores Score] [LinearOrder Score]

/-- `LocalAIOrchestrator.execute` of the coach. -/
def execute (prompt : String) (evidence : List Retrieval.EvidenceDocument) (userId : Nat)
    (executionId : String) (replies : List (Option Generated)) : Except CoachFailure Accepted := do
  let bundle : Retrieval.RetrievalBundle Score ←
    (Retrieval.retrieveEvidence prompt evidence 12000 20 false).mapError fun _ => .unavailable
  let documents := bundle.ranked.map Retrieval.RankedEvidence.document
  let attempted ← attempts documents 0 1 replies
  refuseWhen (attempted.modelId = "" ∨ 240 < attempted.modelId.length) .unavailable
  return {
    output := attempted.output
    repairCount := attempted.repairCount
    documents
    execution := {
      id := executionId
      userId := some userId
      task := "coach"
      contractVersion := "1.0.0"
      modelId := attempted.modelId
      outputFingerprint := some (fingerprintOutput attempted.output)
      rowFingerprints := []
      rowInputFingerprints := []
      accepted := true } }

/-! ### The reply -/

/-- `_evidence`. -/
def coachEvidence (facts : List CareerFact) (jobs : List CoachJob) :
    List Retrieval.EvidenceDocument :=
  facts.map (fun fact => ⟨fact.id, "fact", fact.text,
    .obj [("verification_status", fact.verificationStatus)], .obj []⟩) ++
  jobs.map fun job => ⟨toString job.id, "job", job.text, .obj [], .obj []⟩

/-- The message that `reply` stores of an accepted output. -/
def assistantMessage (providerModelId : String) (facts : List CareerFact) (jobs : List CoachJob)
    (accepted : Accepted) (usage : Json) : Except CoachFailure CoachMessage := do
  let result := accepted.output
  refuseWhen (¬result.factCitations ⊆ facts.map CareerFact.id)
    (.citations "Local model returned unsupported career-fact citations")
  refuseWhen (¬result.jobCitations ⊆ jobs.map CoachJob.id)
    (.citations "Local model returned unsupported job citations")
  refuseWhen ((facts.isEmpty = false ∨ jobs.isEmpty = false) ∧ result.factCitations = [] ∧
      result.jobCitations = [])
    (.citations "Local model answer is not grounded in local evidence")
  return {
    content := Text.slice (Text.strip result.answer) 30000
    citedFactIds := Json.ofTexts result.factCitations
    citedJobIds := .arr (result.jobCitations.map .int)
    modelId := some providerModelId
    generationMetadata := .obj [
      ("mode", .str "local"),
      ("career_fact_count", .int facts.length),
      ("job_count", .int jobs.length),
      ("claim_count", .int result.claims.length),
      ("claims", .arr (result.claims.map GroundedClaim.dump)),
      ("confidence", .float result.confidence),
      ("missing_evidence", Json.ofTexts result.missingEvidence),
      ("provenance", .str "local_model_validated"),
      ("contract_version", .str "1.0.0"),
      ("execution_id", .str accepted.execution.id),
      ("output_fingerprint", .str (fingerprintOutput result)),
      ("repair_count", .int accepted.repairCount),
      ("usage", usage)] }

/-- `CareerCoachService.reply`, from the selection to the stored message. -/
def reply (providerModelId prompt : String) (facts : List CareerFact) (jobs : List CoachJob)
    (userId : Nat) (executionId : String) (replies : List (Option Generated)) (usage : Json) :
    Except CoachFailure (Accepted × CoachMessage) := do
  let accepted ← execute Score prompt (coachEvidence facts jobs) userId executionId replies
  let message ← assistantMessage providerModelId facts jobs accepted usage
  return (accepted, message)

/-! ### Showing a message -/

/-- The answer that is put together of a message and its metadata. -/
def CoachMessage.reassembled (message : CoachMessage) (metadata : Dict String Json) : Json :=
  .obj [("answer", .str message.content), ("claims", fieldOr .null "claims" metadata),
    ("fact_citations", message.citedFactIds), ("job_citations", message.citedJobIds),
    ("confidence", fieldOr .null "confidence" metadata),
    ("missing_evidence", fieldOr .null "missing_evidence" metadata)]

/-- The receipt of a message belongs to an execution of the user. -/
def receiptAgrees (message : CoachMessage) (metadata : Dict String Json)
    (execution : AIExecution String) (userId : Nat) (executionId outputFingerprint : String) :
    Bool :=
  fieldOr .null "provenance" metadata = .str "local_model_validated" &&
    execution.id = executionId && execution.userId = some userId && execution.task = "coach" &&
    execution.accepted && execution.contractVersion = "1.0.0" &&
    fieldOr .null "contract_version" metadata = .str "1.0.0" &&
    message.modelId = some execution.modelId &&
    execution.outputFingerprint = some outputFingerprint

/-- `_verified_assistant_payload`. -/
def verifiedAssistantPayload (message : CoachMessage) (execution : Option (AIExecution String))
    (userId : Nat) : Bool :=
  match message.generationMetadata, execution with
  | .obj metadata, some execution =>
    match fieldOr .null "execution_id" metadata, fieldOr .null "output_fingerprint" metadata with
    | .str executionId, .str outputFingerprint =>
      receiptAgrees message metadata execution userId executionId outputFingerprint &&
        match CoachResult.read (message.reassembled metadata) with
        | .ok reconstructed => fingerprintOutput reconstructed = outputFingerprint
        | .error _ => false
    | _, _ => false
  | _, _ => false

/-- The assistant messages of `_visible_messages`. -/
def visibleMessages (executions : List (AIExecution String)) (userId : Nat)
    (messages : List CoachMessage) : List CoachMessage :=
  messages.filter fun message =>
    let metadata := match message.generationMetadata with
      | .obj metadata => metadata
      | _ => []
    let execution := match fieldOr .null "execution_id" metadata with
      | .str executionId => executions.find? fun execution => execution.id = executionId
      | _ => none
    verifiedAssistantPayload message execution userId

/-! ### What is accepted -/

variable {result : CoachResult}

omit [CoachTables] [TextTables] [CaseTables] [OutputFingerprint] in
/-- The answer that is read of the fields of a result has these fields. -/
theorem ofFields_some {answer : String} {claims : List GroundedClaim}
    {factCitations : List String} {jobCitations : List Int} {given : Json}
    {missingEvidence : List String}
    (made : CoachResult.ofFields answer claims factCitations jobCitations given missingEvidence =
      some result) :
    result.answer = answer ∧ result.claims = claims ∧ result.factCitations = factCitations ∧
      result.jobCitations = jobCitations ∧
      LaxScalars.readFloat given = some result.confidence ∧
      result.missingEvidence = missingEvidence := by
  unfold CoachResult.ofFields at made
  split at made
  · cases made
  · rename_i confidence isFloat
    split_ifs at made with valid
    cases Option.some.inj made
    exact ⟨rfl, rfl, rfl, rfl, isFloat, rfl⟩

/-- A message and its metadata say what a result says. -/
structure Says (result : CoachResult) (content : String)
    (claims factCitations jobCitations confidence missingEvidence : Json) : Prop where
  content : content = result.answer
  claims : readClaims claims = some result.claims
  factCitations : readTexts factCitations = some result.factCitations
  jobCitations : readNumbers jobCitations = some result.jobCitations
  confidence : LaxScalars.readFloat confidence = some result.confidence
  missingEvidence : readTexts missingEvidence = some result.missingEvidence

omit [TextTables] [CaseTables] [OutputFingerprint] in
/-- The fields that an answer is read of say what it says. -/
theorem says_of_read {content : String}
    {claims factCitations jobCitations confidence missingEvidence : Json}
    (read : CoachResult.read (.obj [("answer", .str content), ("claims", claims),
      ("fact_citations", factCitations), ("job_citations", jobCitations),
      ("confidence", confidence), ("missing_evidence", missingEvidence)]) = .ok result) :
    Says result content claims factCitations jobCitations confidence missingEvidence := by
  rw [CoachResult.read_obj rfl rfl] at read
  cases fields : CoachResult.readFields (.obj [("answer", .str content), ("claims", claims),
      ("fact_citations", factCitations), ("job_citations", jobCitations),
      ("confidence", confidence), ("missing_evidence", missingEvidence)]) with
  | none =>
    rw [fields] at read
    cases read
  | some found =>
    rw [fields] at read
    cases Except.ok.inj read
    unfold CoachResult.readFields at fields
    dsimp only at fields
    split_ifs at fields with foreign
    obtain ⟨_, same, fields⟩ := Option.bind_eq_some_iff.mp fields
    cases Option.some.inj same
    obtain ⟨readClaims, isClaims, fields⟩ := Option.bind_eq_some_iff.mp fields
    obtain ⟨facts, isFacts, fields⟩ := Option.bind_eq_some_iff.mp fields
    obtain ⟨jobs, isJobs, fields⟩ := Option.bind_eq_some_iff.mp fields
    obtain ⟨given, same, fields⟩ := Option.bind_eq_some_iff.mp fields
    cases Option.some.inj same
    obtain ⟨missing, isMissing, fields⟩ := Option.bind_eq_some_iff.mp fields
    obtain ⟨rfl, rfl, rfl, rfl, isFloat, rfl⟩ := ofFields_some fields
    exact ⟨rfl, isClaims, isFacts, isJobs, isFloat, isMissing⟩

variable {documents : List Retrieval.EvidenceDocument}

omit [OutputFingerprint] in
/-- What is accepted is grounded, and its answer is what the server wrote. -/
theorem accepted_of_judge {payload : Json}
    {output : CoachResult} (judged : judge documents payload = .accepted output) :
    validateGrounding documents output = [] ∧ output.answer = serverAnswer output.claims := by
  unfold judge at judged
  cases proposal : CoachResult.read payload with
  | error failure =>
    rw [proposal] at judged
    cases failure <;> cases judged
  | ok proposed =>
    rw [proposal] at judged
    dsimp only at judged
    cases rewritten : CoachResult.read
        (proposed.dumpWith (serverAnswer proposed.claims)) with
    | error failure =>
      rw [rewritten] at judged
      cases failure <;> cases judged
    | ok written =>
      rw [rewritten] at judged
      dsimp only at judged
      cases issues : validateGrounding documents written with
      | cons issue rest =>
        rw [issues] at judged
        cases judged
      | nil =>
        rw [issues] at judged
        cases judged
        have said := says_of_read rewritten
        have claims := said.claims
        rw [readClaims_dump] at claims
        exact ⟨issues, said.content.symm.trans (congrArg serverAnswer (Option.some.inj claims))⟩

omit [OutputFingerprint] in
/-- What the loop returns was accepted of one of the payloads. -/
theorem exists_of_attempts {attempt left : Nat}
    {replies : List (Option Generated)} {attempted : Attempted}
    (found : attempts documents attempt left replies = .ok attempted) :
    ∃ generated, some generated ∈ replies ∧ generated.modelId = attempted.modelId ∧
      judge documents generated.payload = .accepted attempted.output := by
  induction replies generalizing attempt left with
  | nil => cases left <;> cases found
  | cons reply replies inductionHypothesis =>
    have later : ∀ {attempt left : Nat}, attempts documents attempt left replies = .ok attempted →
        ∃ generated, some generated ∈ reply :: replies ∧ generated.modelId = attempted.modelId ∧
          judge documents generated.payload = .accepted attempted.output := by
      intro attempt left found
      obtain ⟨generated, member, rest⟩ := inductionHypothesis found
      exact ⟨generated, List.mem_cons_of_mem _ member, rest⟩
    cases reply with
    | none =>
      cases left with
      | zero => cases found
      | succ left => exact later found
    | some generated =>
      cases judged : judge documents generated.payload with
      | raised =>
        unfold attempts at found
        rw [judged] at found
        cases found
      | accepted output =>
        unfold attempts at found
        rw [judged] at found
        cases Except.ok.inj found
        exact ⟨generated, List.mem_cons_self, rfl, judged⟩
      | issues found' =>
        unfold attempts at found
        rw [judged] at found
        cases left with
        | zero => cases found
        | succ left => exact later found

/-! ### Grounding -/

omit [LaxScalars] [CoachTables] [TextTables] [CaseTables] [OutputFingerprint] in
theorem documentById_some {id : String}
    {document : Retrieval.EvidenceDocument} (found : documentById documents id = some document) :
    document ∈ documents ∧ document.id = id := by
  unfold documentById at found
  exact ⟨List.mem_reverse.mp (List.mem_of_find?_eq_some found),
    by simpa using List.find?_some found⟩

/-- The meaningful tokens of a claim are in one of the documents that it cites. -/
def Grounded (documents : List Retrieval.EvidenceDocument) (claim : GroundedClaim) : Prop :=
  meaningfulTokens claim.text ≠ [] ∧ ∃ document ∈ documents, document.id ∈ claim.references ∧
    ∀ token ∈ meaningfulTokens claim.text, token ∈ lexicalTokens document.text

omit [LaxScalars] [OutputFingerprint] in
theorem grounded_of_claimIssues {claim : GroundedClaim} (none : claimIssues documents claim = []) :
    Grounded documents claim := by
  unfold claimIssues at none
  dsimp only at none
  split_ifs at none with unknown supported
  unfold supportedByOneSource at supported
  obtain ⟨meaningful, cited⟩ := Bool.and_eq_true_iff.mp supported
  obtain ⟨id, member, found⟩ := List.any_eq_true.mp cited
  cases named : documentById documents id with
  | none =>
    rw [named] at found
    cases found
  | some document =>
    rw [named] at found
    obtain ⟨inside, rfl⟩ := documentById_some named
    exact ⟨of_decide_eq_true meaningful, document, inside, member, fun token here =>
      of_decide_eq_true (List.all_eq_true.mp found token here)⟩

omit [OutputFingerprint] in
theorem grounded_of_validateGrounding
    (none : validateGrounding documents result = []) :
    ∀ claim ∈ result.claims, Grounded documents claim := by
  unfold validateGrounding at none
  have claims := (List.append_eq_nil_iff.mp (List.append_eq_nil_iff.mp
    (List.append_eq_nil_iff.mp none).1).1).1
  exact fun claim member => grounded_of_claimIssues (List.flatMap_eq_nil_iff.mp claims claim member)

/-- White space is normalized to what is in no token. -/
class SpaceTables [TextTables] [CaseTables] : Prop where
  no_tokens : ∀ text, Text.blank text = true →
    ∀ letter ∈ (CaseTables.casefold (TextTables.nfkc text)).toList, isTokenCharacter letter = false

omit [LaxScalars] [CoachTables] [TextTables] [CaseTables] [OutputFingerprint] in
theorem runs_eq_nil {kind : Char → Bool} {letters : List Char}
    (none : ∀ letter ∈ letters, kind letter = false) : Text.runs kind letters = [] := by
  unfold Text.runs
  induction letters with
  | nil => rfl
  | cons letter rest inductionHypothesis =>
    rw [Text.runsFrom, none letter List.mem_cons_self]
    exact inductionHypothesis fun other member => none other (List.mem_cons_of_mem _ member)

omit [LaxScalars] [OutputFingerprint] in
theorem solid_of_meaningful [SpaceTables] {text : String}
    (meaningful : meaningfulTokens text ≠ []) : Text.stripList text.toList ≠ [] := by
  intro empty
  have blank : Text.blank text = true := by
    unfold Text.blank Text.strip
    rw [empty]
    rfl
  refine meaningful ?_
  unfold meaningfulTokens lexicalTokens tokenize
  dsimp only
  rw [runs_eq_nil (SpaceTables.no_tokens text blank)]
  rfl

/-! ### The displayed answer -/

omit [LaxScalars] [CoachTables] [TextTables] [CaseTables] [OutputFingerprint] in
/-- Lines that are stripped, and have something in them, make a text that is stripped. -/
theorem strip_serverAnswer {claims : List GroundedClaim} (some : claims ≠ [])
    (solid : ∀ claim ∈ claims, Text.stripList claim.text.toList ≠ []) :
    Text.strip (serverAnswer claims) = serverAnswer claims := by
  have lines : ∀ line ∈ claims.map (fun claim => Text.stripList claim.text.toList), line ≠ [] := by
    intro line member
    obtain ⟨claim, inside, rfl⟩ := List.mem_map.mp member
    exact solid claim inside
  have nonempty : claims.map (fun claim => Text.stripList claim.text.toList) ≠ [] :=
    mt List.map_eq_nil_iff.mp some
  unfold Text.strip serverAnswer
  rw [String.toList_ofList, Text.stripList_eq_trim]
  refine congrArg String.ofList (Text.trim_of_solid (fun letter first => ?_) fun letter last => ?_)
  · obtain ⟨claim, rest, rfl⟩ := List.exists_cons_of_ne_nil some
    rw [List.map_cons, head?_intercalate _ (solid claim List.mem_cons_self)] at first
    exact Text.head_trim first
  · rw [getLast?_intercalate _ lines nonempty] at last
    obtain ⟨claim, -, same⟩ := List.mem_map.mp (List.getLast_mem nonempty)
    rw [← same] at last
    exact Text.last_trim last

omit [OutputFingerprint] in
/-- The message says the answer of the model as the server wrote it. -/
theorem content_of_accepted [SpaceTables]
    {output : CoachResult} (grounded : ∀ claim ∈ output.claims, Grounded documents claim)
    (written : output.answer = serverAnswer output.claims) :
    Text.slice (Text.strip output.answer) 30000 = output.answer := by
  obtain ⟨⟨-, short⟩, ⟨some, -⟩, -⟩ := output.valid
  have solid : ∀ claim ∈ output.claims, Text.stripList claim.text.toList ≠ [] :=
    fun claim member => solid_of_meaningful (grounded claim member).1
  have claims : output.claims ≠ [] := List.length_pos_iff.mp some
  have stripped : Text.strip output.answer = output.answer := by
    rw [written]
    exact strip_serverAnswer claims solid
  rw [stripped]
  exact Text.slice_of_length_le (by omega)

/-! ### Messages and receipts -/

variable {message : CoachMessage} {userId : Nat}

omit [CoachTables] [TextTables] [CaseTables] in
/-- What the check asks of an execution and of a message. -/
theorem verified_iff [CoachTables] {execution : Option (AIExecution String)} :
    verifiedAssistantPayload message execution userId = true ↔
      ∃ metadata found executionId outputFingerprint result,
        message.generationMetadata = .obj metadata ∧ execution = some found ∧
        fieldOr .null "execution_id" metadata = .str executionId ∧
        fieldOr .null "output_fingerprint" metadata = .str outputFingerprint ∧
        receiptAgrees message metadata found userId executionId outputFingerprint = true ∧
        CoachResult.read (message.reassembled metadata) = .ok result ∧
        fingerprintOutput result = outputFingerprint := by
  constructor
  · intro verified
    unfold verifiedAssistantPayload at verified
    split at verified
    · rename_i metadata found isObject
      split at verified
      · rename_i executionId outputFingerprint isId isFingerprint
        obtain ⟨agrees, same⟩ := Bool.and_eq_true_iff.mp verified
        cases read : CoachResult.read (message.reassembled metadata) with
        | error failure =>
          rw [read] at same
          cases same
        | ok result =>
          rw [read] at same
          exact ⟨metadata, found, executionId, outputFingerprint, result, isObject, rfl, isId,
            isFingerprint, agrees, read, of_decide_eq_true same⟩
      · cases verified
    · cases verified
  · rintro ⟨metadata, found, executionId, outputFingerprint, result, isObject, rfl, isId,
      isFingerprint, agrees, read, same⟩
    unfold verifiedAssistantPayload
    rw [isObject]
    dsimp only
    rw [isId, isFingerprint]
    dsimp only
    rw [agrees, read]
    exact decide_eq_true same

omit [LaxScalars] [CoachTables] [TextTables] [CaseTables] [OutputFingerprint] in
theorem receiptAgrees_iff {metadata : Dict String Json}
    {execution : AIExecution String} {executionId outputFingerprint : String} :
    receiptAgrees message metadata execution userId executionId outputFingerprint = true ↔
      fieldOr .null "provenance" metadata = .str "local_model_validated" ∧
        execution.id = executionId ∧ execution.userId = some userId ∧ execution.task = "coach" ∧
        execution.accepted = true ∧ execution.contractVersion = "1.0.0" ∧
        fieldOr .null "contract_version" metadata = .str "1.0.0" ∧
        message.modelId = some execution.modelId ∧
        execution.outputFingerprint = some outputFingerprint := by
  unfold receiptAgrees
  simp only [Bool.and_eq_true, decide_eq_true_eq, and_assoc]

omit [TextTables] [CaseTables] in
/-- A visible message was checked against a stored execution. -/
theorem exists_of_visible {executions : List (AIExecution String)} {messages : List CoachMessage}
    (visible : message ∈ visibleMessages executions userId messages) :
    ∃ found ∈ executions, verifiedAssistantPayload message (some found) userId = true := by
  have verified := (List.mem_filter.mp visible).2
  dsimp only at verified
  obtain ⟨_, found, _, _, _, -, same, -⟩ := verified_iff.mp verified
  refine ⟨found, ?_, same ▸ verified⟩
  split at same
  · exact List.mem_of_find?_eq_some same
  · cases same

/-- What a message says, whichever way it is stored. -/
def CoachMessage.Says (message : CoachMessage) (result : CoachResult) : Prop :=
  ∃ metadata, message.generationMetadata = .obj metadata ∧
    Coach.Says result message.content (fieldOr .null "claims" metadata) message.citedFactIds
      message.citedJobIds (fieldOr .null "confidence" metadata)
      (fieldOr .null "missing_evidence" metadata)

/-- An accepted output whose messages are bound to its receipt. -/
structure Bound (providerModelId : String) (userId : Nat) (accepted : Accepted) : Prop where
  grounded : ∀ claim ∈ accepted.output.claims, Grounded accepted.documents claim
  /-- The displayed answer is the claims, and its message is shown. -/
  shown : ∀ facts jobs usage message,
    assistantMessage providerModelId facts jobs accepted usage = .ok message →
      message.content = serverAnswer accepted.output.claims ∧
        verifiedAssistantPayload message (some accepted.execution) userId = true
  /-- A message that is shown with this receipt says what was accepted, if no other output has
  its fingerprint. -/
  tight : (∀ other, fingerprintOutput other = fingerprintOutput accepted.output →
      other = accepted.output) →
    ∀ message reader, verifiedAssistantPayload message (some accepted.execution) reader = true →
      message.Says accepted.output
  /-- A message is only visible with an accepted execution of the reader, for the coach and under
  its contract. -/
  owned : ∀ executions reader messages, ∀ message ∈ visibleMessages executions reader messages,
    ∃ found ∈ executions, verifiedAssistantPayload message (some found) reader = true ∧
      found.userId = some reader ∧ found.task = "coach" ∧ found.contractVersion = "1.0.0" ∧
      found.accepted = true

omit [TextTables] [CaseTables] in
/-- The message that is stored of an accepted output is shown. -/
theorem verified_assistantMessage {facts : List CareerFact} {jobs : List CoachJob}
    {accepted : Accepted} {usage : Json} (userId : Nat)
    (stored : assistantMessage accepted.execution.modelId facts jobs accepted usage = .ok message)
    (content : Text.slice (Text.strip accepted.output.answer) 30000 = accepted.output.answer)
    (recorded : accepted.execution = {
      id := accepted.execution.id
      userId := some userId
      task := "coach"
      contractVersion := "1.0.0"
      modelId := accepted.execution.modelId
      outputFingerprint := some (fingerprintOutput accepted.output)
      rowFingerprints := []
      rowInputFingerprints := []
      accepted := true }) :
    message.content = accepted.output.answer ∧
      verifiedAssistantPayload message (some accepted.execution) userId = true := by
  obtain ⟨⟨⟩, -, stored⟩ := bind_ok_iff.mp stored
  obtain ⟨⟨⟩, -, stored⟩ := bind_ok_iff.mp stored
  obtain ⟨⟨⟩, -, stored⟩ := bind_ok_iff.mp stored
  cases pure_ok_iff.mp stored
  refine ⟨content, verified_iff.mpr ⟨_, _, _, _, accepted.output, rfl, rfl, rfl, rfl,
    receiptAgrees_iff.mpr ?_, ?_, rfl⟩⟩
  · rw [recorded]
    exact ⟨rfl, rfl, rfl, rfl, rfl, rfl, rfl, rfl, rfl⟩
  · unfold CoachMessage.reassembled
    rw [content]
    exact accepted.output.read_dump

variable {Score} in
/-- What the coach accepts of a provider with one model is bound to its receipt. -/
theorem coach_answers_bound [SpaceTables] {prompt : String}
    {evidence : List Retrieval.EvidenceDocument} {userId : Nat} {executionId : String}
    {replies : List (Option Generated)} {providerModelId : String} {accepted : Accepted}
    (sameModel : ∀ generated, some generated ∈ replies → generated.modelId = providerModelId)
    (executed : execute Score prompt evidence userId executionId replies = .ok accepted) :
    (∃ bundle : Retrieval.RetrievalBundle Score,
      Retrieval.retrieveEvidence prompt evidence 12000 20 false = .ok bundle ∧
        accepted.documents = bundle.ranked.map Retrieval.RankedEvidence.document) ∧
      Bound providerModelId userId accepted := by
  obtain ⟨bundle, retrieved, executed⟩ := bind_ok_iff.mp executed
  obtain ⟨attempted, found, executed⟩ := bind_ok_iff.mp executed
  obtain ⟨⟨⟩, -, executed⟩ := bind_ok_iff.mp executed
  cases pure_ok_iff.mp executed
  obtain ⟨generated, member, modelId, judged⟩ := exists_of_attempts found
  obtain ⟨issues, written⟩ := accepted_of_judge judged
  have grounded := grounded_of_validateGrounding issues
  cases (sameModel generated member).symm.trans modelId
  refine ⟨⟨bundle, mapError_ok_iff.mp retrieved, rfl⟩, ⟨grounded, ?_, ?_, ?_⟩⟩
  · intro facts jobs usage message stored
    obtain ⟨content, verified⟩ := verified_assistantMessage userId stored
      (content_of_accepted grounded written) rfl
    exact ⟨content.trans written, verified⟩
  · intro alone message reader verified
    obtain ⟨metadata, execution, executionId', outputFingerprint, result, isObject, same, -, -,
      agrees, read, fingerprint⟩ := verified_iff.mp verified
    cases Option.some.inj same
    obtain ⟨-, -, -, -, -, -, -, -, recorded⟩ := receiptAgrees_iff.mp agrees
    cases Option.some.inj recorded
    cases alone result fingerprint
    exact ⟨metadata, isObject, says_of_read read⟩
  · intro executions reader messages message visible
    obtain ⟨found, stored, verified⟩ := exists_of_visible visible
    obtain ⟨_, _, _, _, _, -, same, -, -, agrees, -, -⟩ := verified_iff.mp verified
    cases Option.some.inj same
    obtain ⟨-, -, user, task, isAccepted, version, -, -, -⟩ := receiptAgrees_iff.mp agrees
    exact ⟨found, stored, verified, user, task, version, isAccepted⟩

end

/-! ### A claim that is stored without its empty field -/

section

theorem no_date (_ : Json) (date : Int) (read : none = some date) : none = some date := read

/-- Scalars that are read only of their own spelling, with the floats between 0 and 1. -/
@[reducible] def unitScalars : LaxScalars where
  readInt := fun value =>
    match value with
    | .int number => some number
    | _ => none
  readBool := fun value =>
    match value with
    | .bool answer => some answer
    | _ => none
  readFloat := fun value =>
    match value with
    | .float text => some text
    | _ => none
  atLeast := fun bound _ => decide (bound ≤ 0)
  atMost := fun bound _ => decide (1 ≤ bound)
  exceeds := fun _ _ => false
  readDate := fun _ => none
  isoDate := fun _ => ""
  readMoment := fun _ => none
  readInt_int := fun number => Eq.refl (some number)
  readBool_bool := fun answer => Eq.refl (some answer)
  readFloat_float := fun _ text _ => Eq.refl (some text)
  readDate_isoDate := no_date
  readMoment_str := nofun

/-- The tables of Python on ASCII. -/
@[reducible] def CoachTables.ascii : CoachTables where
  sameKey first second := first = second
  isDigit := Char.isDigit
  schemaMessages _ := ""

/-- An output is its own digest. -/
@[reducible] def OutputFingerprint.own : OutputFingerprint where
  fingerprint value := String.ofList (Json.dumps value)

attribute [local instance] unitScalars CoachTables.ascii OutputFingerprint.own TextTables.plain
  CaseTables.ascii Retrieval.Bm25Scores.counting

theorem isTokenCharacter_of_isSpace {letter : Char} (space : Text.isSpace letter = true) :
    letter.toLower = letter ∧ isTokenCharacter letter = false := by
  have codes : letter.toNat ≤ 0x20 ∨ 0x85 ≤ letter.toNat := by
    unfold Text.isSpace at space
    simp only [Bool.or_eq_true, Bool.and_eq_true, decide_eq_true_eq, beq_iff_eq] at space
    omega
  have other : ∀ mark : Char, 0x20 < mark.toNat → mark.toNat < 0x85 → letter ≠ mark := by
    rintro mark low high rfl
    omega
  have upper : ¬(letter.val ≥ 'A'.val ∧ letter.val ≤ 'Z'.val) := by
    rintro ⟨low, high⟩
    have low : 65 ≤ letter.toNat := low
    have high : letter.toNat ≤ 90 := high
    omega
  refine ⟨dif_neg upper, ?_⟩
  have word : letter.isAlphanum = false := by
    rw [Bool.eq_false_iff]
    intro alphanumeric
    simp only [Char.isAlphanum, Char.isAlpha, Char.isUpper, Char.isLower, Char.isDigit,
      Bool.or_eq_true, Bool.and_eq_true, decide_eq_true_eq, ge_iff_le] at alphanumeric
    have bounds : 48 ≤ letter.toNat ∧ letter.toNat ≤ 122 := by
      obtain (⟨low, high⟩ | ⟨low, high⟩) | ⟨low, high⟩ := alphanumeric
      · have low : 65 ≤ letter.toNat := low
        have high : letter.toNat ≤ 90 := high
        omega
      · have low : 97 ≤ letter.toNat := low
        have high : letter.toNat ≤ 122 := high
        omega
      · have low : 48 ≤ letter.toNat := low
        have high : letter.toNat ≤ 57 := high
        omega
    omega
  unfold isTokenCharacter
  change ((letter.isAlphanum || letter == '_') || _ || _ || _ || _) = false
  rw [word]
  simp only [Bool.false_or, Bool.or_eq_false_iff, beq_eq_false_iff_ne]
  exact ⟨⟨⟨⟨other _ (by decide) (by decide), other _ (by decide) (by decide)⟩,
    other _ (by decide) (by decide)⟩, other _ (by decide) (by decide)⟩,
    other _ (by decide) (by decide)⟩
instance : SpaceTables where
  no_tokens text blank letter member := by
    have empty : Text.stripList text.toList = [] := by
      unfold Text.blank Text.strip at blank
      exact String.ofList_eq_empty_iff.mp (eq_of_beq blank)
    have spaces := Text.trim_eq_nil_iff.mp empty
    change letter ∈ (String.ofList (text.toList.map Char.toLower)).toList at member
    rw [String.toList_ofList] at member
    obtain ⟨other, inside, rfl⟩ := List.mem_map.mp member
    obtain ⟨same, none⟩ := isTokenCharacter_of_isSpace (spaces other inside)
    rw [same]
    exact none

/-- A fact of the career. -/
def rustFact : CareerFact :=
  ⟨"00000000-0000-0000-0000-000000000001", "Rust developer", .str "confirmed"⟩

/-- A payload with one claim. -/
def rustPayload : Json := .obj [("answer", .str "Rust"),
  ("claims", .arr [.obj [("text", .str "Rust developer"),
    ("fact_ids", .arr [.str "00000000-0000-0000-0000-000000000001"])]]),
  ("confidence", .float "0.5")]

/-- What the model returns. -/
def rustReplies : List (Option Generated) := [some ⟨rustPayload, "llama-cpp-local/model"⟩]

/-- The claim as it may be stored: without its empty list of jobs. -/
def compactClaims : Json := .arr [.obj [("text", .str "Rust developer"),
  ("fact_ids", .arr [.str "00000000-0000-0000-0000-000000000001"])]]

/-- The message with other claims in its metadata. -/
def CoachMessage.withClaims (message : CoachMessage) (claims : Json) : CoachMessage :=
  { message with
    generationMetadata := match message.generationMetadata with
      | .obj metadata => .obj (metadata.map fun field =>
          if field.1 = "claims" then (field.1, claims) else field)
      | value => value }

/-- The claims that a message is stored with. -/
def CoachMessage.storedClaims (message : CoachMessage) : Json :=
  match message.generationMetadata with
  | .obj metadata => fieldOr .null "claims" metadata
  | _ => .null

theorem coach_answers_bound_rust : ∃ accepted,
    execute Nat "Rust" (coachEvidence [rustFact] []) 7 "execution" rustReplies = .ok accepted ∧
      Bound "llama-cpp-local/model" 7 accepted := by
  have succeeds : (execute Nat "Rust" (coachEvidence [rustFact] []) 7 "execution"
      rustReplies).isOk = true := by decide +kernel
  obtain ⟨accepted, executed⟩ := ok_of_isOk succeeds
  refine ⟨accepted, executed, (coach_answers_bound ?_ executed).2⟩
  intro generated member
  cases List.mem_singleton.mp member
  rfl

/-- The claims of a message that is shown may differ from those of the accepted output: here a
default is left out. -/
theorem otherClaims_shown : ∃ accepted message,
    reply Nat "llama-cpp-local/model" "Rust" [rustFact] [] 7 "execution" rustReplies .null =
      .ok (accepted, message) ∧
    (message.withClaims compactClaims).storedClaims ≠
      .arr (accepted.output.claims.map GroundedClaim.dump) ∧
    verifiedAssistantPayload (message.withClaims compactClaims) (some accepted.execution) 7 =
      true := by
  have run : (reply Nat "llama-cpp-local/model" "Rust" [rustFact] [] 7 "execution" rustReplies
      .null).map (fun stored => (
        decide ((stored.2.withClaims compactClaims).storedClaims ≠
          .arr (stored.1.output.claims.map GroundedClaim.dump)),
        verifiedAssistantPayload (stored.2.withClaims compactClaims) (some stored.1.execution) 7)) =
      .ok (true, true) := by decide +kernel
  obtain ⟨⟨accepted, message⟩, replied, same⟩ := map_ok_iff.mp run
  obtain ⟨different, verified⟩ := Prod.mk.inj same
  exact ⟨accepted, message, replied, of_decide_eq_true different, verified⟩

end

end Coach

end CareerOS
