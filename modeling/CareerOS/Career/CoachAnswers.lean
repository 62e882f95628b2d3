/-
This file is what a local model may answer to the career coach: the contract of an answer, which
a JSON value is read by and written back to, and the check that every claim is grounded in a
document that was sent.

An answer carries that it meets its contract. So it is read again from what is written of it.
-/

import CareerOS.Library.SchemaTypes
import CareerOS.Matching.Retrieval

namespace CareerOS

namespace Coach

/-! ### The contract -/

/-- `UuidString`. -/
def isUuidString (text : String) : Bool :=
  let groups := text.toList.splitOn '-'
  groups.map List.length = [8, 4, 4, 4, 12] && groups.all fun group => group.all fun letter =>
    letter.isDigit || ('a' ≤ letter && letter ≤ 'f')

/-- The bounds of `GroundedClaim` and its validator. -/
def IsClaim (text : String) (factIds : List String) (jobIds : List Int) : Prop :=
  (1 ≤ text.length ∧ text.length ≤ 800) ∧
    (factIds.length ≤ 12 ∧ ∀ id ∈ factIds, isUuidString id = true) ∧ jobIds.length ≤ 12 ∧
    ¬(factIds = [] ∧ jobIds = []) ∧ (factIds.Nodup ∧ jobIds.Nodup) ∧ ∀ id ∈ jobIds, 1 ≤ id

instance (text : String) (factIds : List String) (jobIds : List Int) :
    Decidable (IsClaim text factIds jobIds) := by
  unfold IsClaim
  infer_instance

/-- `GroundedClaim`. -/
structure GroundedClaim where
  text : String
  factIds : List String
  jobIds : List Int
  valid : IsClaim text factIds jobIds

section

variable [LaxScalars]

/-- The bounds of `CoachResult`, and `citations_cover_claims`. -/
def IsAnswer (answer : String) (claims : List GroundedClaim) (factCitations : List String)
    (jobCitations : List Int) (confidence : String) (missingEvidence : List String) : Prop :=
  (1 ≤ answer.length ∧ answer.length ≤ 6000) ∧ (1 ≤ claims.length ∧ claims.length ≤ 12) ∧
    (factCitations.length ≤ 32 ∧ ∀ id ∈ factCitations, isUuidString id = true) ∧
    jobCitations.length ≤ 32 ∧
    (LaxScalars.atLeast 0 confidence = true ∧ LaxScalars.atMost 1 confidence = true) ∧
    missingEvidence.length ≤ 8 ∧
    (claims.flatMap GroundedClaim.factIds ⊆ factCitations ∧
      factCitations ⊆ claims.flatMap GroundedClaim.factIds) ∧
    (claims.flatMap GroundedClaim.jobIds ⊆ jobCitations ∧
      jobCitations ⊆ claims.flatMap GroundedClaim.jobIds) ∧
    factCitations.Nodup ∧ jobCitations.Nodup

instance (answer : String) (claims : List GroundedClaim) (factCitations : List String)
    (jobCitations : List Int) (confidence : String) (missingEvidence : List String) :
    Decidable (IsAnswer answer claims factCitations jobCitations confidence missingEvidence) := by
  unfold IsAnswer
  infer_instance

/-- `CoachResult`. The confidence is the shortest text of a float. -/
structure CoachResult where
  answer : String
  claims : List GroundedClaim
  factCitations : List String
  jobCitations : List Int
  confidence : String
  missingEvidence : List String
  isFloat : LaxScalars.readFloat (.float confidence) = some confidence
  valid : IsAnswer answer claims factCitations jobCitations confidence missingEvidence

/-! ### Reading -/

def readText : Json → Option String
  | .str text => some text
  | _ => none

/-- `list[str]`. -/
def readTexts : Json → Option (List String)
  | .arr values => values.mapM readText
  | _ => none

/-- `list[int]`. -/
def readNumbers : Json → Option (List Int)
  | .arr values => values.mapM LaxScalars.readInt
  | _ => none

/-- The value of a field that may be missing. -/
def fieldOr (default : Json) (name : String) (fields : Dict String Json) : Json :=
  (Dict.lookup name fields).getD default

/-- `GroundedClaim.model_validate`. -/
def GroundedClaim.read : Json → Option GroundedClaim
  | .obj fields =>
    if ∃ key ∈ Dict.keys fields, key ∉ ["text", "fact_ids", "job_ids"] then none
    else do
      let text ← (Dict.lookup "text" fields).bind readText
      let factIds ← readTexts (fieldOr (.arr []) "fact_ids" fields)
      let jobIds ← readNumbers (fieldOr (.arr []) "job_ids" fields)
      if valid : IsClaim text factIds jobIds then some ⟨text, factIds, jobIds, valid⟩ else none
  | _ => none

/-- The claims of an answer. -/
def readClaims : Json → Option (List GroundedClaim)
  | .arr values => values.mapM GroundedClaim.read
  | _ => none

/-- The answer of its fields, if they meet its contract. -/
def CoachResult.ofFields (answer : String) (claims : List GroundedClaim)
    (factCitations : List String) (jobCitations : List Int) (given : Json)
    (missingEvidence : List String) : Option CoachResult :=
  match isFloat : LaxScalars.readFloat given with
  | none => none
  | some confidence =>
    if valid : IsAnswer answer claims factCitations jobCitations confidence missingEvidence then
      some {
        answer, claims, factCitations, jobCitations, confidence, missingEvidence
        isFloat := LaxScalars.readFloat_float given confidence isFloat
        valid }
    else none

/-- The fields of an answer, once its aggregate citations are there. -/
def CoachResult.readFields : Json → Option CoachResult
  | .obj fields =>
    if ∃ key ∈ Dict.keys fields, key ∉ ["answer", "claims", "fact_citations", "job_citations",
        "confidence", "missing_evidence"] then none
    else do
      let answer ← (Dict.lookup "answer" fields).bind readText
      let claims ← (Dict.lookup "claims" fields).bind readClaims
      let factCitations ← readTexts (fieldOr (.arr []) "fact_citations" fields)
      let jobCitations ← readNumbers (fieldOr (.arr []) "job_citations" fields)
      let given ← Dict.lookup "confidence" fields
      let missingEvidence ← readTexts (fieldOr (.arr []) "missing_evidence" fields)
      CoachResult.ofFields answer claims factCitations jobCitations given missingEvidence
  | _ => none

/-- What the coach needs of Python besides. -/
class CoachTables where
  /-- The equality of two keys of a dictionary. -/
  sameKey : Json → Json → Bool
  /-- `character.isdigit()`. -/
  isDigit : Char → Bool
  /-- The messages of the errors that a payload has. -/
  schemaMessages : Json → String

variable [CoachTables]

/-- `for item in value`; nothing on a `TypeError`. -/
def iterate : Json → Option (List Json)
  | .arr values => some values
  | .str text => some (text.toList.map fun letter => .str (String.ofList [letter]))
  | .obj fields => some (fields.map fun field => .str field.1)
  | .null | .bool _ | .int _ | .float _ => none

def isHashable : Json → Bool
  | .arr _ | .obj _ => false
  | _ => true

/-- `list(dict.fromkeys(values))`; nothing on a `TypeError`. -/
def fromKeys (values : List Json) : Option (List Json) :=
  if values.all isHashable then
    some (values.foldl (fun kept value =>
      if kept.any (CoachTables.sameKey value) then kept else kept ++ [value]) [])
  else none

/-- The aggregate citations of the claims. -/
def aggregateIds (name : String) (claims : List Json) : Option Json := do
  let ids ← claims.mapM fun claim => match claim with
    | .obj fields => iterate (fieldOr (.arr []) name fields)
    | _ => some []
  let kept ← fromKeys ids.flatten
  return .arr kept

/-- An aggregate that is there stays. -/
def addAggregate (name idName : String) (claims : List Json) (fields : Dict String Json) :
    Option (Dict String Json) :=
  if (Dict.lookup name fields).isSome then some fields
  else (aggregateIds idName claims).map fun ids => fields ++ [(name, ids)]

/-- `materialize_omitted_aggregate_citations`; nothing on a `TypeError`. -/
def materializeOmitted (value : Json) : Option Json :=
  match value with
  | .obj fields =>
    match Dict.lookup "claims" fields with
    | some (.arr claims) => do
      let withFacts ← addAggregate "fact_citations" "fact_ids" claims fields
      let withJobs ← addAggregate "job_citations" "job_ids" claims withFacts
      return .obj withJobs
    | _ => some value
  | _ => some value

/-- Why a payload is no answer. -/
inductive ReadFailure
  /-- `ValidationError`. -/
  | validation
  /-- `TypeError`. -/
  | type
  deriving DecidableEq

/-- `CoachResult.model_validate`. -/
def CoachResult.read (value : Json) : Except ReadFailure CoachResult :=
  match materializeOmitted value with
  | none => .error .type
  | some value =>
    match CoachResult.readFields value with
    | none => .error .validation
    | some result => .ok result

/-! ### Writing -/

/-- `claim.model_dump(mode="json")`. -/
def GroundedClaim.dump (claim : GroundedClaim) : Json :=
  .obj [("text", .str claim.text), ("fact_ids", Json.ofTexts claim.factIds),
    ("job_ids", .arr (claim.jobIds.map .int))]

/-- `{**result.model_dump(mode="json"), "answer": answer}`. -/
def CoachResult.dumpWith (result : CoachResult) (answer : String) : Json :=
  .obj [("answer", .str answer), ("claims", .arr (result.claims.map GroundedClaim.dump)),
    ("fact_citations", Json.ofTexts result.factCitations),
    ("job_citations", .arr (result.jobCitations.map .int)),
    ("confidence", .float result.confidence),
    ("missing_evidence", Json.ofTexts result.missingEvidence)]

/-- `result.model_dump(mode="json")`. -/
def CoachResult.dump (result : CoachResult) : Json := result.dumpWith result.answer

omit [LaxScalars] [CoachTables] in
theorem readTexts_ofTexts (texts : List String) : readTexts (Json.ofTexts texts) = some texts := by
  unfold readTexts Json.ofTexts
  dsimp only
  induction texts with
  | nil => rfl
  | cons text rest inductionHypothesis =>
    rw [List.map_cons, List.mapM_cons, inductionHypothesis]
    rfl

omit [CoachTables] in
theorem readNumbers_numbers (numbers : List Int) :
    readNumbers (.arr (numbers.map .int)) = some numbers := by
  unfold readNumbers
  dsimp only
  induction numbers with
  | nil => rfl
  | cons number rest inductionHypothesis =>
    rw [List.map_cons, List.mapM_cons, inductionHypothesis, LaxScalars.readInt_int]
    rfl

omit [CoachTables] in
theorem GroundedClaim.read_dump (claim : GroundedClaim) :
    GroundedClaim.read claim.dump = some claim := by
  unfold GroundedClaim.read GroundedClaim.dump
  dsimp only
  split
  · rename_i foreign
    obtain ⟨key, member, unknown⟩ := foreign
    exact absurd member unknown
  change (do
    let factIds ← readTexts (Json.ofTexts claim.factIds)
    let jobIds ← readNumbers (.arr (claim.jobIds.map .int))
    if valid : IsClaim claim.text factIds jobIds then
      some (⟨claim.text, factIds, jobIds, valid⟩ : GroundedClaim)
    else none) = _
  rw [readTexts_ofTexts, readNumbers_numbers]
  exact dif_pos claim.valid

omit [CoachTables] in
theorem readClaims_dump (claims : List GroundedClaim) :
    readClaims (.arr (claims.map GroundedClaim.dump)) = some claims := by
  unfold readClaims
  dsimp only
  induction claims with
  | nil => rfl
  | cons claim rest inductionHypothesis =>
    rw [List.map_cons, List.mapM_cons, inductionHypothesis, claim.read_dump]
    rfl

/-- The aggregates are there, so nothing is derived. -/
theorem CoachResult.read_obj {fields : Dict String Json}
    (facts : (Dict.lookup "fact_citations" fields).isSome = true)
    (jobs : (Dict.lookup "job_citations" fields).isSome = true) :
    CoachResult.read (.obj fields) =
      match CoachResult.readFields (.obj fields) with
      | none => .error .validation
      | some result => .ok result := by
  have same : materializeOmitted (.obj fields) = some (.obj fields) := by
    unfold materializeOmitted
    dsimp only
    split
    · unfold addAggregate
      rw [if_pos facts]
      dsimp only [Option.bind_eq_bind, Option.bind_some]
      rw [if_pos jobs]
      rfl
    · rfl
  unfold CoachResult.read
  rw [same]

omit [CoachTables] in
theorem CoachResult.ofFields_self (result : CoachResult) :
    CoachResult.ofFields result.answer result.claims result.factCitations result.jobCitations
      (.float result.confidence) result.missingEvidence = some result := by
  unfold CoachResult.ofFields
  split
  · rename_i none
    cases none.symm.trans result.isFloat
  · rename_i confidence same
    cases Option.some.inj (same.symm.trans result.isFloat)
    exact dif_pos result.valid

omit [CoachTables] in
theorem CoachResult.readFields_dump (result : CoachResult) :
    CoachResult.readFields result.dump = some result := by
  unfold CoachResult.dump CoachResult.dumpWith CoachResult.readFields
  dsimp only
  split
  · rename_i foreign
    obtain ⟨key, member, unknown⟩ := foreign
    exact absurd member unknown
  change (do
    let claims ← readClaims (.arr (result.claims.map GroundedClaim.dump))
    let factCitations ← readTexts (Json.ofTexts result.factCitations)
    let jobCitations ← readNumbers (.arr (result.jobCitations.map .int))
    let missingEvidence ← readTexts (Json.ofTexts result.missingEvidence)
    CoachResult.ofFields result.answer claims factCitations jobCitations
      (.float result.confidence) missingEvidence) = _
  rw [readClaims_dump, readTexts_ofTexts, readNumbers_numbers, readTexts_ofTexts]
  exact result.ofFields_self

/-- What is written of an answer is read as the answer. -/
theorem CoachResult.read_dump (result : CoachResult) :
    CoachResult.read result.dump = .ok result := by
  unfold CoachResult.dump CoachResult.dumpWith
  rw [CoachResult.read_obj rfl rfl]
  change (match CoachResult.readFields result.dump with
    | none => Except.error ReadFailure.validation
    | some result => .ok result) = _
  rw [result.readFields_dump]

/-! ### Grounding -/

/-- `ValidationCode`, as far as an answer can be given one. -/
inductive ValidationCode
  | schemaInvalid
  | evidenceMissing
  | evidenceUnknown
  | unsupportedClaim
  deriving DecidableEq

/-- `GroundingIssue`. -/
structure GroundingIssue where
  code : ValidationCode
  message : String
  deriving DecidableEq

/-- `PLACEHOLDER_TOKENS`. -/
def placeholderTokens : List String :=
  ["candidate", "company", "description", "evidence", "experience", "field", "fact_type",
    "location", "none", "profile", "payload", "required", "role", "specified", "title", "unknown",
    "verified"]

/-- `ANSWER_CONNECTIVE_TOKENS`. -/
def answerConnectiveTokens : List String :=
  ["also", "because", "emphasize", "highlight", "lead", "with", "your", "verified"]

/-- `CLAIM_ADVICE_TOKENS`. -/
def claimAdviceTokens : List String := answerConnectiveTokens ++
  ["consider", "describe", "evidenzia", "emphasized", "emphasize", "focus", "mention", "metti",
    "supported"]

/-- `CLAIM_FUNCTION_TOKENS`. -/
def claimFunctionTokens : List String :=
  ["an", "are", "as", "at", "been", "by", "for", "from", "had", "has", "have", "he", "in", "into",
    "is", "it", "of", "on", "she", "that", "the", "they", "this", "to", "was", "we", "were", "you"]

variable [TextTables] [CaseTables]

/-- `_lexical_tokens`. -/
def lexicalTokens (value : String) : List String :=
  (((tokenize value).map fun token => stripPunctuation token.toList).filter fun token =>
    token ≠ []).map String.ofList

/-- The tokens of a claim that its evidence has to have. -/
def meaningfulTokens (text : String) : List String :=
  (lexicalTokens text).filter fun token =>
    (2 ≤ token.length || token.toList.all CoachTables.isDigit) && token ∉ placeholderTokens &&
      token ∉ claimAdviceTokens && token ∉ claimFunctionTokens

/-- The evidence a claim cites. -/
def GroundedClaim.references (claim : GroundedClaim) : List String :=
  claim.factIds ++ claim.jobIds.map toString

/-- `by_id.get(reference_id)`. -/
def documentById (documents : List Retrieval.EvidenceDocument) (id : String) :
    Option Retrieval.EvidenceDocument :=
  documents.reverse.find? fun document => document.id = id

/-- Is a claim said by one of the documents it cites? -/
def supportedByOneSource (documents : List Retrieval.EvidenceDocument) (claim : GroundedClaim) :
    Bool :=
  let meaningful := meaningfulTokens claim.text
  meaningful ≠ [] && claim.references.any fun id =>
    match documentById documents id with
    | some document => meaningful.all fun token => token ∈ lexicalTokens document.text
    | none => false

/-- What `validate_grounding` says of a claim. -/
def claimIssues (documents : List Retrieval.EvidenceDocument) (claim : GroundedClaim) :
    List GroundingIssue :=
  let unknown := claim.references.filter fun id => (documentById documents id).isNone
  if unknown ≠ [] then
    [⟨.evidenceUnknown, "Claim references unavailable evidence: " ++
      ", ".intercalate (unknown.insertionSort (· ≤ ·))⟩]
  else if supportedByOneSource documents claim then []
  else [⟨.unsupportedClaim, "Claim language is not supported by its cited evidence."⟩]

/-- `re.split(r"(?<=[.!?])\s+", text)`, after a part of a sentence or inside of white space. -/
def sentencesFrom (sentence : List Char) (skipping : Bool) : List Char → List (List Char)
  | [] => [sentence]
  | letter :: rest =>
    if skipping && Text.isSpace letter then sentencesFrom sentence true rest
    else if Text.isSpace letter && sentence.getLast? ∈ [some '.', some '!', some '?'] then
      sentence :: sentencesFrom [] true rest
    else sentencesFrom (sentence ++ [letter]) false rest

/-- What `validate_grounding` says of the sentences of an answer. -/
def answerIssues (result : CoachResult) : List GroundingIssue :=
  let supported := result.claims.flatMap fun claim =>
    (lexicalTokens claim.text).filter fun token => 4 ≤ token.length
  (sentencesFrom [] false result.answer.toList).flatMap fun sentence =>
    let terms := (lexicalTokens (String.ofList sentence)).filter fun token =>
      4 ≤ token.length && token ∉ answerConnectiveTokens
    if terms.all (· ∈ supported) then []
    else [⟨.unsupportedClaim, "Coach answer language is not covered by its grounded claims."⟩]

/-- `validate_grounding` of an answer. -/
def validateGrounding (documents : List Retrieval.EvidenceDocument) (result : CoachResult) :
    List GroundingIssue :=
  result.claims.flatMap (claimIssues documents) ++
  (if result.claims ≠ [] ∧ result.factCitations = [] ∧ result.jobCitations = [] then
    [⟨.evidenceMissing, "Grounded claims require aggregate evidence citations."⟩]
  else []) ++
  (if Text.blank result.answer = false ∧ result.claims = [] then
    [⟨.evidenceMissing, "A substantive coach answer requires at least one grounded claim."⟩]
  else []) ++
  (if result.answer ≠ "" ∧ result.claims ≠ [] then answerIssues result else [])

end

end Coach

end CareerOS
