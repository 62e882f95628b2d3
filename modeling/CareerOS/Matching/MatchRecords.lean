/-
This file is the attestation of a record as it is stored: a mapping whose values can
be anything. Every value is read before it is trusted, a citation is a mapping of
which ten fields are compared, and a number may be an integer or a whole float.

A record that passes is one whose fields are those of an analysis, and what its
citations say is what the citations of the server say.
-/

import CareerOS.Matching.Attestation
import CareerOS.Matching.ScorePolicy

namespace CareerOS

/-- The value that is stored, as `str` and `float` see it. -/
class StoredValues where
  /-- The integer that a float is, if it is finite and whole. -/
  whole : String → Option Int
  /-- `str(value)`. -/
  shown : Json → String
  shown_str : ∀ text, shown (.str text) = text

/-- The word of the source. -/
def Assessment.text : Assessment → String
  | .strength => "strength"
  | .weakness => "weakness"
  | .gap => "gap"
  | .risk => "risk"
  | .insufficientEvidence => "insufficient_evidence"

/-- The word of the source. -/
def MatchRecommendation.text : MatchRecommendation → String
  | .strongFit => "strong_fit"
  | .consider => "consider"
  | .weakFit => "weak_fit"
  | .insufficientEvidence => "insufficient_evidence"

theorem Assessment.text_inj {first second : Assessment} (same : first.text = second.text) :
    first = second := by
  cases first <;> cases second <;> first | rfl | exact absurd same (by decide)

theorem Dimension.text_inj {first second : Dimension} (same : first.text = second.text) :
    first = second := by
  cases first <;> cases second <;> first | rfl | exact absurd same (by decide)

/-- A citation, as it is stored. -/
def Citation.record (citation : Citation String) : Dict String Json :=
  [("type", .str citation.type.text),
    ("assessment", .str citation.assessment.text),
    ("job_evidence_id", .str citation.jobEvidenceId),
    ("candidate_evidence_id", .str citation.candidateEvidenceId),
    ("job_quote_id", .str citation.jobQuoteId),
    ("candidate_quote_id", .str citation.candidateQuoteId),
    ("job_quote_hash", .str (citation.jobQuoteHash.getD "")),
    ("candidate_quote_hash", .str (citation.candidateQuoteHash.getD "")),
    ("job_evidence", .str citation.jobEvidence),
    ("candidate_evidence", .str citation.candidateEvidence)]

namespace MatchRecords

/-! ### Values -/

/-- `_value(source, key)`. -/
def value (source : Dict String Json) (key : String) : Json := (Dict.lookup key source).getD .null

def readText (stored : Json) (refusal : String) : Except String String :=
  match stored with
  | .str text => .ok text
  | _ => .error refusal

def readItems (stored : Json) (refusal : String) : Except String (List Json) :=
  match stored with
  | .arr items => .ok items
  | _ => .error refusal

/-- `_mapping(value)`. -/
def readMapping (refusal : String) (stored : Json) : Except String (Dict String Json) :=
  match stored with
  | .obj fields => .ok fields
  | _ => .error refusal

/-- An index that is not a truth value and not negative. -/
def readIndex (stored : Json) (refusal : String) : Except String Nat :=
  match stored with
  | .int (.ofNat index) => .ok index
  | _ => .error refusal

variable {stored : Json}

theorem readText_ok_iff {refusal text : String} :
    readText stored refusal = .ok text ↔ stored = .str text := by
  cases stored <;> simp [readText]

variable {refusal : String}

theorem readItems_ok_iff {items : List Json} :
    readItems stored refusal = .ok items ↔ stored = .arr items := by
  cases stored <;> simp [readItems]

theorem readMapping_ok_iff {fields : Dict String Json} :
    readMapping refusal stored = .ok fields ↔ stored = .obj fields := by
  cases stored <;> simp [readMapping]

theorem readIndex_ok_iff {index : Nat} :
    readIndex stored refusal = .ok index ↔ stored = .int index := by
  cases stored with
  | int number =>
    cases number with
    | ofNat natural =>
      simp only [readIndex, Except.ok.injEq, Int.ofNat_eq_natCast, Json.int.injEq]
      omega
    | negSucc natural => simp [readIndex]
  | _ => simp [readIndex]

section

variable [StoredValues]

/-- A number that is finite and whole. -/
def wholeNumber : Json → Option Int
  | .int number => some number
  | .float text => StoredValues.whole text
  | _ => none

/-- `bool(value)`. -/
def truthy : Json → Bool
  | .null => false
  | .bool truth => truth
  | .int number => number ≠ 0
  | .float text => StoredValues.whole text ≠ some 0
  | .str text => text ≠ ""
  | .arr items => !items.isEmpty
  | .obj fields => !fields.isEmpty

/-- `_score`. -/
def contractScore (stored : Json) (field : String) : Except String Int :=
  match wholeNumber stored with
  | none => .error s!"{field} must be a finite whole number"
  | some score =>
    if 0 ≤ score ∧ score ≤ 100 then .ok score else .error s!"{field} is outside the contract range"

theorem contractScore_ok_iff {field : String} {score : Int} :
    contractScore stored field = .ok score ↔
      wholeNumber stored = some score ∧ 0 ≤ score ∧ score ≤ 100 := by
  unfold contractScore
  cases wholeNumber stored with
  | none => exact ⟨nofun, fun read => nomatch read.1⟩
  | some number =>
    dsimp only
    split_ifs with bounds
    · exact ⟨fun same => Except.ok.inj same ▸ ⟨rfl, bounds⟩,
        fun read => congrArg Except.ok (Option.some.inj read.1)⟩
    · exact ⟨nofun, fun read => absurd (Option.some.inj read.1 ▸ read.2) bounds⟩

/-- `canonical_contract_row`. -/
def canonicalContractRow (record : Dict String Json) : Except String (Dimension → Int) := do
  let score := fun dimension : Dimension =>
    contractScore (value record dimension.scoreField) dimension.scoreField
  let skill ← score .skill
  let experience ← score .experience
  let intent ← score .intent
  let language ← score .language
  let location ← score .location
  let transferability ← score .transferability
  let qualification ← score .qualification
  return fun
    | .skill => skill
    | .experience => experience
    | .intent => intent
    | .language => language
    | .location => location
    | .transferability => transferability
    | .qualification => qualification

variable {record : Dict String Json}

/-- The scores of a row are those that each field is read as. -/
theorem canonicalContractRow_ok_iff {scores : Dimension → Int} :
    canonicalContractRow record = .ok scores ↔ ∀ dimension,
      wholeNumber (value record dimension.scoreField) = some (scores dimension) ∧
        0 ≤ scores dimension ∧ scores dimension ≤ 100 := by
  unfold canonicalContractRow
  simp only [bind_ok_iff, pure_ok_iff, contractScore_ok_iff]
  constructor
  · rintro ⟨_, skill, _, experience, _, intent, _, language, _, location, _, transferability, _,
      qualification, rfl⟩ dimension
    cases dimension with
    | skill => exact skill
    | experience => exact experience
    | intent => exact intent
    | language => exact language
    | location => exact location
    | transferability => exact transferability
    | qualification => exact qualification
  · intro each
    refine ⟨_, each .skill, _, each .experience, _, each .intent, _, each .language, _,
      each .location, _, each .transferability, _, each .qualification, ?_⟩
    funext dimension
    cases dimension <;> rfl

/-! ### What the citations say -/

/-- The citations with an assessment. -/
def countLabel (label : String) (citations : List (Dict String Json)) : Nat :=
  (citations.filter fun citation => value citation "assessment" = .str label).length

/-- `derive_match_outcome`. -/
def deriveMatchOutcome [MatchWeights] (scores : Dimension → Int)
    (citations : List (Dict String Json)) : Int × MatchRecommendation × Bool :=
  let riskTypes := (citations.filter fun citation =>
    value citation "assessment" = .str "risk").map fun citation =>
      StoredValues.shown (value citation "type")
  let caps := (Dimension.all.filter fun dimension => dimension.text ∈ riskTypes).filterMap
    riskScoreCap
  let score := caps.foldl min (MatchWeights.weightedScore scores)
  let recommendation : MatchRecommendation :=
    if citations ≠ [] ∧ countLabel "insufficient_evidence" citations = citations.length then
      .insufficientEvidence
    else if 80 ≤ score then .strongFit
    else if 55 ≤ score then .consider
    else .weakFit
  (score, recommendation,
    65 ≤ score ∧ recommendation ∈ [MatchRecommendation.strongFit, .consider])

/-- `derive_match_presentation`. -/
def deriveMatchPresentation (recommendation : MatchRecommendation)
    (citations : List (Dict String Json)) : String × Option (List String) :=
  let types := (citations.filter fun citation => truthy (value citation "type")).map
    fun citation => StoredValues.shown (value citation "type")
  let cited := types.dedup.insertionSort (· ≤ ·)
  let strengths := countLabel "strength" citations
  let risky := countLabel "risk" citations
  let gaps := countLabel "weakness" citations + countLabel "gap" citations
  let risks := (citations.filter fun citation => value citation "assessment" = .str "risk" ∧
    truthy (value citation "type")).map fun citation =>
      "evidence_risk:" ++ StoredValues.shown (value citation "type")
  let flags := risks.reverse.dedup.reverse
  let dimensions := ", ".intercalate cited
  (s!"Local evidence review: {recommendation.words}. " ++
    s!"{strengths} supported strength(s), {gaps} supported gap(s), " ++
    s!"{risky} risk signal(s). " ++
    s!"Evidence dimensions: {dimensions}.",
    if flags = [] then none else some flags)

/-- `citation_fields`. -/
def citationFields : List String :=
  ["type", "assessment", "job_evidence_id", "candidate_evidence_id", "job_quote_id",
    "candidate_quote_id", "job_quote_hash", "candidate_quote_hash", "job_evidence",
    "candidate_evidence"]

/-- The mapping says what the citation says. -/
def Says (stored : Dict String Json) (citation : Citation String) : Prop :=
  ∀ key ∈ citationFields, value stored key = value citation.record key

instance (stored : Dict String Json) (citation : Citation String) :
    Decidable (Says stored citation) :=
  inferInstanceAs (Decidable (∀ key ∈ citationFields, _))

omit [StoredValues] in
theorem says_record (citation : Citation String) : Says citation.record citation := fun _ _ => rfl

section

variable {stored : List (Dict String Json)} {citations : List (Citation String)}

section

omit [StoredValues]

theorem forall₂_filter {kept : Dict String Json → Bool} {picked : Citation String → Bool}
    (agree : ∀ stored citation, Says stored citation → kept stored = picked citation)
    (said : List.Forall₂ Says stored citations) :
    List.Forall₂ Says (stored.filter kept) (citations.filter picked) := by
  induction said with
  | nil => exact .nil
  | cons first _ inductionHypothesis =>
    rw [List.filter_cons, List.filter_cons, agree _ _ first]
    split
    · exact .cons first inductionHypothesis
    · exact inductionHypothesis

theorem map_eq_of_said {Shown : Type} {read : Dict String Json → Shown}
    {say : Citation String → Shown}
    (agree : ∀ stored citation, Says stored citation → read stored = say citation)
    (said : List.Forall₂ Says stored citations) : stored.map read = citations.map say := by
  induction said with
  | nil => rfl
  | cons first _ inductionHypothesis =>
    rw [List.map_cons, List.map_cons, agree _ _ first, inductionHypothesis]

theorem assessment_of_said {stored : Dict String Json} {citation : Citation String}
    (said : Says stored citation) : value stored "assessment" = .str citation.assessment.text :=
  said "assessment" (by decide)

theorem type_of_said {stored : Dict String Json} {citation : Citation String}
    (said : Says stored citation) : value stored "type" = .str citation.type.text :=
  said "type" (by decide)

/-- A label is that of the assessment. -/
theorem label_of_said (assessment : Assessment) (stored : Dict String Json)
    (citation : Citation String) (said : Says stored citation) :
    decide (value stored "assessment" = .str assessment.text) =
      decide (citation.assessment = assessment) := by
  rw [assessment_of_said said]
  refine decide_eq_decide.mpr ⟨fun same => Assessment.text_inj (Json.str.inj same), ?_⟩
  intro same
  rw [same]

theorem countLabel_eq (assessment : Assessment) (said : List.Forall₂ Says stored citations) :
    countLabel assessment.text stored = countAssessed assessment citations :=
  (forall₂_filter (label_of_said assessment) said).length_eq

end

/-- The outcome is that of the citations. -/
theorem deriveMatchOutcome_eq [MatchWeights] (scores : Dimension → Int)
    (said : List.Forall₂ Says stored citations) :
    deriveMatchOutcome scores stored = CareerOS.deriveMatchOutcome scores citations := by
  have risky : (stored.filter fun citation => value citation "assessment" = .str "risk").map
        (fun citation => StoredValues.shown (value citation "type")) =
      (citations.filter fun citation => citation.assessment = .risk).map
        fun citation => citation.type.text :=
    map_eq_of_said (fun stored citation said => by
      rw [type_of_said said, StoredValues.shown_str])
      (forall₂_filter (label_of_said .risk) said)
  have among (dimension : Dimension) : decide (dimension.text ∈ (citations.filter fun citation =>
        citation.assessment = .risk).map fun citation => citation.type.text) =
      decide (dimension ∈ (citations.filter fun citation => citation.assessment = .risk).map
        fun citation => citation.type) := by
    refine decide_eq_decide.mpr ⟨fun inside => ?_, fun inside => ?_⟩
    · obtain ⟨citation, member, same⟩ := List.mem_map.mp inside
      exact List.mem_map.mpr ⟨citation, member, Dimension.text_inj same⟩
    · obtain ⟨citation, member, rfl⟩ := List.mem_map.mp inside
      exact List.mem_map.mpr ⟨citation, member, rfl⟩
  have none : stored ≠ [] ↔ citations ≠ [] := by
    rw [← List.length_pos_iff, ← List.length_pos_iff, said.length_eq]
  have insufficient : countLabel "insufficient_evidence" stored =
    countAssessed .insufficientEvidence citations := countLabel_eq .insufficientEvidence said
  unfold deriveMatchOutcome CareerOS.deriveMatchOutcome
  simp only [risky, among, none, insufficient, said.length_eq]

omit [StoredValues] in
/-- The words of the dimensions that are cited, in order. -/
theorem sorted_types (types : List Dimension) :
    (types.map Dimension.text).dedup.insertionSort (· ≤ ·) =
      (sortedDimensions.filter fun dimension => dimension ∈ types).map Dimension.text := by
  have ordered : ((sortedDimensions.filter fun dimension => dimension ∈ types).map
      Dimension.text).Pairwise (· < ·) := by
    have whole : (sortedDimensions.map Dimension.text).Pairwise (· < ·) := by decide
    exact (whole.sublist (List.filter_sublist.map _))
  refine List.Perm.eq_of_pairwise ?_ (List.pairwise_insertionSort _ _)
    (ordered.imp le_of_lt) ?_
  · exact fun first second _ _ before after => le_antisymm before after
  · refine (List.perm_insertionSort _ _).trans ?_
    rw [List.perm_ext_iff_of_nodup (List.nodup_dedup _) (ordered.imp ne_of_lt)]
    intro word
    rw [List.mem_dedup, List.mem_map, List.mem_map]
    constructor
    · rintro ⟨dimension, member, rfl⟩
      refine ⟨dimension, List.mem_filter.mpr ⟨?_, decide_eq_true member⟩, rfl⟩
      cases dimension <;> decide
    · rintro ⟨dimension, member, rfl⟩
      exact ⟨dimension, of_decide_eq_true (List.mem_filter.mp member).2, rfl⟩

theorem truthy_text (dimension : Dimension) : truthy (.str dimension.text) = true := by
  cases dimension <;> rfl

/-- The wording is that of the citations. -/
theorem deriveMatchPresentation_eq (recommendation : MatchRecommendation)
    (said : List.Forall₂ Says stored citations) :
    deriveMatchPresentation recommendation stored =
      CareerOS.deriveMatchPresentation recommendation citations := by
  have typed : ∀ stored citation, Says stored citation →
      truthy (value stored "type") = true := by
    intro stored citation said
    rw [type_of_said said, truthy_text]
  have types : (stored.filter fun citation => truthy (value citation "type")).map
        (fun citation => StoredValues.shown (value citation "type")) =
      (citations.filter fun _ => true).map fun citation => citation.type.text :=
    map_eq_of_said (fun stored citation said => by
      rw [type_of_said said, StoredValues.shown_str]) (forall₂_filter typed said)
  have risks : (stored.filter fun citation => value citation "assessment" = .str "risk" ∧
        truthy (value citation "type")).map
        (fun citation => "evidence_risk:" ++ StoredValues.shown (value citation "type")) =
      (citations.filter fun citation => citation.assessment = .risk).map
        fun citation => s!"evidence_risk:{citation.type.text}" := by
    refine map_eq_of_said (fun stored citation said => ?_) (forall₂_filter ?_ said)
    · rw [type_of_said said, StoredValues.shown_str]
      rfl
    · intro stored citation said
      rw [← label_of_said .risk stored citation said]
      exact decide_eq_decide.mpr (and_iff_left (typed stored citation said))
  have strengths : countLabel "strength" stored = countAssessed .strength citations :=
    countLabel_eq .strength said
  have weaknesses : countLabel "weakness" stored = countAssessed .weakness citations :=
    countLabel_eq .weakness said
  have gaps : countLabel "gap" stored = countAssessed .gap citations := countLabel_eq .gap said
  have risky : countLabel "risk" stored = countAssessed .risk citations :=
    countLabel_eq .risk said
  rw [List.filter_true] at types
  have sorted := sorted_types (citations.map fun citation => citation.type)
  rw [List.map_map] at sorted
  unfold deriveMatchPresentation CareerOS.deriveMatchPresentation
  simp only [types, risks, strengths, weaknesses, gaps, risky]
  simp only [Function.comp_def] at sorted
  rw [sorted]

end

/-! ### The checks -/

/-- `_mapping(analysis_structured) or {}`. -/
def structuredOf (record : Dict String Json) : Dict String Json :=
  (jsonItems (value record "analysis_structured")).getD []

/-- The citations of a record; what is no mapping has no `get`. -/
def readCitations (record : Dict String Json) (refusal : String) :
    Except String (List (Dict String Json)) := do
  let items ← readItems (value (structuredOf record) "evidence_citations") refusal
  items.mapM (readMapping "a citation has no attribute get")

/-- The flags, as they are stored. -/
def flagsValue : Option (List String) → Json
  | none => .null
  | some flags => .ofTexts flags

omit [StoredValues] in
theorem readCitations_ok_iff {citations : List (Dict String Json)} :
    readCitations record refusal = .ok citations ↔
      value (structuredOf record) "evidence_citations" = .arr (citations.map .obj) := by
  unfold readCitations
  simp only [bind_ok_iff, readItems_ok_iff, mapM_ok_iff_forall₂, readMapping_ok_iff]
  constructor
  · rintro ⟨items, stored, read⟩
    have same := List.forall₂_map_right_iff.mpr read
    rw [List.forall₂_eq_eq_eq] at same
    rw [stored, same]
  · intro stored
    exact ⟨_, stored, List.forall₂_map_left_iff.mpr (List.forall₂_same.mpr fun _ _ => rfl)⟩

variable [TextTables] [CaseTables] [MatchWeights] [Fingerprints String]

/-- `validate_persisted_match_payload`, with the scores it returns. -/
def validatePersistedMatchPayload (record : Dict String Json) :
    Except String (Dimension → Int) := do
  let scores ← canonicalContractRow record
  refuseWhen (value record "analysis_row_fingerprint" ≠ .str (Fingerprints.scores scores))
    "analysis row fingerprint does not match its contract payload"
  let citations ← readCitations record "visible match outcome is inconsistent with cited dimensions"
  let (score, recommendation, worthApplying) := deriveMatchOutcome scores citations
  refuseWhen (¬(wholeNumber (value record "affinity_score") = some score ∧
      value record "worth_applying" = .bool worthApplying ∧
      value (structuredOf record) "recommendation" = .str recommendation.text))
    "visible match outcome is inconsistent with cited dimensions"
  let (summary, flags) := deriveMatchPresentation recommendation citations
  refuseWhen (value record "affinity_analysis" ≠ .str summary)
    "visible match summary is not deterministically derived"
  refuseWhen (value record "red_flags" ≠ flagsValue flags)
    "visible match flags are not deterministically derived"
  return scores

/-- The check of one side of a citation against the current quotes. -/
def quoteBinding (bindings : Dict String (Quote String)) (citation : Dict String Json)
    (side : String) : Except String (Quote String) :=
  match Dict.lookup (StoredValues.shown (value citation (side ++ "_quote_id"))) bindings with
  | some quote =>
    if value citation "type" = .str quote.dimension.text ∧
        value citation (side ++ "_quote_hash") = .str quote.textHash ∧
        value citation (side ++ "_evidence") = .str quote.text then .ok quote
    else .error "analysis citation does not match its current atomic evidence"
  | none => .error "analysis citation does not match its current atomic evidence"

/-- The check of one citation of a record. -/
def validateCitation (bindings : Dict String (Quote String)) (scores : Dimension → Int)
    (citation : Dict String Json) : Except String PUnit := do
  let job ← quoteBinding bindings citation "job"
  let candidate ← quoteBinding bindings citation "candidate"
  refuseWhen (value citation "assessment" ≠ .str (deriveCitationAssessment job.dimension
      (scores job.dimension) job.content candidate.content).text)
    "analysis citation assessment is not deterministically materialized"

/-- `validate_match_attestation` of a record. -/
def validateMatchAttestation (record : Dict String Json) (execution : Option (AIExecution String))
    (expectedUserId : Option Nat) (expectedInputFingerprint : String)
    (bindings : Dict String (Quote String)) (expectedCitations : List (Citation String)) :
    Except String Unit := do
  let scores ← validatePersistedMatchPayload record
  refuseWhen (value record "analysis_provenance" ≠ .str "local_model_validated")
    "analysis provenance is not model-validated"
  let modelId ← readText (value record "analysis_model_id") "analysis model identity is missing"
  refuseWhen (Text.blank modelId) "analysis model identity is missing"
  refuseWhen (value record "analysis_contract_version" ≠ .str "1.1.0")
    "analysis contract version is unsupported"
  refuseWhen (value record "analysis_validated_at" = .null) "analysis validation time is missing"
  match execution with
  | none => throw "analysis execution receipt is missing"
  | some execution =>
    let executionId ← readText (value record "analysis_execution_id")
      "analysis execution identity is invalid"
    refuseWhen (canonicalUuid executionId = false) "analysis execution identity is invalid"
    refuseWhen (execution.id ≠ executionId) "analysis references a different execution"
    refuseWhen (execution.accepted = false ∨ execution.task ≠ "job_match")
      "analysis execution was not an accepted job match"
    refuseWhen (execution.modelId ≠ modelId ∨ execution.contractVersion ≠ "1.1.0")
      "analysis model receipt does not match its metadata"
    refuseWhen (expectedUserId ≠ none ∧ execution.userId ≠ expectedUserId)
      "analysis execution belongs to a different user"
    let output ← readText (value record "analysis_output_fingerprint")
      "analysis batch fingerprint does not match its execution"
    refuseWhen (output.length ≠ 64 ∨ execution.outputFingerprint ≠ some output)
      "analysis batch fingerprint does not match its execution"
    let rowIndex ← readIndex (value record "analysis_execution_row_index")
      "analysis row is not present in its execution receipt"
    refuseWhen (execution.rowFingerprints[rowIndex]?.map .str ≠
        some (value record "analysis_row_fingerprint"))
      "analysis row is not present in its execution receipt"
    refuseWhen (value record "analysis_input_fingerprint" ≠ .str expectedInputFingerprint ∨
        execution.rowInputFingerprints[rowIndex]? ≠ some expectedInputFingerprint)
      "analysis input does not match its current job evidence"
    let citations ← readCitations record "analysis citations are unavailable"
    refuseWhen (¬List.Forall₂ Says citations expectedCitations)
      "analysis citations are not server-materialized"
    forM citations (validateCitation bindings scores)

/-- A record that is attested by an execution, with the scores and the citations it holds. -/
structure Attested (record : Dict String Json) (execution : AIExecution String)
    (expectedUserId : Option Nat) (expectedInputFingerprint : String)
    (bindings : Dict String (Quote String)) (expectedCitations : List (Citation String))
    (scores : Dimension → Int) (citations : List (Dict String Json)) : Prop where
  scored : ∀ dimension, wholeNumber (value record dimension.scoreField) = some (scores dimension) ∧
    0 ≤ scores dimension ∧ scores dimension ≤ 100
  fingerprinted : value record "analysis_row_fingerprint" = .str (Fingerprints.scores scores)
  cited : value (structuredOf record) "evidence_citations" = .arr (citations.map .obj)
  outcome : wholeNumber (value record "affinity_score") =
      some (deriveMatchOutcome scores citations).1 ∧
    value record "worth_applying" = .bool (deriveMatchOutcome scores citations).2.2 ∧
    value (structuredOf record) "recommendation" =
      .str (deriveMatchOutcome scores citations).2.1.text
  summarized : value record "affinity_analysis" =
    .str (deriveMatchPresentation (deriveMatchOutcome scores citations).2.1 citations).1
  flagged : value record "red_flags" = flagsValue
    (deriveMatchPresentation (deriveMatchOutcome scores citations).2.1 citations).2
  provenance : value record "analysis_provenance" = .str "local_model_validated"
  model : value record "analysis_model_id" = .str execution.modelId ∧
    Text.blank execution.modelId = false
  versioned : value record "analysis_contract_version" = .str "1.1.0" ∧
    execution.contractVersion = "1.1.0"
  dated : value record "analysis_validated_at" ≠ .null
  identified : value record "analysis_execution_id" = .str execution.id ∧
    canonicalUuid execution.id = true
  accepted : execution.accepted = true ∧ execution.task = "job_match"
  owned : expectedUserId = none ∨ execution.userId = expectedUserId
  output : ∃ output, value record "analysis_output_fingerprint" = .str output ∧
    output.length = 64 ∧ execution.outputFingerprint = some output
  row : ∃ rowIndex : Nat, value record "analysis_execution_row_index" = .int rowIndex ∧
    execution.rowFingerprints[rowIndex]? = some (Fingerprints.scores scores) ∧
    execution.rowInputFingerprints[rowIndex]? = some expectedInputFingerprint
  input : value record "analysis_input_fingerprint" = .str expectedInputFingerprint
  materialized : List.Forall₂ Says citations expectedCitations
  bound : ∀ citation ∈ citations, validateCitation bindings scores citation = .ok ⟨⟩

omit [TextTables] [CaseTables] in
theorem validatePersistedMatchPayload_ok_iff
    {scores : Dimension → Int} : validatePersistedMatchPayload record = .ok scores ↔
      (∀ dimension, wholeNumber (value record dimension.scoreField) = some (scores dimension) ∧
        0 ≤ scores dimension ∧ scores dimension ≤ 100) ∧
      value record "analysis_row_fingerprint" = .str (Fingerprints.scores scores) ∧
      ∃ citations, value (structuredOf record) "evidence_citations" =
          .arr (citations.map .obj) ∧
        (wholeNumber (value record "affinity_score") =
            some (deriveMatchOutcome scores citations).1 ∧
          value record "worth_applying" = .bool (deriveMatchOutcome scores citations).2.2 ∧
          value (structuredOf record) "recommendation" =
            .str (deriveMatchOutcome scores citations).2.1.text) ∧
        value record "affinity_analysis" =
          .str (deriveMatchPresentation (deriveMatchOutcome scores citations).2.1 citations).1 ∧
        value record "red_flags" = flagsValue
          (deriveMatchPresentation (deriveMatchOutcome scores citations).2.1 citations).2 := by
  unfold validatePersistedMatchPayload
  simp only [bind_ok_iff, pure_ok_iff, refuseWhen_ok_iff, canonicalContractRow_ok_iff,
    readCitations_ok_iff, not_not, ne_eq]
  constructor
  · rintro ⟨_, scored, _, fingerprinted, citations, cited, _, outcome, _, summarized, _, flagged,
      rfl⟩
    exact ⟨scored, fingerprinted, citations, cited, outcome, summarized, flagged⟩
  · rintro ⟨scored, fingerprinted, citations, cited, outcome, summarized, flagged⟩
    exact ⟨_, scored, (), fingerprinted, citations, cited, (), outcome, (), summarized, (),
      flagged, rfl⟩

/-- The checks pass exactly for a record that is attested. -/
theorem validateMatchAttestation_ok_iff
    {execution : Option (AIExecution String)} {expectedUserId : Option Nat}
    {expectedInputFingerprint : String} {bindings : Dict String (Quote String)}
    {expectedCitations : List (Citation String)} :
    validateMatchAttestation record execution expectedUserId expectedInputFingerprint bindings
        expectedCitations = .ok () ↔
      ∃ executed, execution = some executed ∧ ∃ scores citations, Attested record executed
        expectedUserId expectedInputFingerprint bindings expectedCitations scores citations := by
  unfold validateMatchAttestation
  cases execution with
  | none =>
    simp only [bind_ok_iff, refuseWhen_ok_iff]
    constructor
    · rintro ⟨_, -, _, -, _, -, _, -, _, -, _, -, impossible⟩
      cases impossible
    · rintro ⟨_, impossible, -⟩
      cases impossible
  | some executed =>
    simp only [bind_ok_iff, refuseWhen_ok_iff, readText_ok_iff, readIndex_ok_iff,
      readCitations_ok_iff, validatePersistedMatchPayload_ok_iff]
    constructor
    · rintro ⟨scores, ⟨scored, fingerprinted, shown, shownCited, outcome, summarized, flagged⟩, _,
        provenance, model, named, _, solid, _, versioned, _, dated, identity, identified, _,
        canonical, _, same, _, accepted, _, received, _, owned, output, outputs, _, digest,
        rowIndex, indexed, _, listed, _, matched, citations, cited, _, materialized, bound⟩
      obtain rfl := List.map_injective_iff.mpr (fun _ _ same => Json.obj.inj same)
        (Json.arr.inj (shownCited.symm.trans cited))
      rw [not_or, Bool.not_eq_false, not_not] at accepted
      rw [not_or, not_not, not_not] at received
      obtain rfl := received.1
      rw [not_not] at same
      obtain rfl := same
      rw [Bool.not_eq_false] at canonical
      rw [not_or, not_not, not_not] at digest
      rw [not_or, not_not, not_not] at matched
      rw [not_and_or, not_not, not_not] at owned
      rw [not_not, fingerprinted, Option.map_eq_some_iff] at listed
      obtain ⟨digested, listed, same⟩ := listed
      obtain rfl := Json.str.inj same
      exact ⟨executed, rfl, scores, shown,
        { scored, fingerprinted, cited, outcome, summarized, flagged
          provenance := not_not.mp provenance
          model := ⟨named, Bool.eq_false_of_not_eq_true solid⟩
          versioned := ⟨not_not.mp versioned, received.2⟩
          dated
          identified := ⟨identified, canonical⟩
          accepted
          owned
          output := ⟨output, outputs, digest.1, digest.2⟩
          row := ⟨rowIndex, indexed, listed, matched.2⟩
          input := matched.1
          materialized := not_not.mp materialized
          bound := (forM_ok_iff _).mp bound }⟩
    · rintro ⟨_, same, scores, citations, attested⟩
      obtain rfl := Option.some.inj same
      obtain ⟨output, outputs, sized, digest⟩ := attested.output
      obtain ⟨rowIndex, indexed, listed, matched⟩ := attested.row
      refine ⟨scores, ⟨attested.scored, attested.fingerprinted, citations, attested.cited,
        attested.outcome, attested.summarized, attested.flagged⟩, (),
        not_not.mpr attested.provenance, _, attested.model.1, (),
        Bool.not_eq_true _ ▸ attested.model.2, (), not_not.mpr attested.versioned.1, (),
        attested.dated, _, attested.identified.1, (), ?_, (), not_not.mpr rfl, (), ?_, (), ?_, (),
        ?_, output, outputs, (), ?_, rowIndex, indexed, (), ?_, (), ?_, citations, attested.cited,
        (), not_not.mpr attested.materialized, (forM_ok_iff _).mpr attested.bound⟩
      · rw [attested.identified.2]
        exact nofun
      · rw [attested.accepted.1, attested.accepted.2]
        exact fun refused => refused.elim nofun fun different => different rfl
      · exact fun refused => refused.elim (fun different => different rfl)
          fun different => different attested.versioned.2
      · exact fun refused => attested.owned.elim refused.1 refused.2
      · exact fun refused => refused.elim (fun different => different sized)
          fun different => different digest
      · rw [listed, attested.fingerprinted]
        exact fun different => different rfl
      · exact fun refused => refused.elim (fun different => different attested.input)
          fun different => different matched

end

end MatchRecords

end CareerOS
