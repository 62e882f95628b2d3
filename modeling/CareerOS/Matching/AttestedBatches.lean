/-
This file is a match from the accepted model call to the record that is checked: the
scores are put under the policy, the execution is recorded with the digests of its
rows and of their inputs, and every row becomes an analysis.

What comes out passes the attestation against the same documents. Where the digests
are different for different rows, nothing else does: the digest of a row fixes the
scores, the documents fix the quotes, and the rest is derived from both.
-/

import CareerOS.Matching.MatchRecords
import CareerOS.Matching.StoredAnalyses

namespace CareerOS

/-! ### The model call -/

/-- The runtimes a model can be served by. -/
inductive LocalRuntime
  | ollama
  | llamaCpp

/-- `model_id` of a provider, which strips the name of its model. -/
def LocalRuntime.modelId (runtime : LocalRuntime) (model : String) : String :=
  match runtime with
  | ollama => "ollama-local/" ++ Text.strip model
  | llamaCpp => "llama-cpp-local/" ++ Text.strip model

/-- `fingerprint_output` of a whole output: a digest in hexadecimal digits. -/
class OutputDigest where
  output : List (Dimension → Int) → String
  length_output : ∀ rows, (output rows).length = 64

/-- An accepted match: the rows under the policy and the execution that is recorded. -/
structure MatchBatch where
  rows : List (Dimension → Int)
  execution : AIExecution String

/-- `_local_ai_execution`. -/
def MatchBatch.receipt (batch : MatchBatch) : LocalExecution String where
  modelId := batch.execution.modelId
  contractVersion := batch.execution.contractVersion
  executionId := some batch.execution.id
  outputFingerprint := batch.execution.outputFingerprint
  rowFingerprints := batch.execution.rowFingerprints
  rowInputFingerprints := batch.execution.rowInputFingerprints

/-- `int(item.id.split(":", 1)[1])` of a job. -/
def jobIndex (id : String) : Nat := Nat.ofDigitChars 10 (id.toList.drop 4) 0

section

variable [TextTables] [CaseTables] [ClauseGrammar] [MatchWeights] [Fingerprints String]

/-- `fingerprint_match_input_rows`. -/
def fingerprintMatchInputRows (evidence : List (EvidenceDocument String)) : List String :=
  match candidateOf evidence with
  | none => []
  | some candidate =>
    let jobs := evidence.filter fun document =>
      document.kind = .job ∧ "job:".toList <+: document.id.toList
    (jobs.insertionSort fun first second => jobIndex first.id ≤ jobIndex second.id).map
      (matchInputFingerprint candidate)

/-- `evidence` of `analyze_job_batch`. -/
def matchEvidence (profile : CandidateProfileFields) (jobs : List JobFields) :
    List (EvidenceDocument String) :=
  candidateEvidenceDocument profile :: jobs.mapIdx fun rowIndex job =>
    jobEvidenceDocument job rowIndex

/-- `LocalAIOrchestrator.execute` of a match, at the attempt whose output is accepted. The bundle
lists the documents of the evidence as they are ranked. -/
def executeJobMatch [OutputDigest] (bundle evidence : List (EvidenceDocument String))
    (expectedRows : Nat) (proposed : List (Dimension → Int)) (userId : Option Nat)
    (modelId executionId : String) : Except String MatchBatch := do
  refuseWhen (proposed = [] ∨ 12 < proposed.length) "schema_invalid"
  refuseWhen (∃ scores ∈ proposed, ∃ dimension ∈ Dimension.all,
    ¬(0 ≤ scores dimension ∧ scores dimension ≤ 100)) "schema_invalid"
  let enforced := enforceMatchScorePolicy bundle (proposed.map scoreRow)
  refuseWhen (enforced.length ≠ expectedRows) "row_count_mismatch"
  refuseWhen (policyChanges bundle enforced ≠ []) "semantic_invalid"
  let rows := enforced.map proposedScores
  refuseWhen (modelId = "" ∨ 240 < modelId.length) "model_id"
  return {
    rows
    execution := {
      id := executionId
      userId
      task := "job_match"
      contractVersion := "1.1.0"
      modelId
      outputFingerprint := some (OutputDigest.output rows)
      rowFingerprints := rows.map Fingerprints.scores
      rowInputFingerprints := fingerprintMatchInputRows evidence
      accepted := true } }

end

/-! ### The record of an analysis -/

/-- A text that may be missing. -/
def optionalText : Option String → Json
  | some text => .str text
  | none => .null

/-- The mapping of one result of `analyze_job_batch`, with the time it was checked. -/
def MatchAnalysis.record (analysis : MatchAnalysis String) (validatedAt : String) :
    Dict String Json :=
  [("affinity_score", .int analysis.affinityScore),
    ("affinity_analysis", .str analysis.affinityAnalysis),
    ("worth_applying", .bool analysis.worthApplying)] ++ scoreRow analysis.scores ++
  [("analysis_structured", .obj [
      ("recommendation", .str analysis.structured.recommendation.text),
      ("evidence_citations",
        .arr ((analysis.structured.evidenceCitations.map Citation.record).map .obj))]),
    ("red_flags", MatchRecords.flagsValue analysis.redFlags),
    ("analysis_provenance", .str analysis.provenance),
    ("analysis_model_id", .str analysis.modelId),
    ("analysis_contract_version", .str analysis.contractVersion),
    ("analysis_execution_id", optionalText analysis.executionId),
    ("analysis_output_fingerprint", optionalText analysis.outputFingerprint),
    ("analysis_execution_row_index", .int analysis.rowIndex),
    ("analysis_row_fingerprint", optionalText analysis.rowFingerprint),
    ("analysis_input_fingerprint", optionalText analysis.inputFingerprint),
    ("analysis_validated_at", .str validatedAt)]

namespace MatchRecords

/-- What a record shows is what the analysis shows. -/
structure Shows [StoredValues] (record : Dict String Json) (analysis : MatchAnalysis String) :
    Prop where
  scores : ∀ dimension,
    wholeNumber (value record dimension.scoreField) = some (analysis.scores dimension)
  affinity : wholeNumber (value record "affinity_score") = some analysis.affinityScore
  worthApplying : value record "worth_applying" = .bool analysis.worthApplying
  recommendation : value (structuredOf record) "recommendation" =
    .str analysis.structured.recommendation.text
  citations : ∃ citations : List (Dict String Json),
    value (structuredOf record) "evidence_citations" = .arr (citations.map .obj) ∧
      List.Forall₂ Says citations analysis.structured.evidenceCitations
  summary : value record "affinity_analysis" = .str analysis.affinityAnalysis
  flags : value record "red_flags" = flagsValue analysis.redFlags

end MatchRecords

/-! ### Model ids are stripped -/

/-- A name that ends with a stop, and what is stripped after it, has no white space at its ends. -/
theorem strip_append_strip {name : String} {first stop : Char} {middle : List Char}
    (letters : name.toList = first :: (middle ++ [stop])) (start : Text.isSpace first = false)
    (solid : Text.isSpace stop = false) (model : String) :
    Text.strip (name ++ Text.strip model) = name ++ Text.strip model := by
  rw [← String.toList_inj, Text.toList_strip, String.toList_append, letters, Text.toList_strip,
    List.cons_append, List.append_assoc, List.singleton_append]
  unfold Text.stripList
  rw [List.dropWhile_cons_of_neg (by rw [start]; exact nofun), ← List.cons_append,
    Text.rdropWhile_append solid, List.rdropWhile_idempotent]

/-- The id of a model has no white space at its ends. -/
theorem strip_modelId (runtime : LocalRuntime) (model : String) :
    Text.strip (runtime.modelId model) = runtime.modelId model := by
  cases runtime with
  | ollama =>
    have letters : "ollama-local/".toList = 'o' :: ("llama-local".toList ++ ['/']) := by decide
    exact strip_append_strip letters (by decide) (by decide) model
  | llamaCpp =>
    have letters : "llama-cpp-local/".toList = 'l' :: ("lama-cpp-local".toList ++ ['/']) := by
      decide
    exact strip_append_strip letters (by decide) (by decide) model

theorem blank_modelId (runtime : LocalRuntime) (model : String) :
    Text.blank (runtime.modelId model) = false := by
  unfold Text.blank
  rw [strip_modelId, beq_eq_false_iff_ne]
  intro empty
  have letters := congrArg String.toList empty
  cases runtime with
  | ollama => rw [LocalRuntime.modelId, String.toList_append] at letters; cases letters
  | llamaCpp => rw [LocalRuntime.modelId, String.toList_append] at letters; cases letters

/-! ### The documents of a match -/

theorem find?_eq_some_of_unique {Item : Type} {items : List Item} {wanted : Item → Bool}
    {item : Item} (inside : item ∈ items) (holds : wanted item = true)
    (unique : ∀ other ∈ items, wanted other = true → other = item) :
    items.find? wanted = some item := by
  cases found : items.find? wanted with
  | none => exact absurd holds (List.find?_eq_none.mp found item inside)
  | some other =>
    rw [unique other (List.mem_of_find?_eq_some found) (List.find?_some found)]

theorem toList_jobId_nat (rowIndex : Nat) :
    (s!"job:{rowIndex}").toList = "job:".toList ++ (toString rowIndex).toList := by
  rw [String.toList_append]
  rfl

theorem jobId_inj {first second : Nat} (same : s!"job:{first}" = s!"job:{second}") :
    first = second := by
  have letters := congrArg String.toList same
  rw [toList_jobId_nat, toList_jobId_nat, List.append_cancel_left_eq] at letters
  exact toString_inj letters

theorem jobIndex_jobId (rowIndex : Nat) : jobIndex s!"job:{rowIndex}" = rowIndex := by
  unfold jobIndex
  rw [toList_jobId_nat, List.drop_left' (by decide)]
  have digits : (toString rowIndex).toList = Nat.toDigits 10 rowIndex := String.toList_ofList
  rw [digits]
  simp

section

variable [TextTables] [CaseTables] [ClauseGrammar] [Fingerprints String]
  {profile : CandidateProfileFields} {jobs : List JobFields}

omit [TextTables] in
theorem id_jobEvidenceDocument (job : JobFields) (rowIndex : Nat) :
    (jobEvidenceDocument job rowIndex : EvidenceDocument String).id = s!"job:{rowIndex}" := rfl

omit [TextTables] in
/-- A document of the evidence is the candidate or the job of a row. -/
theorem mem_matchEvidence {document : EvidenceDocument String}
    (member : document ∈ matchEvidence profile jobs) :
    document = candidateEvidenceDocument profile ∨ ∃ (rowIndex : Nat) (job : JobFields),
      jobs[rowIndex]? = some job ∧ document = jobEvidenceDocument job rowIndex := by
  rcases List.mem_cons.mp member with same | inside
  · exact .inl same
  · obtain ⟨rowIndex, bound, rfl⟩ := List.mem_mapIdx.mp inside
    exact .inr ⟨rowIndex, jobs[rowIndex], List.getElem?_eq_getElem bound, rfl⟩

variable {job : JobFields} {rowIndex : Nat}

omit [TextTables] in
theorem jobEvidenceDocument_mem (row : jobs[rowIndex]? = some job) :
    (jobEvidenceDocument job rowIndex : EvidenceDocument String) ∈ matchEvidence profile jobs := by
  obtain ⟨bound, rfl⟩ := List.getElem?_eq_some_iff.mp row
  exact List.mem_cons_of_mem _ (List.mem_mapIdx.mpr ⟨rowIndex, bound, rfl⟩)

variable {bundle : List (EvidenceDocument String)}

omit [TextTables] in
theorem candidateOf_bundle (ranked : bundle.Perm (matchEvidence profile jobs)) :
    candidateOf bundle = some (candidateEvidenceDocument profile) := by
  refine find?_eq_some_of_unique (ranked.mem_iff.mpr List.mem_cons_self) (decide_eq_true rfl) ?_
  intro document inside named
  rcases mem_matchEvidence (ranked.mem_iff.mp inside) with same | ⟨rowIndex, job, -, rfl⟩
  · exact same
  · have letters := congrArg String.toList (of_decide_eq_true named)
    rw [id_jobEvidenceDocument, toList_jobId_nat] at letters
    cases letters

omit [TextTables] in
theorem jobOf_bundle (ranked : bundle.Perm (matchEvidence profile jobs))
    (row : jobs[rowIndex]? = some job) :
    jobOf bundle rowIndex = some (jobEvidenceDocument job rowIndex) := by
  refine find?_eq_some_of_unique
    (List.mem_reverse.mpr (ranked.mem_iff.mpr (jobEvidenceDocument_mem row)))
    (decide_eq_true ⟨rfl, rfl⟩) ?_
  intro document inside named
  have member := ranked.mem_iff.mp (List.mem_reverse.mp inside)
  obtain ⟨kind, id⟩ := of_decide_eq_true named
  rcases mem_matchEvidence member with rfl | ⟨other, otherJob, otherRow, rfl⟩
  · cases kind
  · obtain rfl := jobId_inj id
    rw [Option.some.inj (row.symm.trans otherRow)]

omit [TextTables] in
/-- The input of every job has its digest at the row of the job. -/
theorem fingerprintMatchInputRows_evidence :
    fingerprintMatchInputRows (matchEvidence profile jobs) =
      jobs.mapIdx fun rowIndex job => matchInputFingerprint (candidateEvidenceDocument profile)
        (jobEvidenceDocument job rowIndex) := by
  have kept : (matchEvidence profile jobs : List (EvidenceDocument String)).filter (fun document =>
      document.kind = .job ∧ "job:".toList <+: document.id.toList) =
      jobs.mapIdx fun rowIndex job => jobEvidenceDocument job rowIndex := by
    unfold matchEvidence
    rw [List.filter_cons_of_neg (by
      intro kept
      cases (of_decide_eq_true kept).1)]
    refine List.filter_eq_self.mpr fun document member => ?_
    obtain ⟨rowIndex, bound, rfl⟩ := List.mem_mapIdx.mp member
    refine decide_eq_true ⟨rfl, ?_⟩
    rw [id_jobEvidenceDocument, toList_jobId_nat]
    exact List.prefix_append _ _
  have sorted : (jobs.mapIdx fun rowIndex job =>
      (jobEvidenceDocument job rowIndex : EvidenceDocument String)).Pairwise
        fun first second => jobIndex first.id ≤ jobIndex second.id := by
    rw [List.pairwise_iff_getElem]
    intro first second _ _ before
    rw [List.getElem_mapIdx, List.getElem_mapIdx, id_jobEvidenceDocument, id_jobEvidenceDocument,
      jobIndex_jobId, jobIndex_jobId]
    exact before.le
  unfold fingerprintMatchInputRows
  rw [candidateOf_bundle (List.Perm.refl _)]
  dsimp only
  rw [kept, sorted.insertionSort_eq]
  refine List.ext_getElem (by simp) fun rowIndex _ _ => ?_
  rw [List.getElem_map, List.getElem_mapIdx, List.getElem_mapIdx]

/-! ### An accepted batch -/

variable [MatchWeights] [OutputDigest]

/-- What is recorded of an accepted match. -/
structure AcceptedBatch (profile : CandidateProfileFields) (jobs : List JobFields)
    (proposed : List (Dimension → Int)) (userId : Option Nat) (modelId executionId : String)
    (batch : MatchBatch) : Prop where
  rows : batch.rows.length = jobs.length
  enforced : ∀ (rowIndex : Nat) (job : JobFields), jobs[rowIndex]? = some job →
    ∃ scores, proposed[rowIndex]? = some scores ∧ batch.rows[rowIndex]? = some (enforcedScores
      (candidateEvidenceDocument profile : EvidenceDocument String)
      (jobEvidenceDocument job rowIndex) scores)
  within : ∀ (rowIndex : Nat) (scores : Dimension → Int), batch.rows[rowIndex]? = some scores →
    ∀ dimension, 0 ≤ scores dimension ∧ scores dimension ≤ 100
  execution : batch.execution = {
    id := executionId
    userId
    task := "job_match"
    contractVersion := "1.1.0"
    modelId
    outputFingerprint := some (OutputDigest.output batch.rows)
    rowFingerprints := batch.rows.map Fingerprints.scores
    rowInputFingerprints := fingerprintMatchInputRows (matchEvidence profile jobs)
    accepted := true }

theorem executeJobMatch_ok (ranked : bundle.Perm (matchEvidence profile jobs))
    {proposed : List (Dimension → Int)} {userId : Option Nat} {modelId executionId : String}
    {batch : MatchBatch} (accepted : executeJobMatch bundle (matchEvidence profile jobs)
      jobs.length proposed userId modelId executionId = .ok batch) :
    AcceptedBatch profile jobs proposed userId modelId executionId batch := by
  unfold executeJobMatch at accepted
  simp only [bind_ok_iff, refuseWhen_ok_iff, pure_ok_iff, not_not, ne_eq] at accepted
  obtain ⟨_, -, _, bounded, _, counted, _, -, _, -, rfl⟩ := accepted
  have bounds : ∀ scores ∈ proposed, ∀ dimension,
      0 ≤ scores dimension ∧ scores dimension ≤ 100 := by
    intro scores member dimension
    by_contra outside
    exact bounded ⟨scores, member, dimension, Dimension.mem_all dimension, outside⟩
  have enforced : enforceMatchScorePolicy bundle (proposed.map scoreRow) =
      (proposed.map scoreRow).mapIdx
        (enforceRow bundle (candidateEvidenceDocument profile)) := by
    unfold enforceMatchScorePolicy
    rw [candidateOf_bundle ranked]
  rw [enforced, List.length_mapIdx, List.length_map] at counted
  have row (rowIndex : Nat) (job : JobFields) (found : jobs[rowIndex]? = some job) :
      ∃ scores ∈ proposed, proposed[rowIndex]? = some scores ∧
        ((enforceMatchScorePolicy bundle (proposed.map scoreRow)).map
          proposedScores)[rowIndex]? = some (enforcedScores
            (candidateEvidenceDocument profile : EvidenceDocument String)
            (jobEvidenceDocument job rowIndex) scores) := by
    obtain ⟨bound, -⟩ := List.getElem?_eq_some_iff.mp found
    have inside : rowIndex < proposed.length := counted ▸ bound
    have known := bounds _ (List.getElem_mem inside)
    refine ⟨proposed[rowIndex], List.getElem_mem inside, List.getElem?_eq_getElem inside, ?_⟩
    rw [enforced, List.getElem?_map, List.getElem?_mapIdx, List.getElem?_map,
      List.getElem?_eq_getElem inside, Option.map_some, Option.map_some, Option.map_some,
      enforceRow, jobOf_bundle ranked found]
    dsimp only
    rw [proposedScores_scoreRow known,
      proposedScores_scoreRow (enforcedScores_bounds _ _ known)]
  refine ⟨?_, ?_, ?_, rfl⟩
  · rw [List.length_map, enforced, List.length_mapIdx, List.length_map, counted]
  · intro rowIndex job found
    obtain ⟨scores, -, proposal, made⟩ := row rowIndex job found
    exact ⟨scores, proposal, made⟩
  · intro rowIndex scores found dimension
    obtain ⟨stored, -, rfl⟩ := List.mem_map.mp (List.mem_of_getElem? found)
    exact proposedScore_bounds _

omit [OutputDigest] in
/-- What a batch becomes: the analyses of its rows, in order. -/
theorem analyzeJobBatch_getElem? {results : List ScoreRow} {execution : LocalExecution String}
    {analyses : List (MatchAnalysis String)}
    (analyzed : analyzeJobBatch jobs profile results execution = .ok analyses) :
    analyses.length = jobs.length ∧
      ∀ (rowIndex : Nat) (job : JobFields) (item : ScoreRow), jobs[rowIndex]? = some job →
        results[rowIndex]? = some item → analyses[rowIndex]? = some (analyzeRow
          (candidateEvidenceDocument profile) (jobEvidenceDocument job rowIndex) rowIndex item
            execution) := by
  unfold analyzeJobBatch at analyzed
  simp only [bind_ok_iff, refuseWhen_ok_iff, pure_ok_iff, not_not, ne_eq] at analyzed
  obtain ⟨_, -, _, -, _, counted, rfl⟩ := analyzed
  refine ⟨?_, ?_⟩
  · rw [List.length_mapIdx, List.length_zip]
    omega
  · intro rowIndex job item found read
    have both : (jobs.zip results)[rowIndex]? = some (job, item) :=
      List.getElem?_zip_eq_some.mpr ⟨found, read⟩
    rw [List.getElem?_mapIdx, both, Option.map_some]

/-! ### The citations of the server -/

omit [MatchWeights] [OutputDigest] in
/-- What says a citation of the server is bound to the current quotes, and it passes for scores
exactly when the citation is the same for them. -/
theorem validateCitation_of_said [StoredValues]
    {dimension : Dimension} {item : String × Quote String} (selected : item ∈ selectedJobQuotes
      (jobEvidenceDocument job rowIndex : EvidenceDocument String) dimension)
    (score : Int) (scores : Dimension → Int) {stored : Dict String Json}
    (said : MatchRecords.Says stored (materializeCitation (candidateEvidenceDocument profile)
      (jobEvidenceDocument job rowIndex) dimension score item)) :
    MatchRecords.validateCitation (matchQuoteBindings (candidateEvidenceDocument profile)
        (jobEvidenceDocument job rowIndex)) scores stored = .ok ⟨⟩ ↔
      materializeCitation (candidateEvidenceDocument profile) (jobEvidenceDocument job rowIndex)
          dimension score item =
        materializeCitation (candidateEvidenceDocument profile) (jobEvidenceDocument job rowIndex)
          dimension (scores dimension) item := by
  have quotes : documentQuotes (candidateEvidenceDocument profile : EvidenceDocument String)
      dimension ≠ [] := by
    rw [documentQuotes_candidate]
    exact dimensionQuotes_ne_nil (quoteFragments_ne_nil (noEvidence_ne_empty dimension))
  obtain ⟨best, found, candidate⟩ := bestCandidateQuote_mem quotes item.2.text
  obtain ⟨quoted, ofDimension⟩ := List.mem_filter.mp (selectedJobQuotes_subset _ _ item selected)
  obtain ⟨bestQuoted, bestOfDimension⟩ := List.mem_filter.mp candidate
  have dimensional := of_decide_eq_true ofDimension
  have bestDimensional := of_decide_eq_true bestOfDimension
  unfold materializeCitation at said ⊢
  simp only [found, Option.map_some] at said ⊢
  have typed : MatchRecords.value stored "type" = .str dimension.text :=
    MatchRecords.type_of_said said
  have jobBound : MatchRecords.quoteBinding (matchQuoteBindings (candidateEvidenceDocument profile)
      (jobEvidenceDocument job rowIndex)) stored "job" = .ok item.2 := by
    have id : MatchRecords.value stored "job_quote_id" = .str item.1 := said _ (by decide)
    have hash : MatchRecords.value stored "job_quote_hash" = .str item.2.textHash :=
      said _ (by decide)
    have text : MatchRecords.value stored "job_evidence" = .str item.2.text := said _ (by decide)
    unfold MatchRecords.quoteBinding
    rw [show "job" ++ "_quote_id" = "job_quote_id" from rfl, id, StoredValues.shown_str,
      lookup_matchQuoteBindings profile job rowIndex (.inr quoted)]
    exact if_pos ⟨by rw [typed, dimensional], hash, text⟩
  have candidateBound : MatchRecords.quoteBinding
      (matchQuoteBindings (candidateEvidenceDocument profile)
        (jobEvidenceDocument job rowIndex)) stored "candidate" = .ok best.2 := by
    have id : MatchRecords.value stored "candidate_quote_id" = .str best.1 := said _ (by decide)
    have hash : MatchRecords.value stored "candidate_quote_hash" = .str best.2.textHash :=
      said _ (by decide)
    have text : MatchRecords.value stored "candidate_evidence" = .str best.2.text :=
      said _ (by decide)
    unfold MatchRecords.quoteBinding
    rw [show "candidate" ++ "_quote_id" = "candidate_quote_id" from rfl, id,
      StoredValues.shown_str, lookup_matchQuoteBindings profile job rowIndex (.inl bestQuoted)]
    exact if_pos ⟨by rw [typed, bestDimensional], hash, text⟩
  have assessed : MatchRecords.value stored "assessment" = .str (deriveCitationAssessment dimension
    score item.2.content best.2.content).text := said _ (by decide)
  unfold MatchRecords.validateCitation
  simp only [jobBound, candidateBound, bind_ok_iff, refuseWhen_ok_iff, not_not, ne_eq, assessed]
  constructor
  · rintro ⟨_, isJob, _, isCandidate, same⟩
    obtain rfl := Except.ok.inj isJob
    obtain rfl := Except.ok.inj isCandidate
    rw [dimensional] at same
    rw [Assessment.text_inj (Json.str.inj same)]
  · intro same
    refine ⟨_, rfl, _, rfl, ?_⟩
    rw [dimensional]
    exact congrArg (fun citation : Citation String => Json.str citation.assessment.text) same

omit [MatchWeights] [OutputDigest] in
/-- Citations made for other scores pass only where they are those of the scores. -/
theorem materializeMatchCitations_of_bound [StoredValues]
    {shown scores : Dimension → Int} {citations : List (Dict String Json)}
    (said : List.Forall₂ MatchRecords.Says citations (materializeMatchCitations
      (candidateEvidenceDocument profile) (jobEvidenceDocument job rowIndex) shown))
    (bound : ∀ citation ∈ citations, MatchRecords.validateCitation
      (matchQuoteBindings (candidateEvidenceDocument profile) (jobEvidenceDocument job rowIndex))
        scores citation = .ok ⟨⟩) :
    materializeMatchCitations (candidateEvidenceDocument profile)
        (jobEvidenceDocument job rowIndex) shown =
      materializeMatchCitations (candidateEvidenceDocument profile : EvidenceDocument String)
        (jobEvidenceDocument job rowIndex) scores := by
  refine List.flatMap_congr fun dimension _ => List.map_congr_left fun item selected => ?_
  have member : materializeCitation (candidateEvidenceDocument profile)
      (jobEvidenceDocument job rowIndex) dimension (shown dimension) item ∈
      materializeMatchCitations (candidateEvidenceDocument profile : EvidenceDocument String)
        (jobEvidenceDocument job rowIndex) shown :=
    List.mem_flatMap.mpr ⟨dimension, Dimension.mem_all dimension,
      List.mem_map.mpr ⟨item, selected, rfl⟩⟩
  obtain ⟨index, place, shownHere⟩ := List.mem_iff_getElem.mp member
  have inside : index < citations.length := said.length_eq ▸ place
  have agreed := (List.forall₂_iff_get.mp said).2 index inside place
  rw [List.get_eq_getElem, List.get_eq_getElem, shownHere] at agreed
  exact (validateCitation_of_said selected _ scores agreed).mp
    (bound _ (List.getElem_mem inside))

/-! ### What passes -/

omit [TextTables] [CaseTables] [ClauseGrammar] [MatchWeights] [OutputDigest] in
/-- Rows with other scores have other digests, and so have the inputs of other jobs. -/
class DistinctDigests : Prop where
  scores : ∀ first second : Dimension → Int,
    (∀ dimension, 0 ≤ first dimension ∧ first dimension ≤ 100) →
      (∀ dimension, 0 ≤ second dimension ∧ second dimension ≤ 100) →
        (Fingerprints.scores first : String) = Fingerprints.scores second → first = second
  matchInput : ∀ candidate first second : MatchInput String,
    Fingerprints.matchInput candidate first = Fingerprints.matchInput candidate second →
      first.id = second.id

variable {proposed : List (Dimension → Int)} {userId : Option Nat} {runtime : LocalRuntime}
  {model executionId : String} {batch : MatchBatch}

omit [TextTables] [MatchWeights] in
theorem AcceptedBatch.receipt_eq [TextTables] [MatchWeights]
    (made : AcceptedBatch profile jobs proposed userId (runtime.modelId model) executionId batch) :
    batch.receipt = {
      modelId := runtime.modelId model
      contractVersion := "1.1.0"
      executionId := some executionId
      outputFingerprint := some (OutputDigest.output batch.rows)
      rowFingerprints := batch.rows.map Fingerprints.scores
      rowInputFingerprints := fingerprintMatchInputRows (matchEvidence profile jobs) } := by
  unfold MatchBatch.receipt
  rw [made.execution]

/-- A row of an accepted batch, as it is analyzed, is attested by the execution. -/
theorem attested_record [StoredValues]
    (made : AcceptedBatch profile jobs proposed userId (runtime.modelId model) executionId batch)
    (drawn : canonicalUuid executionId = true)
    (found : jobs[rowIndex]? = some job) {scores : Dimension → Int}
    (scored : batch.rows[rowIndex]? = some scores) (validatedAt : String) :
    let candidate : EvidenceDocument String := candidateEvidenceDocument profile
    let document := jobEvidenceDocument job rowIndex
    let analysis := analyzeRow candidate document rowIndex
      (fun dimension => some (scores dimension)) batch.receipt
    MatchRecords.validateMatchAttestation (analysis.record validatedAt) (some batch.execution)
      userId (matchInputFingerprint candidate document) (matchQuoteBindings candidate document)
      (materializeMatchCitations candidate document analysis.scores) = .ok () := by
  intro candidate document analysis
  have bounds := made.within rowIndex scores scored
  have same : analysis.scores = scores := by
    funext dimension
    have bound := bounds dimension
    show max 0 (min 100 (scores dimension)) = scores dimension
    omega
  have said : List.Forall₂ MatchRecords.Says
      (analysis.structured.evidenceCitations.map Citation.record)
      analysis.structured.evidenceCitations :=
    List.forall₂_map_left_iff.mpr
      (List.forall₂_same.mpr fun citation _ => MatchRecords.says_record citation)
  have outcome := MatchRecords.deriveMatchOutcome_eq analysis.scores said
  have presented := MatchRecords.deriveMatchPresentation_eq
    (CareerOS.deriveMatchOutcome analysis.scores analysis.structured.evidenceCitations).2.1 said
  have rowFingerprint : analysis.rowFingerprint = some (Fingerprints.scores scores) := by
    show batch.receipt.rowFingerprints[rowIndex]? = _
    rw [made.receipt_eq]
    show (batch.rows.map Fingerprints.scores)[rowIndex]? = _
    rw [List.getElem?_map, scored, Option.map_some]
  have inputs : (fingerprintMatchInputRows (matchEvidence profile jobs))[rowIndex]? =
      some (matchInputFingerprint candidate document) := by
    rw [fingerprintMatchInputRows_evidence, List.getElem?_mapIdx, found, Option.map_some]
  have inputFingerprint : analysis.inputFingerprint =
      some (matchInputFingerprint candidate document) := by
    show batch.receipt.rowInputFingerprints[rowIndex]? = _
    rw [made.receipt_eq]
    exact inputs
  have modelId : analysis.modelId = runtime.modelId model := by
    show Text.strip batch.receipt.modelId = _
    rw [made.receipt_eq]
    exact strip_modelId runtime model
  have contractVersion : analysis.contractVersion = "1.1.0" := by
    show Text.strip batch.receipt.contractVersion = _
    rw [made.receipt_eq]
    have word : Text.strip "1.1.0" = "1.1.0" := by decide
    exact word
  have identity : analysis.executionId = some executionId := by
    show batch.receipt.executionId = _
    rw [made.receipt_eq]
  have outputFingerprint : analysis.outputFingerprint =
      some (OutputDigest.output batch.rows) := by
    show batch.receipt.outputFingerprint = _
    rw [made.receipt_eq]
  rw [MatchRecords.validateMatchAttestation_ok_iff]
  refine ⟨_, rfl, analysis.scores, analysis.structured.evidenceCitations.map Citation.record, ?_⟩
  refine {
    scored := fun dimension => ⟨by cases dimension <;> rfl, by rw [same]; exact bounds dimension⟩
    fingerprinted := ?_
    cited := rfl
    outcome := by rw [outcome]; exact ⟨rfl, rfl, rfl⟩
    summarized := by rw [outcome, presented]; rfl
    flagged := by rw [outcome, presented]; rfl
    provenance := rfl
    model := ?_
    versioned := ?_
    dated := nofun
    identified := ?_
    accepted := by rw [made.execution]; exact ⟨rfl, rfl⟩
    owned := .inr (by rw [made.execution])
    output := ?_
    row := ?_
    input := ?_
    materialized := said
    bound := ?_ }
  · show optionalText analysis.rowFingerprint = _
    rw [rowFingerprint, same]
    rfl
  · rw [made.execution]
    exact ⟨congrArg Json.str modelId, blank_modelId runtime model⟩
  · rw [made.execution]
    exact ⟨congrArg Json.str contractVersion, rfl⟩
  · rw [made.execution]
    refine ⟨?_, drawn⟩
    show optionalText analysis.executionId = _
    rw [identity]
    rfl
  · refine ⟨OutputDigest.output batch.rows, ?_, OutputDigest.length_output _, ?_⟩
    · show optionalText analysis.outputFingerprint = _
      rw [outputFingerprint]
      rfl
    · rw [made.execution]
  · refine ⟨rowIndex, rfl, ?_, ?_⟩
    · rw [made.execution, same]
      show (batch.rows.map Fingerprints.scores)[rowIndex]? = _
      rw [List.getElem?_map, scored, Option.map_some]
    · rw [made.execution]
      exact inputs
  · show optionalText analysis.inputFingerprint = _
    rw [inputFingerprint]
    rfl
  · intro stored member
    obtain ⟨citation, cited, rfl⟩ := List.mem_map.mp member
    obtain ⟨dimension, -, inside⟩ := List.mem_flatMap.mp cited
    obtain ⟨item, selected, rfl⟩ := List.mem_map.mp inside
    exact (validateCitation_of_said selected _ analysis.scores
      (MatchRecords.says_record _)).mpr rfl

/-- A record that an execution attests for a row shows what that row is analyzed as. -/
theorem shows_of_attested [StoredValues] [DistinctDigests]
    (made : AcceptedBatch profile jobs proposed userId (runtime.modelId model) executionId batch)
    {record : Dict String Json} {owner : Option Nat}
    (found : jobs[rowIndex]? = some job) {shown scores : Dimension → Int}
    {citations : List (Dict String Json)}
    (attested : MatchRecords.Attested record batch.execution owner
      (matchInputFingerprint (candidateEvidenceDocument profile) (jobEvidenceDocument job rowIndex))
      (matchQuoteBindings (candidateEvidenceDocument profile) (jobEvidenceDocument job rowIndex))
      (materializeMatchCitations (candidateEvidenceDocument profile)
        (jobEvidenceDocument job rowIndex) shown) scores citations) :
    MatchRecords.value record "analysis_execution_row_index" = .int rowIndex ∧
      batch.rows[rowIndex]? = some scores ∧
      MatchRecords.Shows record (analyzeRow (candidateEvidenceDocument profile)
        (jobEvidenceDocument job rowIndex) rowIndex (fun dimension => some (scores dimension))
          batch.receipt) := by
  obtain ⟨index, indexed, listed, matched⟩ := attested.row
  rw [made.execution] at listed matched
  dsimp only at listed matched
  -- The digest of the input says which job, and with it which row.
  rw [fingerprintMatchInputRows_evidence, List.getElem?_mapIdx, Option.map_eq_some_iff] at matched
  obtain ⟨other, otherFound, sameInput⟩ := matched
  have sameId := DistinctDigests.matchInput _ _ _ sameInput
  obtain rfl := jobId_inj sameId
  -- The digest of the row says which scores.
  rw [List.getElem?_map, Option.map_eq_some_iff] at listed
  obtain ⟨stored, storedHere, sameScores⟩ := listed
  have within := fun dimension => (attested.scored dimension).2
  obtain rfl := DistinctDigests.scores _ _ (made.within index stored storedHere) within sameScores
  refine ⟨indexed, storedHere, ?_⟩
  have read : (fun dimension => coerceSubScore (some (stored dimension))) = stored := by
    funext dimension
    have bound := within dimension
    show max 0 (min 100 (stored dimension)) = stored dimension
    omega
  have materialized := attested.materialized
  rw [materializeMatchCitations_of_bound materialized attested.bound] at materialized
  have outcome := MatchRecords.deriveMatchOutcome_eq stored materialized
  have presented := MatchRecords.deriveMatchPresentation_eq
    (MatchRecords.deriveMatchOutcome stored citations).2.1 materialized
  have affinity := attested.outcome
  have summary := attested.summarized
  have flags := attested.flagged
  rw [presented, outcome] at summary flags
  rw [outcome] at affinity
  unfold analyzeRow
  dsimp only
  rw [read]
  exact {
    scores := fun dimension => (attested.scored dimension).1
    affinity := affinity.1
    worthApplying := affinity.2.1
    recommendation := affinity.2.2
    citations := ⟨citations, attested.cited, materialized⟩
    summary
    flags }

/-- An accepted match of a candidate with some jobs, whatever the order in which their documents
are ranked: each row has the scores of the policy and is attested by the execution against the same
documents; and where digests are different, whatever record passes against the documents of a row,
for any user and with citations made for any scores, shows what that row shows. -/
theorem attestation_complete_and_tight [StoredValues] (profile : CandidateProfileFields)
    (jobs : List JobFields) {bundle : List (EvidenceDocument String)}
    (ranked : bundle.Perm (matchEvidence profile jobs)) (proposed : List (Dimension → Int))
    (userId : Option Nat) (runtime : LocalRuntime) (model : String) {executionId : String}
    (drawn : canonicalUuid executionId = true) {batch : MatchBatch}
    (accepted : executeJobMatch bundle (matchEvidence profile jobs) jobs.length proposed userId
      (runtime.modelId model) executionId = .ok batch) {analyses : List (MatchAnalysis String)}
    (analyzed : analyzeJobBatch jobs profile (batch.rows.map fun scores dimension =>
      some (scores dimension)) batch.receipt = .ok analyses) :
    let candidate : EvidenceDocument String := candidateEvidenceDocument profile
    let document := fun (job : JobFields) (rowIndex : Nat) =>
      (jobEvidenceDocument job rowIndex : EvidenceDocument String)
    analyses.length = jobs.length ∧
      (∀ rowIndex job, jobs[rowIndex]? = some job → ∃ analysis scores,
        analyses[rowIndex]? = some analysis ∧ proposed[rowIndex]? = some scores ∧
        analysis.scores = enforcedScores candidate (document job rowIndex) scores ∧
        ∀ validatedAt, MatchRecords.validateMatchAttestation (analysis.record validatedAt)
          (some batch.execution) userId (matchInputFingerprint candidate (document job rowIndex))
          (matchQuoteBindings candidate (document job rowIndex))
          (materializeMatchCitations candidate (document job rowIndex) analysis.scores) =
            .ok ()) ∧
      (DistinctDigests → ∀ rowIndex job record owner shown, jobs[rowIndex]? = some job →
        MatchRecords.validateMatchAttestation record (some batch.execution) owner
          (matchInputFingerprint candidate (document job rowIndex))
          (matchQuoteBindings candidate (document job rowIndex))
          (materializeMatchCitations candidate (document job rowIndex) shown) = .ok () →
        ∃ analysis, analyses[rowIndex]? = some analysis ∧
          MatchRecords.value record "analysis_execution_row_index" = .int rowIndex ∧
          MatchRecords.Shows record analysis) := by
  intro candidate document
  have made := executeJobMatch_ok ranked accepted
  obtain ⟨counted, each⟩ := analyzeJobBatch_getElem? analyzed
  refine ⟨counted, ?_, ?_⟩
  · intro rowIndex job found
    obtain ⟨scores, proposal, enforced⟩ := made.enforced rowIndex job found
    refine ⟨_, scores, each rowIndex job _ found (by
      rw [List.getElem?_map, enforced, Option.map_some]), proposal, ?_,
      fun validatedAt => attested_record made drawn found enforced validatedAt⟩
    funext dimension
    have bound : 0 ≤ enforcedScores candidate (document job rowIndex) scores dimension ∧
        enforcedScores candidate (document job rowIndex) scores dimension ≤ 100 :=
      made.within rowIndex _ enforced dimension
    show max 0 (min 100 (enforcedScores candidate (document job rowIndex) scores dimension)) =
      enforcedScores candidate (document job rowIndex) scores dimension
    omega
  · intro distinct rowIndex job record owner shown found passes
    obtain ⟨executed, same, scores, citations, attested⟩ :=
      MatchRecords.validateMatchAttestation_ok_iff.mp passes
    obtain rfl := Option.some.inj same
    obtain ⟨indexed, scored, shows'⟩ := shows_of_attested made found attested
    exact ⟨_, each rowIndex job _ found (by rw [List.getElem?_map, scored, Option.map_some]),
      indexed, shows'⟩

end

/-! ### A batch with one row -/

/-- A row of scores by the letters of its scores, an input by the id of its job. -/
@[reducible] def letterFingerprints : Fingerprints String where
  source fields := ", ".intercalate (fields.map Prod.snd)
  quote dimension text := dimension.text ++ text
  catalog payload := payload.catalogVersion
  matchInput _ job := job.id
  scores row := String.ofList (Dimension.all.map fun dimension =>
    Char.ofNat (row dimension).toNat)

@[reducible] def OutputDigest.zeros : OutputDigest where
  output _ := String.ofList (List.replicate 64 '0')
  length_output _ := by rw [String.length_ofList, List.length_replicate]

/-- Floats that are read as no whole number, and values that are shown as nothing. -/
@[reducible] def StoredValues.plain : StoredValues where
  whole _ := none
  shown
    | .str text => text
    | _ => ""
  shown_str _ := rfl

section

attribute [local instance] TextTables.plain CaseTables.ascii ClauseGrammar.plain
  wholeWeights letterFingerprints OutputDigest.zeros StoredValues.plain

theorem toNat_ofNat_score {score : Int} (low : 0 ≤ score) (high : score ≤ 100) :
    ((Char.ofNat score.toNat).toNat : Int) = score := by
  have small : score.toNat.isValidChar := .inl (by omega)
  have kept : (Char.ofNat score.toNat).toNat = score.toNat := by
    rw [Char.ofNat, dif_pos small]
    rfl
  omega

theorem distinctDigests_letters : DistinctDigests where
  scores first second inside within same := by
    have letters := String.ofList_injective same
    funext dimension
    have each := List.map_inj_left.mp letters dimension (Dimension.mem_all dimension)
    rw [← toNat_ofNat_score (inside dimension).1 (inside dimension).2, each,
      toNat_ofNat_score (within dimension).1 (within dimension).2]
  matchInput _ _ _ same := same

def engineerJob : JobFields := (engineerRow "Python required.").jobFields

/-- The evidence of that job, as it is ranked behind the job. -/
def engineerBundle : List (EvidenceDocument String) :=
  [jobEvidenceDocument engineerJob 0, candidateEvidenceDocument engineerProfile]

/-- An engineer is proposed 80 everywhere: the record of the row passes, and every record that
passes shows what it shows. -/
theorem attestation_complete_and_tight_engineer :
    ∃ batch analysis, executeJobMatch engineerBundle (matchEvidence engineerProfile [engineerJob]) 1
        [fun _ => 80] (some 1) (LocalRuntime.ollama.modelId "qwen3")
        "6ba7b811-9dad-51d1-80b4-00c04fd430c8" = .ok batch ∧
      analyzeJobBatch [engineerJob] engineerProfile (batch.rows.map fun scores dimension =>
        some (scores dimension)) batch.receipt = .ok [analysis] ∧
      MatchRecords.validateMatchAttestation (analysis.record "2026-01-05T08:00:00Z")
        (some batch.execution) (some 1)
        (matchInputFingerprint (candidateEvidenceDocument engineerProfile)
          (jobEvidenceDocument engineerJob 0))
        (matchQuoteBindings (candidateEvidenceDocument engineerProfile)
          (jobEvidenceDocument engineerJob 0))
        (materializeMatchCitations (candidateEvidenceDocument engineerProfile)
          (jobEvidenceDocument engineerJob 0) analysis.scores) = .ok () ∧
      ∀ record, MatchRecords.validateMatchAttestation record (some batch.execution) (some 1)
        (matchInputFingerprint (candidateEvidenceDocument engineerProfile)
          (jobEvidenceDocument engineerJob 0))
        (matchQuoteBindings (candidateEvidenceDocument engineerProfile)
          (jobEvidenceDocument engineerJob 0))
        (materializeMatchCitations (candidateEvidenceDocument engineerProfile)
          (jobEvidenceDocument engineerJob 0) analysis.scores) = .ok () →
        MatchRecords.Shows record analysis := by
  have ranked : engineerBundle.Perm (matchEvidence engineerProfile [engineerJob]) :=
    List.Perm.swap _ _ _
  obtain ⟨both, run⟩ := ok_of_isOk (show (executeJobMatch engineerBundle
    (matchEvidence engineerProfile [engineerJob]) 1 [fun _ => 80] (some 1)
    (LocalRuntime.ollama.modelId "qwen3") "6ba7b811-9dad-51d1-80b4-00c04fd430c8" >>= fun batch =>
      analyzeJobBatch [engineerJob] engineerProfile (batch.rows.map fun scores dimension =>
        some (scores dimension)) batch.receipt).isOk = true by decide +kernel)
  obtain ⟨batch, accepted, analyzed⟩ := bind_ok_iff.mp run
  have drawn : canonicalUuid "6ba7b811-9dad-51d1-80b4-00c04fd430c8" = true := by decide
  obtain ⟨counted, complete, tight⟩ := attestation_complete_and_tight engineerProfile [engineerJob]
    ranked [fun _ => 80] (some 1) .ollama "qwen3" drawn accepted analyzed
  obtain ⟨analysis, scores, shown, -, -, passes⟩ := complete 0 engineerJob rfl
  obtain rfl : both = [analysis] := by
    obtain ⟨only, rfl⟩ := List.length_eq_one_iff.mp counted
    exact congrArg (fun analysis => [analysis]) (Option.some.inj shown)
  refine ⟨batch, analysis, accepted, analyzed, passes _, fun record attested => ?_⟩
  obtain ⟨other, same, -, shows'⟩ := tight distinctDigests_letters 0 engineerJob record (some 1) _
    rfl attested
  obtain rfl := Option.some.inj same
  exact shows'

end

end CareerOS
