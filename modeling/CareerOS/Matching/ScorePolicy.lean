/-
This file is the policy that the server applies to the scores a model proposes:
a dimension about which the job says nothing is neutral, an unmet requirement caps
its dimension, a positive requirement without support stays moderate, support
lifts a low score, and a strong fit needs two pairs of quotes that support it. The
grounding check applies the policy again and refuses a row that it would change.
-/

import CareerOS.Matching.Policy

namespace CareerOS

/-! ### Requirement summaries -/

/-- `mapping.get(key)`. -/
def jsonField (key : String) (value : Json) : Json :=
  match value with
  | .obj fields => (Dict.lookup key fields).getD .null
  | _ => .null

/-- The texts of a list. -/
def jsonTexts (value : Json) : List String :=
  match value with
  | .arr items => items.filterMap fun item =>
      match item with
      | .str text => some text
      | _ => none
  | _ => []

/-- The texts of a value that is a list. -/
def jsonTextList (value : Json) : Option (List String) :=
  match value with
  | .arr items => some (jsonTexts (.arr items))
  | _ => none

/-- A value that is an integer. -/
def jsonInt (value : Json) : Option Int :=
  match value with
  | .int number => some number
  | .bool truth => some (if truth then 1 else 0)
  | _ => none

/-- The items of an object, or nothing for another value. -/
def jsonItems (value : Json) : Option (Dict String Json) :=
  match value with
  | .obj fields => some fields
  | _ => none

/-- `required_skill_groups`: the groups of the summary, else one for each required term. -/
def requiredSkillGroups (summary : Json) : List (List String) :=
  let groups :=
    match jsonField "required_skill_groups" summary with
    | .arr items => items.filterMap jsonTextList
    | _ => (jsonTexts (jsonField "required_skill_terms" summary)).map fun term => [term]
  groups.filter (· ≠ [])

/-- The languages of a group that have a rank. -/
def rankedLanguages (group : Dict String Json) : Dict String Int :=
  List.filterMap (fun (language, rank) =>
    match rank with
    | .int rank => some (language, rank)
    | _ => none) group

/-- `language_groups`. -/
def requiredLanguageGroups (summary : Json) : List (Dict String Int) :=
  let groups :=
    match jsonField "required_language_groups" summary with
    | .arr items => (items.filterMap jsonItems).map rankedLanguages
    | _ => []
  groups.filter (· ≠ [])

/-- Does the candidate have the language at the rank? -/
def hasLanguage (observed : Dict String Json) (language : String) (rank : Int) : Bool :=
  ((Dict.lookup language observed).bind jsonInt).any (rank ≤ ·)

/-- `language_mismatch`. -/
def languageMismatch (candidate job : Json) : Bool :=
  match jsonItems (jsonField "required_languages" job),
    jsonItems (jsonField "observed_languages" candidate) with
  | some required, some observed =>
    match requiredLanguageGroups job with
    | [] => required.any fun (language, rank) =>
        !hasLanguage observed language ((jsonInt rank).getD 0)
    | groups => groups.any fun group => !group.any fun (language, rank) =>
        hasLanguage observed language rank
  | _, _ => false

/-- Is a required skill not observed, or an excluded one observed? -/
def skillMismatch (candidate job : Json) : Bool :=
  let observed := jsonTexts (jsonField "observed_skill_terms" candidate)
  let negated := jsonTexts (jsonField "negated_skill_terms" candidate)
  (requiredSkillGroups job).any (fun group => !group.any fun term =>
      observed.contains term && !negated.contains term) ||
    (jsonTexts (jsonField "excluded_skill_terms" job)).any observed.contains

/-- Are the years of experience short of what is required? -/
def experienceMismatch (candidate job : Json) : Bool :=
  (jsonInt (jsonField "required_experience_years" job)).any fun required =>
    !(jsonInt (jsonField "observed_experience_years" candidate)).any (required ≤ ·)

/-- Is the qualification short of what is required? -/
def qualificationMismatch (candidate job : Json) : Bool :=
  (jsonInt (jsonField "required_qualification_rank" job)).any fun required =>
    0 < required &&
      !(jsonInt (jsonField "observed_qualification_rank" candidate)).any (required ≤ ·)

/-! ### Support -/

section

variable {Digest : Type} [TextTables] [CaseTables]

/-- Do the two texts share a semantic term? -/
def sharesTerms (first second : String) : Bool :=
  (semanticTerms first).any (semanticTerms second).contains

/-- `_dimension_support_pairs`, with the quotes that make them. -/
def supportPairs (candidate job : EvidenceDocument Digest) (dimension : Dimension) :
    List (String × String) :=
  (documentQuotes job dimension).flatMap fun jobItem =>
    if positiveQuote jobItem.2.content then
      ((documentQuotes candidate dimension).filter fun item =>
        positiveQuote item.2.content && sharesTerms jobItem.2.text item.2.text).map fun item =>
          (normalizedWords jobItem.2.text, normalizedWords item.2.text)
    else []

/-- `_dimension_has_support`. -/
def dimensionHasSupport (candidate job : EvidenceDocument Digest) (dimension : Dimension) : Bool :=
  match dimension with
  | .skill | .transferability =>
    let observed := jsonTexts (jsonField "observed_skill_terms" candidate.requirementSummary)
    let negated := jsonTexts (jsonField "negated_skill_terms" candidate.requirementSummary)
    let positive := ["required_skill_terms", "preferred_skill_terms", "present_skill_terms"].flatMap
      fun key => jsonTexts (jsonField key job.requirementSummary)
    observed.any fun term => !negated.contains term && positive.contains term
  | dimension => (documentQuotes job dimension).any fun jobItem =>
      positiveQuote jobItem.2.content && (documentQuotes candidate dimension).any fun item =>
        positiveQuote item.2.content && sharesTerms jobItem.2.text item.2.text

/-- `_mandatory_mismatch_dimensions`. -/
def mandatoryMismatch (candidate job : EvidenceDocument Digest) (dimension : Dimension) : Bool :=
  match dimension with
  | .skill | .transferability => skillMismatch candidate.requirementSummary job.requirementSummary
  | .experience => experienceMismatch candidate.requirementSummary job.requirementSummary
  | .language => languageMismatch candidate.requirementSummary job.requirementSummary
  | .qualification => qualificationMismatch candidate.requirementSummary job.requirementSummary
  | .location =>
    (documentQuotes job .location).any (fun item => item.2.requirementStatus = .required) &&
      !dimensionHasSupport candidate job .location
  | .intent => false

/-! ### Scores -/

/-- `_MANDATORY_SCORE_CAPS`. -/
def mandatoryScoreCap : Dimension → Int
  | .skill => 40
  | .experience => 40
  | .intent => 20
  | .language => 30
  | .location => 40
  | .transferability => 40
  | .qualification => 40

/-- `DIMENSION_SCORE_FIELDS`. -/
def Dimension.scoreField : Dimension → String
  | .skill => "skill_match_score"
  | .experience => "experience_match_score"
  | .intent => "intent_match_score"
  | .language => "language_match_score"
  | .location => "location_match_score"
  | .transferability => "transferability_score"
  | .qualification => "qualification_gap_score"

/-- `informative_job_quotes`. -/
def informativeJobQuotes (job : EvidenceDocument Digest) (dimension : Dimension) :
    List (Quote Digest) :=
  ((documentQuotes job dimension).map Prod.snd).filter fun quote =>
    quote.hasPositiveEvidence ||
      quote.requirementStatus ∈ [RequirementStatus.explicitNotRequired, .exclusion]

/-- The score of one dimension under the policy. -/
def dimensionScore (candidate job : EvidenceDocument Digest) (dimension : Dimension)
    (score : Int) : Int :=
  let informative := informativeJobQuotes job dimension
  if informative.all fun quote => quote.requirementStatus = .explicitNotRequired then 50
  else if mandatoryMismatch candidate job dimension then min score (mandatoryScoreCap dimension)
  else if informative.any (fun quote => positiveQuote quote.content) ∧
      dimensionHasSupport candidate job dimension = false then min score 55
  else if dimensionHasSupport candidate job dimension ∧ score < 45 then 45
  else score

/-- `support_pairs`: the distinct pairs of the dimensions scored above 55. -/
def strongPairs (candidate job : EvidenceDocument Digest) (scores : Dimension → Int) :
    List (String × String) :=
  ((Dimension.all.filter fun dimension => 55 < scores dimension).flatMap
    (supportPairs candidate job)).dedup

/-- The seven scores under the policy. -/
def enforcedScores [MatchWeights] (candidate job : EvidenceDocument Digest)
    (proposed : Dimension → Int) : Dimension → Int :=
  let scores := fun dimension => dimensionScore candidate job dimension (proposed dimension)
  if 80 ≤ MatchWeights.weightedScore scores ∧ (strongPairs candidate job scores).length < 2 then
    fun dimension => min (scores dimension) 79
  else scores

/-- A proposed score: an integer between 0 and 100, else the neutral one. -/
def proposedScore (value : Option Json) : Int :=
  match value with
  | some (.int score) => max 0 (min 100 score)
  | _ => 50

/-- The proposed scores of a row. -/
def proposedScores (row : Dict String Json) (dimension : Dimension) : Int :=
  proposedScore (Dict.lookup dimension.scoreField row)

/-- The row of seven scores. -/
def scoreRow (scores : Dimension → Int) : Dict String Json :=
  Dimension.all.map fun dimension => (dimension.scoreField, .int (scores dimension))

/-! ### Rows -/

/-- The candidate of a list of documents: the first that has its id. -/
def candidateOf (documents : List (EvidenceDocument Digest)) : Option (EvidenceDocument Digest) :=
  documents.find? fun document => document.id = "candidate:profile"

/-- The job of a row: the last document that has its id. -/
def jobOf (documents : List (EvidenceDocument Digest)) (rowIndex : Nat) :
    Option (EvidenceDocument Digest) :=
  documents.reverse.find? fun document => document.kind = .job ∧ document.id = s!"job:{rowIndex}"

/-- One row of `enforce_match_score_policy`; without a job it is left as it is. -/
def enforceRow [MatchWeights] (documents : List (EvidenceDocument Digest))
    (candidate : EvidenceDocument Digest) (rowIndex : Nat) (row : Dict String Json) :
    Dict String Json :=
  match jobOf documents rowIndex with
  | some job => scoreRow (enforcedScores candidate job (proposedScores row))
  | none => row

/-- `enforce_match_score_policy` on the rows of a payload. -/
def enforceMatchScorePolicy [MatchWeights] (documents : List (EvidenceDocument Digest))
    (rows : List (Dict String Json)) : List (Dict String Json) :=
  match candidateOf documents with
  | some candidate => rows.mapIdx (enforceRow documents candidate)
  | none => rows

/-! ### The grounding check -/

/-- `by_id.values()`. -/
def documentsById (documents : List (EvidenceDocument Digest)) : List (EvidenceDocument Digest) :=
  (documents.foldl (fun byId document => Dict.assign document.id document byId) []).map Prod.snd

/-- The fields of each row that the policy would change, as `validate_grounding` finds them. -/
def policyChanges [MatchWeights] (documents : List (EvidenceDocument Digest))
    (results : List (Dict String Json)) : List (List Dimension) :=
  if results ≠ [] ∧ ∀ result ∈ results, ∀ dimension ∈ Dimension.all,
      (Dict.lookup dimension.scoreField result).isSome then
    let enforced := enforceMatchScorePolicy (documentsById documents) results
    ((results.zip enforced).map fun (result, expected) => Dimension.all.filter fun dimension =>
      Dict.lookup dimension.scoreField result ≠ Dict.lookup dimension.scoreField expected).filter
        (· ≠ [])
  else []

/-! ### One dimension -/

/-- What the policy does to a score, whatever the score. -/
inductive ScoreRule
  | neutral
  | atMost (cap : Int)
  | lifted
  | kept

def ScoreRule.apply (rule : ScoreRule) (score : Int) : Int :=
  match rule with
  | neutral => 50
  | atMost cap => min score cap
  | lifted => max score 45
  | kept => score

/-- The rule of a dimension. -/
def scoreRule (candidate job : EvidenceDocument Digest) (dimension : Dimension) : ScoreRule :=
  let informative := informativeJobQuotes job dimension
  if informative.all fun quote => quote.requirementStatus = .explicitNotRequired then .neutral
  else if mandatoryMismatch candidate job dimension then .atMost (mandatoryScoreCap dimension)
  else if informative.any (fun quote => positiveQuote quote.content) ∧
      dimensionHasSupport candidate job dimension = false then .atMost 55
  else if dimensionHasSupport candidate job dimension then .lifted
  else .kept

section

variable (candidate job : EvidenceDocument Digest) (dimension : Dimension)

theorem dimensionScore_eq (score : Int) : dimensionScore candidate job dimension score =
    (scoreRule candidate job dimension).apply score := by
  unfold dimensionScore scoreRule
  dsimp only
  rw [apply_ite (ScoreRule.apply · score), apply_ite (ScoreRule.apply · score),
    apply_ite (ScoreRule.apply · score), apply_ite (ScoreRule.apply · score)]
  congr 3
  cases dimensionHasSupport candidate job dimension with
  | false => rfl
  | true =>
    simp only [true_and, if_true, ScoreRule.apply]
    split_ifs <;> omega

omit [TextTables] [CaseTables] in
theorem mandatoryScoreCap_bounds : 0 ≤ mandatoryScoreCap dimension ∧
    mandatoryScoreCap dimension ≤ 55 := by
  cases dimension <;> decide

/-- A rule caps scores at 55 at most. -/
theorem cap_of_scoreRule {cap : Int} (capped : scoreRule candidate job dimension = .atMost cap) :
    0 ≤ cap ∧ cap ≤ 55 := by
  have bounds := mandatoryScoreCap_bounds dimension
  unfold scoreRule at capped
  dsimp only at capped
  split_ifs at capped
  · obtain rfl := ScoreRule.atMost.inj capped
    exact bounds
  · obtain rfl := ScoreRule.atMost.inj capped
    decide

/-- A score under the policy stays between 0 and 100. -/
theorem dimensionScore_bounds {score : Int} (low : 0 ≤ score) (high : score ≤ 100) :
    0 ≤ dimensionScore candidate job dimension score ∧
      dimensionScore candidate job dimension score ≤ 100 := by
  rw [dimensionScore_eq]
  cases rule : scoreRule candidate job dimension with
  | neutral =>
    simp only [ScoreRule.apply]
    omega
  | atMost cap =>
    have bounds := cap_of_scoreRule candidate job dimension rule
    simp only [ScoreRule.apply]
    omega
  | lifted =>
    simp only [ScoreRule.apply]
    omega
  | kept => exact ⟨low, high⟩

/-- The policy leaves alone what it made of a score, also below a cap of 79. -/
theorem dimensionScore_fixed (score : Int) {again : Int}
    (made : again = dimensionScore candidate job dimension score ∨
      again = min (dimensionScore candidate job dimension score) 79) :
    dimensionScore candidate job dimension again = again := by
  rw [dimensionScore_eq] at made ⊢
  cases rule : scoreRule candidate job dimension with
  | neutral =>
    rw [rule] at made
    simp only [ScoreRule.apply] at made ⊢
    omega
  | atMost cap =>
    have bounds := cap_of_scoreRule candidate job dimension rule
    rw [rule] at made
    simp only [ScoreRule.apply] at made ⊢
    omega
  | lifted =>
    rw [rule] at made
    simp only [ScoreRule.apply] at made ⊢
    omega
  | kept => rfl

end

/-! ### Rows of scores -/

section

omit [TextTables] [CaseTables]

theorem proposedScore_bounds (value : Option Json) :
    0 ≤ proposedScore value ∧ proposedScore value ≤ 100 := by
  unfold proposedScore
  split <;> omega

theorem lookup_scoreRow (scores : Dimension → Int) (dimension : Dimension) :
    Dict.lookup dimension.scoreField (scoreRow scores) = some (.int (scores dimension)) := by
  cases dimension <;> rfl

/-- The scores of a row within bounds are read as they are. -/
theorem proposedScores_scoreRow {scores : Dimension → Int}
    (bounds : ∀ dimension, 0 ≤ scores dimension ∧ scores dimension ≤ 100) :
    proposedScores (scoreRow scores) = scores := by
  funext dimension
  have bound := bounds dimension
  rw [proposedScores, lookup_scoreRow, proposedScore]
  omega

end

section

variable [MatchWeights]

/-- `DIMENSION_WEIGHTS`, in twentieths. -/
def weightTwentieths : Dimension → Int
  | .skill => 5
  | .experience => 4
  | .intent => 4
  | .language => 2
  | .location => 2
  | .transferability => 2
  | .qualification => 1

/-- The weighted sum of the scores, in twentieths. -/
def weightedTwentieths (scores : Dimension → Int) : Int :=
  (Dimension.all.map fun dimension => weightTwentieths dimension * scores dimension).sum

/-- The rounded sum of the floats is a nearest integer of the exact weighted sum. -/
class NearestWeights : Prop where
  near : ∀ scores : Dimension → Int,
    (∀ dimension, 0 ≤ scores dimension ∧ scores dimension ≤ 100) →
      weightedTwentieths scores - 10 ≤ 20 * MatchWeights.weightedScore scores ∧
        20 * MatchWeights.weightedScore scores ≤ weightedTwentieths scores + 10

variable (candidate job : EvidenceDocument Digest) {proposed : Dimension → Int}

theorem enforcedScores_bounds
    (bounds : ∀ dimension, 0 ≤ proposed dimension ∧ proposed dimension ≤ 100)
    (dimension : Dimension) : 0 ≤ enforcedScores candidate job proposed dimension ∧
      enforcedScores candidate job proposed dimension ≤ 100 := by
  have bound := dimensionScore_bounds candidate job dimension (bounds dimension).1
    (bounds dimension).2
  unfold enforcedScores
  dsimp only
  split_ifs
  · dsimp only
    omega
  · exact bound

omit [TextTables] [CaseTables] in
/-- Scores of at most 79 have a weighted score below 80. -/
theorem weightedScore_lt [NearestWeights] {scores : Dimension → Int}
    (bounds : ∀ dimension, 0 ≤ scores dimension ∧ scores dimension ≤ 79) :
    MatchWeights.weightedScore scores < 80 := by
  have near := (NearestWeights.near scores fun dimension =>
    ⟨(bounds dimension).1, (bounds dimension).2.trans (by decide)⟩).2
  simp only [weightedTwentieths, Dimension.all, weightTwentieths, List.map_cons, List.map_nil,
    List.sum_cons, List.sum_nil] at near
  have skill := (bounds .skill).2
  have experience := (bounds .experience).2
  have intent := (bounds .intent).2
  have language := (bounds .language).2
  have location := (bounds .location).2
  have transferability := (bounds .transferability).2
  have qualification := (bounds .qualification).2
  omega

/-- The scores are those of the dimensions, or these capped where a strong fit is not supported. -/
theorem enforcedScores_cases (proposed : Dimension → Int) :
    (enforcedScores candidate job proposed =
        (fun dimension => dimensionScore candidate job dimension (proposed dimension)) ∧
      (80 ≤ MatchWeights.weightedScore (enforcedScores candidate job proposed) →
        2 ≤ (strongPairs candidate job (enforcedScores candidate job proposed)).length)) ∨
    enforcedScores candidate job proposed = fun dimension =>
      min (dimensionScore candidate job dimension (proposed dimension)) 79 := by
  unfold enforcedScores
  dsimp only
  split_ifs with unsupported
  · exact .inr rfl
  · exact .inl ⟨rfl, fun strong => not_lt.mp fun few => unsupported ⟨strong, few⟩⟩

/-- A strong fit has two pairs of quotes that support it. -/
theorem two_le_strongPairs [NearestWeights]
    (bounds : ∀ dimension, 0 ≤ proposed dimension ∧ proposed dimension ≤ 100)
    (strong : 80 ≤ MatchWeights.weightedScore (enforcedScores candidate job proposed)) :
    2 ≤ (strongPairs candidate job (enforcedScores candidate job proposed)).length := by
  rcases enforcedScores_cases candidate job proposed with ⟨-, supported⟩ | capped
  · exact supported strong
  · have weak := @weightedScore_lt _ _ (enforcedScores candidate job proposed)
      fun dimension => by
        refine ⟨(enforcedScores_bounds candidate job bounds dimension).1, ?_⟩
        rw [capped]
        exact min_le_right _ _
    exact absurd strong (not_le.mpr weak)

/-- What the policy made is left alone by the policy. -/
theorem enforcedScores_fixed [NearestWeights]
    (bounds : ∀ dimension, 0 ≤ proposed dimension ∧ proposed dimension ≤ 100) :
    enforcedScores candidate job (enforcedScores candidate job proposed) =
      enforcedScores candidate job proposed := by
  have supported := two_le_strongPairs candidate job bounds
  generalize made : enforcedScores candidate job proposed = scores at supported ⊢
  have fixed : (fun dimension => dimensionScore candidate job dimension (scores dimension)) =
      scores := by
    funext dimension
    refine dimensionScore_fixed candidate job dimension (proposed dimension) ?_
    rw [← made]
    rcases enforcedScores_cases candidate job proposed with ⟨same, -⟩ | same
    · exact .inl (congrFun same dimension)
    · exact .inr (congrFun same dimension)
  unfold enforcedScores
  dsimp only
  rw [fixed, if_neg fun unsupported => not_lt.mpr (supported unsupported.1) unsupported.2]

end

/-! ### The policy on its own output -/

section

variable [MatchWeights] (documents : List (EvidenceDocument Digest))

theorem enforceRow_fixed [NearestWeights] (candidate : EvidenceDocument Digest) (rowIndex : Nat)
    (row : Dict String Json) :
    enforceRow documents candidate rowIndex (enforceRow documents candidate rowIndex row) =
      enforceRow documents candidate rowIndex row := by
  unfold enforceRow
  cases jobOf documents rowIndex with
  | none => rfl
  | some job =>
    have bounds : ∀ dimension, 0 ≤ proposedScores row dimension ∧
        proposedScores row dimension ≤ 100 := fun dimension => proposedScore_bounds _
    dsimp only
    rw [proposedScores_scoreRow (enforcedScores_bounds candidate job bounds),
      enforcedScores_fixed candidate job bounds]

/-- Applied to its own output, the policy changes nothing. -/
theorem enforceMatchScorePolicy_fixed [NearestWeights] (rows : List (Dict String Json)) :
    enforceMatchScorePolicy documents (enforceMatchScorePolicy documents rows) =
      enforceMatchScorePolicy documents rows := by
  unfold enforceMatchScorePolicy
  cases candidateOf documents with
  | none => rfl
  | some candidate =>
    dsimp only
    rw [List.mapIdx_mapIdx]
    exact congrArg (List.mapIdx · rows)
      (funext fun rowIndex => funext fun row => enforceRow_fixed documents candidate rowIndex row)

omit [TextTables] [CaseTables] [MatchWeights] in
/-- Documents with ids of their own are all found by their ids. -/
theorem documentsById_of_nodup
    (distinct : (documents.map EvidenceDocument.id).Nodup) :
    documentsById documents = documents := by
  have table (seen : List (EvidenceDocument Digest))
      (apart : ((seen ++ documents).map EvidenceDocument.id).Nodup) :
      documents.foldl (fun byId document => Dict.assign document.id document byId)
        (seen.map fun document => (document.id, document)) =
        (seen ++ documents).map fun document => (document.id, document) := by
    clear distinct
    induction documents generalizing seen with
    | nil => rw [List.foldl_nil, List.append_nil]
    | cons document rest inductionHypothesis =>
      have fresh : document.id ∉ Dict.keys (seen.map fun document => (document.id, document)) := by
        rw [Dict.keys, List.map_map]
        rw [List.map_append, List.nodup_append] at apart
        exact fun member => apart.2.2 _ member _ List.mem_cons_self rfl
      rw [← List.singleton_append, ← List.append_assoc] at apart
      rw [List.foldl_cons, Dict.assign_of_not_mem document fresh]
      have stepped := inductionHypothesis (seen ++ [document]) apart
      rw [List.map_append, List.append_assoc] at stepped
      exact stepped
  have whole := table [] distinct
  rw [List.map_nil, List.nil_append] at whole
  rw [documentsById, whole, List.map_map]
  exact List.map_id _

omit [TextTables] [CaseTables] [MatchWeights] in
theorem foldl_min_le_iff (bound : Int) (caps : List Int) : ∀ score,
    caps.foldl min score ≤ bound ↔ score ≤ bound ∨ ∃ cap ∈ caps, cap ≤ bound := by
  induction caps with
  | nil =>
    refine fun score => ⟨.inl, fun low => low.elim id ?_⟩
    rintro ⟨_, inside, -⟩
    cases inside
  | cons cap rest inductionHypothesis =>
    intro score
    rw [List.foldl_cons, inductionHypothesis, min_le_iff, List.exists_mem_cons_iff, or_assoc]

omit [TextTables] [CaseTables] in
/-- The affinity is at most the weighted score. -/
theorem deriveMatchOutcome_le (scores : Dimension → Int) (citations : List (Citation Digest)) :
    (deriveMatchOutcome scores citations).1 ≤ MatchWeights.weightedScore scores :=
  (foldl_min_le_iff _ _ _).mpr (.inl le_rfl)

omit [MatchWeights] in
/-- Two strong pairs are two different pairs of quotes. -/
theorem exists_of_two_le_strongPairs {candidate job : EvidenceDocument Digest}
    {scores : Dimension → Int} (two : 2 ≤ (strongPairs candidate job scores).length) :
    ∃ first second : Dimension × String × String, first.2 ≠ second.2 ∧
      (55 < scores first.1 ∧ first.2 ∈ supportPairs candidate job first.1) ∧
      (55 < scores second.1 ∧ second.2 ∈ supportPairs candidate job second.1) := by
  have distinct : (strongPairs candidate job scores).Nodup := List.nodup_dedup _
  have supports : ∀ pair ∈ strongPairs candidate job scores, ∃ dimension,
      55 < scores dimension ∧ pair ∈ supportPairs candidate job dimension := by
    intro pair member
    obtain ⟨dimension, among, inside⟩ := List.mem_flatMap.mp (List.mem_dedup.mp member)
    exact ⟨dimension, of_decide_eq_true (List.mem_filter.mp among).2, inside⟩
  generalize strongPairs candidate job scores = pairs at two distinct supports
  match pairs with
  | [] => cases two
  | [_] => exact absurd two (Nat.not_succ_le_self 1)
  | first :: second :: rest =>
    obtain ⟨firstDimension, isFirst⟩ := supports first List.mem_cons_self
    obtain ⟨secondDimension, isSecond⟩ :=
      supports second (List.mem_cons_of_mem _ List.mem_cons_self)
    refine ⟨(firstDimension, first), (secondDimension, second), ?_, isFirst, isSecond⟩
    intro same
    rw [show first = second from same] at distinct
    exact (List.nodup_cons.mp distinct).1 List.mem_cons_self

/-- For whatever documents and rows, the policy leaves its own output alone, scores a row that has
a job between 0 and 100, and lets no outcome reach 80 without two distinct pairs of quotes that
support a dimension scored above 55; and where the documents have ids of their own, the grounding
check finds nothing to change. -/
theorem score_policy_stable [NearestWeights] (rows : List (Dict String Json)) :
    enforceMatchScorePolicy documents (enforceMatchScorePolicy documents rows) =
        enforceMatchScorePolicy documents rows ∧
      (∀ candidate job rowIndex row, candidateOf documents = some candidate →
        jobOf documents rowIndex = some job → rows[rowIndex]? = some row →
        ∃ scores, (enforceMatchScorePolicy documents rows)[rowIndex]? = some (scoreRow scores) ∧
          (∀ dimension, 0 ≤ scores dimension ∧ scores dimension ≤ 100) ∧
          ∀ citations : List (Citation Digest), 80 ≤ (deriveMatchOutcome scores citations).1 →
            ∃ first second : Dimension × String × String, first.2 ≠ second.2 ∧
              (55 < scores first.1 ∧ first.2 ∈ supportPairs candidate job first.1) ∧
              (55 < scores second.1 ∧ second.2 ∈ supportPairs candidate job second.1)) ∧
      ((documents.map EvidenceDocument.id).Nodup →
        policyChanges documents (enforceMatchScorePolicy documents rows) = []) := by
  have fixed := enforceMatchScorePolicy_fixed documents rows
  refine ⟨fixed, ?_, ?_⟩
  · intro candidate job rowIndex row isCandidate isJob isRow
    have bounds : ∀ dimension, 0 ≤ proposedScores row dimension ∧
        proposedScores row dimension ≤ 100 := fun dimension => proposedScore_bounds _
    refine ⟨enforcedScores candidate job (proposedScores row), ?_,
      enforcedScores_bounds candidate job bounds, fun citations strong => ?_⟩
    · unfold enforceMatchScorePolicy
      rw [isCandidate]
      dsimp only
      rw [List.getElem?_mapIdx, isRow, Option.map_some, enforceRow, isJob]
    · exact exists_of_two_le_strongPairs (two_le_strongPairs candidate job bounds
        (strong.trans (deriveMatchOutcome_le _ citations)))
  · intro distinct
    unfold policyChanges
    rw [documentsById_of_nodup documents distinct, fixed]
    split
    · rw [List.filter_eq_nil_iff]
      intro changed member
      obtain ⟨⟨result, expected⟩, both, rfl⟩ := List.mem_map.mp member
      rw [List.zip, List.zipWith_self] at both
      obtain ⟨row, -, same⟩ := List.mem_map.mp both
      obtain ⟨rfl, rfl⟩ := Prod.mk.inj same
      simp
    · rfl

end

end

/-! ### A strong fit and one that is not supported -/

/-- The nearest integer of the exact sum, a half upwards. -/
@[reducible] def MatchWeights.nearest : MatchWeights where
  weightedScore scores := (weightedTwentieths scores + 10) / 20

theorem nearestWeights_nearest : @NearestWeights MatchWeights.nearest :=
  @NearestWeights.mk MatchWeights.nearest fun scores _ => by
    have value : @MatchWeights.weightedScore MatchWeights.nearest scores =
      (weightedTwentieths scores + 10) / 20 := rfl
    rw [value]
    constructor <;> omega

section

attribute [local instance] TextTables.plain CaseTables.ascii MatchWeights.nearest
  nearestWeights_nearest

/-- A quote that is present. -/
def presentQuote (dimension : Dimension) (text : String) : Quote Nat where
  dimension
  hasPositiveEvidence := true
  requirementStatus := .present
  text
  textHash := text.length

/-- A document with two quotes and nothing required. -/
def wardDocument (id : String) (kind : SourceKind) : EvidenceDocument Nat where
  id
  kind
  sourceFingerprint := 0
  catalogFingerprint := 0
  catalogVersion := "8"
  coverageComplete := []
  quotes := [(id ++ ":experience:0", presentQuote .experience "night wards"),
    (id ++ ":intent:0", presentQuote .intent "ward nurse")]
  requirementSummary := .null

/-- A candidate and a job with the same two quotes. -/
def wardDocuments : List (EvidenceDocument Nat) :=
  [wardDocument "candidate:profile" .candidate, wardDocument "job:0" .job]

/-- A nurse is proposed 100 everywhere: two quotes support it, and only the dimensions with a quote
count. -/
theorem score_policy_stable_ward :
    enforceMatchScorePolicy wardDocuments
        (enforceMatchScorePolicy wardDocuments [scoreRow fun _ => 100]) =
      enforceMatchScorePolicy wardDocuments [scoreRow fun _ => 100] ∧
    policyChanges wardDocuments
      (enforceMatchScorePolicy wardDocuments [scoreRow fun _ => 100]) = [] ∧
    ∃ scores : Dimension → Int, scores .experience = 100 ∧ scores .skill = 50 ∧
      ∀ dimension, 0 ≤ scores dimension ∧ scores dimension ≤ 100 := by
  obtain ⟨fixed, scored, unchanged⟩ := score_policy_stable wardDocuments [scoreRow fun _ => 100]
  have isJob : jobOf wardDocuments 0 = some (wardDocument "job:0" .job) := by decide +kernel
  obtain ⟨scores, shown, bounds, -⟩ := scored _ _ 0 _ rfl isJob rfl
  have read (dimension : Dimension) : ((enforceMatchScorePolicy wardDocuments
      [scoreRow fun _ => 100])[0]?.bind (Dict.lookup dimension.scoreField)) =
        some (.int (scores dimension)) := by
    rw [shown, Option.bind_some, lookup_scoreRow]
  refine ⟨fixed, unchanged (by decide), scores, ?_, ?_, bounds⟩
  · have experience := (read .experience).symm.trans
      (show _ = some (Json.int 100) by decide +kernel)
    exact Json.int.inj (Option.some.inj experience)
  · have skill := (read .skill).symm.trans (show _ = some (Json.int 50) by decide +kernel)
    exact Json.int.inj (Option.some.inj skill)

end

end CareerOS
