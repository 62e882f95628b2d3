/-
This file settles when an unmet hard requirement caps a match. The requirements are
read off the whole text with one set of patterns, and the cap acts through the quotes
that another set of patterns selects for the dimension: a required language or
qualification lowers the affinity exactly when a quote that is cited shows it.

A quote that shows nothing leaves the dimension neutral, or caps its score without
capping the affinity, and then the highest scores a model can propose get through.
-/

import CareerOS.Matching.ScorePolicy

namespace CareerOS

section

variable {Digest : Type} [TextTables] [CaseTables]

/-! ### A requirement that a quote shows -/

/-- What is cited of the candidate for a quote of the job. -/
def citedContent (candidate : EvidenceDocument Digest) (dimension : Dimension)
    (jobText : String) : QuoteContent :=
  match bestCandidateQuote candidate dimension jobText with
  | some (_, quote) => quote.content
  | none => ⟨false, .unknown, s!"No explicit {dimension.text} evidence."⟩

/-- Does a pair of quotes leave a requirement open? -/
def leavesOpen (jobQuote candidateQuote : QuoteContent) : Bool :=
  let candidatePositive := candidateQuote.hasPositiveEvidence &&
    candidateQuote.requirementStatus ∉ [RequirementStatus.explicitNotRequired, .exclusion]
  let sharedTerms := (tokenize jobQuote.text).filter fun token =>
    token ∈ tokenize candidateQuote.text ∧ token ∉ genericMatchTerms
  jobQuote.hasPositiveEvidence && jobQuote.requirementStatus ≠ .explicitNotRequired &&
    (jobQuote.requirementStatus = .required ∨ candidatePositive = false ∨ sharedTerms = [])

/-- Does a quote that is cited for the dimension leave its requirement open? -/
def showsMismatch (candidate job : EvidenceDocument Digest) (dimension : Dimension) : Bool :=
  (selectedJobQuotes job dimension).any fun item =>
    leavesOpen item.2.content (citedContent candidate dimension item.2.text)

theorem assessment_eq_risk_iff (dimension : Dimension) (score : Int)
    (jobQuote candidateQuote : QuoteContent) :
    deriveCitationAssessment dimension score jobQuote candidateQuote = .risk ↔
      leavesOpen jobQuote candidateQuote = true ∧ score ≠ 50 ∧
        (riskScoreCap dimension).any (score ≤ ·) = true := by
  unfold deriveCitationAssessment leavesOpen
  dsimp only
  split_ifs with notRequired silent risk unsupported high
  · simp [notRequired]
  · rcases silent with silent | neutral
    · simp [silent]
    · simp [neutral]
  · rw [not_or, Bool.not_eq_false] at silent
    simp only [silent.1, notRequired, risk, ne_eq, silent.2, not_false_eq_true, decide_true,
      Bool.and_true, and_self]
  all_goals
    refine ⟨nofun, fun isOpen => absurd ⟨isOpen.2.2, ?_⟩ risk⟩
    exact of_decide_eq_true ((Bool.and_eq_true _ _).mp isOpen.1).2

/-- A dimension is at risk when its score is low enough and a quote shows why. -/
theorem mem_risky_iff (candidate job : EvidenceDocument Digest) (scores : Dimension → Int)
    (dimension : Dimension) :
    dimension ∈ ((materializeMatchCitations candidate job scores).filter fun citation =>
        citation.assessment = .risk).map (fun citation => citation.type) ↔
      showsMismatch candidate job dimension = true ∧ scores dimension ≠ 50 ∧
        (riskScoreCap dimension).any (scores dimension ≤ ·) = true := by
  unfold showsMismatch
  rw [List.any_eq_true]
  constructor
  · intro member
    obtain ⟨citation, inside, rfl⟩ := List.mem_map.mp member
    obtain ⟨made, risky⟩ := List.mem_filter.mp inside
    obtain ⟨dimension, -, selected⟩ := List.mem_flatMap.mp made
    obtain ⟨item, among, rfl⟩ := List.mem_map.mp selected
    obtain ⟨isOpen, low⟩ :=
      (assessment_eq_risk_iff _ _ _ _).mp (of_decide_eq_true risky)
    exact ⟨⟨item, among, isOpen⟩, low⟩
  · rintro ⟨⟨item, among, isOpen⟩, low⟩
    refine List.mem_map.mpr ⟨materializeCitation candidate job dimension (scores dimension) item,
      List.mem_filter.mpr ⟨?_, ?_⟩, rfl⟩
    · exact List.mem_flatMap.mpr ⟨dimension, Dimension.mem_all dimension,
        List.mem_map_of_mem among⟩
    · exact decide_eq_true ((assessment_eq_risk_iff _ _ _ _).mpr ⟨isOpen, low⟩)

/-- A quote that shows a mismatch is more than a note that something is not required. -/
theorem informative_of_showsMismatch {candidate job : EvidenceDocument Digest}
    {dimension : Dimension} (shown : showsMismatch candidate job dimension = true) :
    (informativeJobQuotes job dimension).all (fun quote =>
      quote.requirementStatus = .explicitNotRequired) = false := by
  obtain ⟨item, among, isOpen⟩ := List.any_eq_true.mp shown
  have listed : item ∈ documentQuotes job dimension := by
    unfold selectedJobQuotes at among
    dsimp only at among
    split_ifs at among
    · exact List.mem_of_mem_take among
    · exact List.mem_of_mem_filter among
  unfold leavesOpen at isOpen
  simp only [Bool.and_eq_true, decide_eq_true_eq] at isOpen
  rw [List.all_eq_false]
  refine ⟨item.2, List.mem_filter.mpr ⟨List.mem_map_of_mem listed, ?_⟩, ?_⟩
  · rw [show item.2.hasPositiveEvidence = true from isOpen.1.1]
    rfl
  · exact fun notRequired => isOpen.1.2 (of_decide_eq_true notRequired)

/-! ### The affinity under a cap -/

/-- The affinity is within a bound when the weighted score is, or a dimension at risk is capped
there. -/
theorem affinity_le_iff [MatchWeights] (candidate job : EvidenceDocument Digest)
    (scores : Dimension → Int) (bound : Int) :
    (deriveMatchOutcome scores (materializeMatchCitations candidate job scores)).1 ≤ bound ↔
      MatchWeights.weightedScore scores ≤ bound ∨ ∃ dimension cap,
        riskScoreCap dimension = some cap ∧ cap ≤ bound ∧ scores dimension ≤ cap ∧
          scores dimension ≠ 50 ∧ showsMismatch candidate job dimension = true := by
  unfold deriveMatchOutcome
  dsimp only
  rw [foldl_min_le_iff]
  refine or_congr_right ⟨?_, ?_⟩
  · rintro ⟨cap, capped, low⟩
    obtain ⟨dimension, among, isCap⟩ := List.mem_filterMap.mp capped
    obtain ⟨shown, apart, under⟩ := (mem_risky_iff candidate job scores dimension).mp
      (of_decide_eq_true (List.mem_filter.mp among).2)
    rw [isCap] at under
    exact ⟨dimension, cap, isCap, low, of_decide_eq_true under, apart, shown⟩
  · rintro ⟨dimension, cap, isCap, low, under, apart, shown⟩
    refine ⟨cap, List.mem_filterMap.mpr ⟨dimension, List.mem_filter.mpr
      ⟨Dimension.mem_all dimension, decide_eq_true ?_⟩, isCap⟩, low⟩
    refine (mem_risky_iff candidate job scores dimension).mpr ⟨shown, apart, ?_⟩
    rw [isCap]
    exact decide_eq_true under

/-! ### Scores under a mismatch -/

section

variable (candidate job : EvidenceDocument Digest) (dimension : Dimension)

/-- The score that is left of the highest proposal, unless it is a higher one. -/
def scoreFloor : Dimension → Int
  | .intent => 50
  | .language => 30
  | _ => 40

/-- The highest proposal is left at its floor or above. -/
theorem scoreFloor_le : scoreFloor dimension ≤ dimensionScore candidate job dimension 100 ∧
    scoreFloor dimension ≤ 79 := by
  rw [dimensionScore_eq]
  unfold scoreRule
  dsimp only
  split_ifs with neutral mismatch unsupported supported
  · cases dimension <;> decide
  · cases dimension with
    | intent => cases mismatch
    | _ => decide
  · cases dimension <;> decide
  · cases dimension <;> decide
  · cases dimension <;> decide

/-- Without a mismatch the highest proposal is left at 50 or above. -/
theorem fifty_le_of_match (matching : mandatoryMismatch candidate job dimension = false) :
    50 ≤ dimensionScore candidate job dimension 100 := by
  rw [dimensionScore_eq]
  unfold scoreRule
  dsimp only
  rw [matching]
  split_ifs with neutral impossible unsupported supported
  · decide
  · cases impossible
  · decide
  · decide
  · decide

/-- A mismatch that a quote shows caps the score. -/
theorem dimensionScore_le_of_shown (mismatch : mandatoryMismatch candidate job dimension = true)
    (shown : showsMismatch candidate job dimension = true) (score : Int) :
    dimensionScore candidate job dimension score ≤ mandatoryScoreCap dimension := by
  have informative := informative_of_showsMismatch shown
  unfold dimensionScore
  dsimp only
  rw [informative, mismatch]
  exact min_le_right _ _

end

variable [MatchWeights] (candidate job : EvidenceDocument Digest)

theorem enforcedScores_le (proposed : Dimension → Int) (dimension : Dimension) :
    enforcedScores candidate job proposed dimension ≤
      dimensionScore candidate job dimension (proposed dimension) := by
  unfold enforcedScores
  dsimp only
  split_ifs
  · exact min_le_left _ _
  · exact le_refl _

theorem le_enforcedScores {proposed : Dimension → Int} {dimension : Dimension} {least : Int}
    (low : least ≤ 79) (reached : least ≤ dimensionScore candidate job dimension
      (proposed dimension)) : least ≤ enforcedScores candidate job proposed dimension := by
  unfold enforcedScores
  dsimp only
  split_ifs
  · exact le_min reached low
  · exact reached

/-- The highest proposals keep the weighted score above every cap. -/
theorem forty_lt_weightedScore [NearestWeights] :
    40 < MatchWeights.weightedScore (enforcedScores candidate job fun _ => 100) := by
  have near := (NearestWeights.near (enforcedScores candidate job fun _ => 100)
    (enforcedScores_bounds candidate job fun _ => by decide)).1
  have floor (dimension : Dimension) : scoreFloor dimension ≤
      enforcedScores candidate job (fun _ => 100) dimension :=
    le_enforcedScores candidate job (scoreFloor_le candidate job dimension).2
      (scoreFloor_le candidate job dimension).1
  have skill := floor .skill
  have experience := floor .experience
  have intent := floor .intent
  have language := floor .language
  have location := floor .location
  have transferability := floor .transferability
  have qualification := floor .qualification
  simp only [weightedTwentieths, Dimension.all, weightTwentieths, List.map_cons, List.map_nil,
    List.sum_cons, List.sum_nil, scoreFloor] at *
  omega

/-! ### The claimed cap -/

/-- The outcome of a row of proposed scores. -/
def rowOutcome (row : Dict String Json) : Int × MatchRecommendation × Bool :=
  let scores := enforcedScores candidate job (proposedScores row)
  deriveMatchOutcome scores (materializeMatchCitations candidate job scores)

/-- A hard requirement of a dimension acts on the affinity: a quote shows that it is open, in the
dimension or, for a qualification, in the language, whose cap is lower. -/
def capActs (dimension : Dimension) : Bool :=
  showsMismatch candidate job dimension ||
    (dimension = .qualification && mandatoryMismatch candidate job .language &&
      showsMismatch candidate job .language)

omit [TextTables] [CaseTables] in
/-- An affinity below 65 is not worth applying to. -/
theorem not_worth_of_lt {scores : Dimension → Int} {citations : List (Citation Digest)}
    (low : (deriveMatchOutcome scores citations).1 < 65) :
    (deriveMatchOutcome scores citations).2.2 = false := by
  unfold deriveMatchOutcome at low ⊢
  dsimp only at low ⊢
  exact decide_eq_false fun worth => absurd worth.1 (not_le.mpr low)

/-- A mismatch that a quote shows keeps the affinity of every row within the cap. -/
theorem affinity_le_of_shown {shownDimension : Dimension} {cap bound : Int}
    (hard : shownDimension = .language ∨ shownDimension = .qualification)
    (capped : riskScoreCap shownDimension = some cap) (low : cap ≤ bound)
    (mismatch : mandatoryMismatch candidate job shownDimension = true)
    (shown : showsMismatch candidate job shownDimension = true) (row : Dict String Json) :
    (rowOutcome candidate job row).1 ≤ bound := by
  refine (affinity_le_iff candidate job _ bound).mpr (.inr ⟨shownDimension, cap, capped, low, ?_⟩)
  have scored := (enforcedScores_le candidate job (proposedScores row) shownDimension).trans
    (dimensionScore_le_of_shown candidate job shownDimension mismatch shown _)
  rcases hard with rfl | rfl
  · obtain rfl := Option.some.inj capped
    exact ⟨scored, (scored.trans_lt (by decide)).ne, shown⟩
  · obtain rfl := Option.some.inj capped
    exact ⟨scored, (scored.trans_lt (by decide)).ne, shown⟩

/-- With the highest proposals, only a mismatch that a quote shows brings the affinity down to a
cap of at most 40. -/
theorem shown_of_affinity_le [NearestWeights] {bound : Int} (small : bound ≤ 40)
    (within : (rowOutcome candidate job (scoreRow fun _ => 100)).1 ≤ bound) :
    (showsMismatch candidate job .language = true ∧
        mandatoryMismatch candidate job .language = true) ∨
      (showsMismatch candidate job .qualification = true ∧ bound = 40) := by
  have proposals : proposedScores (scoreRow fun _ => 100) = fun _ => 100 :=
    proposedScores_scoreRow fun _ => by decide
  unfold rowOutcome at within
  rw [proposals] at within
  rcases (affinity_le_iff candidate job _ bound).mp within with weighted | reached
  · have high := forty_lt_weightedScore candidate job
    omega
  · obtain ⟨dimension, cap, isCap, low, under, -, shown⟩ := reached
    cases dimension with
    | intent =>
      obtain rfl := Option.some.inj isCap
      have high : 50 ≤ enforcedScores candidate job (fun _ => 100) .intent :=
        le_enforcedScores candidate job (by decide) (scoreFloor_le candidate job .intent).1
      exact absurd (high.trans under) (by decide)
    | language =>
      refine .inl ⟨shown, ?_⟩
      obtain rfl := Option.some.inj isCap
      rw [← Bool.not_eq_false]
      intro matching
      have high : 50 ≤ enforcedScores candidate job (fun _ => 100) .language :=
        le_enforcedScores candidate job (by decide)
          (fifty_le_of_match candidate job .language matching)
      exact absurd (high.trans under) (by decide)
    | qualification =>
      obtain rfl := Option.some.inj isCap
      exact .inr ⟨shown, by omega⟩
    | _ => cases isCap

/-- Where the language or the qualification that a job requires is not met, the affinity of every
row of proposed scores is within the cap of the dimension, and the job not worth applying to,
exactly when a quote that is cited shows the mismatch. -/
theorem mandatoryMismatch_capped_iff [NearestWeights] {dimension : Dimension} {cap : Int}
    (hard : dimension = .language ∨ dimension = .qualification)
    (capped : riskScoreCap dimension = some cap)
    (mismatch : mandatoryMismatch candidate job dimension = true) :
    (∀ row, (rowOutcome candidate job row).1 ≤ cap ∧ (rowOutcome candidate job row).2.2 = false) ↔
      capActs candidate job dimension = true := by
  unfold capActs
  rw [Bool.or_eq_true, Bool.and_eq_true, Bool.and_eq_true, decide_eq_true_eq]
  constructor
  · intro always
    have within := (always (scoreRow fun _ => 100)).1
    rcases hard with rfl | rfl
    · obtain rfl := Option.some.inj capped
      rcases shown_of_affinity_le candidate job (by decide) within with language | qualification
      · exact .inl language.1
      · exact absurd qualification.2 (by decide)
    · obtain rfl := Option.some.inj capped
      rcases shown_of_affinity_le candidate job (by decide) within with language | qualification
      · exact .inr ⟨⟨rfl, language.2⟩, language.1⟩
      · exact .inl qualification.1
  · intro acts row
    have bounded : cap ≤ 40 := by
      rcases hard with rfl | rfl
      · obtain rfl := Option.some.inj capped
        decide
      · obtain rfl := Option.some.inj capped
        decide
    have within : (rowOutcome candidate job row).1 ≤ cap := by
      rcases acts with shown | ⟨⟨rfl, unmet⟩, shown⟩
      · exact affinity_le_of_shown candidate job hard capped (le_refl _) mismatch shown row
      · obtain rfl := Option.some.inj capped
        exact affinity_le_of_shown candidate job (.inl rfl) rfl (by decide) unmet shown row
    exact ⟨within, not_worth_of_lt (within.trans_lt (by omega))⟩

end

/-! ### A language the quotes do not know -/

namespace WordGrammar

/-- `_LANGUAGE_ALIASES`. -/
def languageAliases : Dict String String :=
  [("english", "english"), ("englisch", "english"), ("anglais", "english"), ("inglese", "english"),
    ("german", "german"), ("deutsch", "german"), ("allemand", "german"), ("tedesco", "german"),
    ("french", "french"), ("französisch", "french"), ("franzoesisch", "french"),
    ("français", "french"), ("francais", "french"), ("francese", "french"),
    ("italian", "italian"), ("italienisch", "italian"), ("italien", "italian"),
    ("italiano", "italian"), ("spanish", "spanish"), ("spanisch", "spanish"),
    ("espagnol", "spanish"), ("spagnolo", "spanish")]

/-- The words of `_DIMENSION_PATTERNS` for a language: Spanish is not among them. -/
def languageWords : List String :=
  ["language", "sprache", "langue", "lingua", "english", "englisch", "anglais", "inglese",
    "german", "deutsch", "allemand", "tedesco", "french", "französisch", "franzoesisch",
    "français", "francais", "francese", "italian", "italienisch", "italien", "italiano", "native",
    "fluent", "fließend", "fliessend", "courant", "courante", "fluente", "muttersprachlich",
    "maternelle", "madrelingua", "a1", "a2", "b1", "b2", "c1", "c2"]

/-- The words of `_DIMENSION_PATTERNS` for experience. -/
def experienceWords : List String :=
  ["experience", "year", "years", "senior", "junior", "lead", "erfahrung", "berufserfahrung",
    "jahr", "jahre", "jahren", "expérience", "an", "ans", "année", "années", "esperienza", "ann",
    "anni", "responsabile"]

def words (text : String) : List String :=
  (Text.runs Char.isAlphanum (text.toList.map Char.toLower)).map String.ofList

/-- The languages of a clause without a level. -/
def languages (clause : String) : List String :=
  ((words clause).filterMap fun word => Dict.lookup word languageAliases).dedup

/-- The terms of a clause but for stop words, which the languages are too. -/
def skillTerms (clause : String) : List String :=
  (words clause).filter fun word =>
    word ∉ ["required", "experience"] ∧ word ∉ Dict.keys languageAliases

def ranked (found : List String) : Json := .obj (found.map fun language => (language, .int 0))

/-- The summary of clauses without connectors, levels, years and qualifications. -/
def requirementSummary (kind : SourceKind) (text : String) : Json :=
  let clauses := PlainGrammar.allFragments text
  match kind with
  | .candidate => .obj [("observed_experience_years", .null),
      ("observed_languages", ranked (clauses.flatMap languages).dedup),
      ("observed_qualification_rank", .int 0),
      ("observed_skill_terms", .ofTexts (clauses.flatMap skillTerms)),
      ("negated_skill_terms", .arr [])]
  | .job =>
    let required := clauses.filter PlainGrammar.saysRequired
    let present := clauses.filter fun clause => !PlainGrammar.saysRequired clause
    let skills := required.flatMap skillTerms
    let tongues := required.flatMap languages
    .obj [("excluded_skill_terms", .arr []), ("preferred_skill_terms", .arr []),
      ("present_skill_terms", .ofTexts (present.flatMap skillTerms)),
      ("required_experience_years", .null),
      ("required_language_groups", .arr (tongues.map fun language => ranked [language])),
      ("required_languages", ranked tongues.dedup), ("required_qualification_rank", .int 0),
      ("required_skill_groups", .arr (skills.map fun term => .ofTexts [term])),
      ("required_skill_terms", .ofTexts skills)]

end WordGrammar

/-- The grammar on sentences of words without connectors. -/
@[reducible] def ClauseGrammar.words : ClauseGrammar where
  sentences text := (PlainGrammar.sentencesFrom [] false text.toList).map String.ofList
  allFragments := PlainGrammar.allFragments
  allFragments_solid := ClauseGrammar.plain.allFragments_solid
  dimensionPattern
    | .language, text => (WordGrammar.words text).any WordGrammar.languageWords.contains
    | .experience, text => (WordGrammar.words text).any WordGrammar.experienceWords.contains
    | _, _ => false
  skillTerms := WordGrammar.skillTerms
  positiveReassertion _ := false
  explicitRequirementStatus text :=
    if PlainGrammar.saysRequired text then some .required else none
  requirementSummary := WordGrammar.requirementSummary

section

attribute [local instance] TextTables.plain CaseTables.ascii ClauseGrammar.words
  MatchWeights.nearest nearestWeights_nearest

/-- Digests that are not looked at. -/
@[reducible] def noFingerprints : Fingerprints Unit where
  source _ := ()
  quote _ _ := ()
  catalog _ := ()
  matchInput _ _ := ()
  scores _ := ()

attribute [local instance] noFingerprints

def nurse : EvidenceDocument Unit :=
  candidateEvidenceDocument ⟨"Nurse", "", "Nurse experience.", ""⟩

def nurseJob (description : String) : EvidenceDocument Unit :=
  jobEvidenceDocument ⟨"Nurse", "", "", "", description⟩ 0

/-- German is required and a quote says so: even the highest scores get a nurse without it no
higher than 30. -/
theorem mandatoryMismatch_capped_german :
    (rowOutcome nurse (nurseJob "German required. Nurse experience.")
        (scoreRow fun _ => 100)).1 ≤ 30 ∧
      (rowOutcome nurse (nurseJob "German required. Nurse experience.")
        (scoreRow fun _ => 100)).2.2 = false :=
  (mandatoryMismatch_capped_iff nurse (nurseJob "German required. Nurse experience.") (.inl rfl)
    rfl (by decide +kernel)).mpr (by decide +kernel) (scoreRow fun _ => 100)

/-- Spanish is required and no quote says so: the highest scores make a strong fit of a nurse
without it. -/
theorem mandatoryMismatch_not_capped :
    mandatoryMismatch nurse (nurseJob "Spanish required. Nurse experience.") .language = true ∧
      rowOutcome nurse (nurseJob "Spanish required. Nurse experience.")
        (scoreRow fun _ => 100) = (88, .strongFit, true) := by
  decide +kernel

end

end CareerOS
