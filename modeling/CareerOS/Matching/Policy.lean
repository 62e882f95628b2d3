/-
This file is the server's part of a match: which quotes of the job and of the
candidate are cited for every dimension, what each pair says, and the outcome and
the wording that follow from the scores and the citations. The model only
proposes scores; everything here is derived.

The weighted score is the rounded sum of floats and is a parameter.
-/

import CareerOS.Library.Url
import CareerOS.Matching.Documents

namespace CareerOS

/-! ### Terms -/

/-- `_GENERIC_MATCH_TERMS`. -/
def genericMatchTerms : List String :=
  ["application", "applications", "ability", "advanced", "assistance", "bonne", "buona", "command",
    "connaissance", "connaissances", "direct", "delivery", "engineer", "evidence", "experience",
    "expertise", "familiarity", "gute", "hands-on", "kenntnisse", "knowledge", "maîtrise",
    "maitrise", "mandatory", "necessary", "needed", "proficiency", "proficient", "production",
    "required", "strong", "supervision", "service", "services", "software", "systems", "work",
    "almeno", "anni", "ans", "années", "berufserfahrung", "erfahrung", "erforderlich",
    "esperienza", "expérience", "facoltativo", "facultatif", "jahre", "jahren", "mindestens",
    "obbligatorio", "obligatoire", "optional", "requis", "requise", "richiesto", "richiesta",
    "wünschenswert", "utilise", "utilisé", "usare"]

section

variable [TextTables] [CaseTables]

/-- `tokenize`. -/
def tokenize (value : String) : List String :=
  let normalized := CaseTables.casefold (TextTables.nfkc value)
  ((Text.runs isTokenCharacter normalized.toList).filter fun token => 1 < token.length).map
    String.ofList

/-- `_semantic_terms`. -/
def semanticTerms (value : String) : List String :=
  let stripped := (tokenize value).map fun token => stripPunctuation token.toList
  let folded := (stripped.filter fun token => 2 ≤ token.length).map fun token =>
    CaseTables.casefold (String.ofList token)
  (folded.filter fun token => token ∉ genericMatchTerms).dedup

end

/-! ### Citations -/

/-- What a pair of quotes says. -/
inductive Assessment
  | strength
  | weakness
  | gap
  | risk
  | insufficientEvidence
  deriving DecidableEq, Repr

/-- One citation. A hash is absent when there was no quote to cite. -/
structure Citation (Digest : Type) where
  type : Dimension
  assessment : Assessment
  jobEvidenceId : String
  candidateEvidenceId : String
  jobQuoteId : String
  candidateQuoteId : String
  jobQuoteHash : Option Digest
  candidateQuoteHash : Option Digest
  jobEvidence : String
  candidateEvidence : String
  deriving DecidableEq

/-- `RISK_SCORE_CAPS`. -/
def riskScoreCap : Dimension → Option Int
  | .intent => some 20
  | .language => some 30
  | .qualification => some 40
  | _ => none

/-- What a quote says, for a candidate that may have no quote. -/
structure QuoteContent where
  hasPositiveEvidence : Bool
  requirementStatus : RequirementStatus
  text : String

section

variable {Digest : Type}

def Quote.content (quote : Quote Digest) : QuoteContent where
  hasPositiveEvidence := quote.hasPositiveEvidence
  requirementStatus := quote.requirementStatus
  text := quote.text

/-- `_document_quotes`. The quotes of a dimension are listed by their index, which is the order of
their ids. -/
def documentQuotes (document : EvidenceDocument Digest) (dimension : Dimension) :
    Dict String (Quote Digest) :=
  document.quotes.filter fun item => item.2.dimension = dimension

/-- `_positive_quote`. -/
def positiveQuote (quote : QuoteContent) : Bool :=
  quote.hasPositiveEvidence &&
    quote.requirementStatus ∉ [RequirementStatus.unknown, .explicitNotRequired, .exclusion]

/-- Is a quote of the job an explicit requirement? -/
def isExplicit (quote : Quote Digest) : Bool :=
  quote.requirementStatus ∈
    [RequirementStatus.required, .preferred, .explicitNotRequired, .exclusion]

/-- The quotes of the job that are cited: every explicit requirement, else the first quote. -/
def selectedJobQuotes (job : EvidenceDocument Digest) (dimension : Dimension) :
    Dict String (Quote Digest) :=
  let quotes := documentQuotes job dimension
  let explicit := quotes.filter fun item => isExplicit item.2
  if explicit = [] then quotes.take 1 else explicit

/-- The order of `candidate_rank`. -/
def rankBefore (first second : Nat × Bool × String) : Bool :=
  first.1 < second.1 || (first.1 == second.1 &&
    ((!first.2.1 && second.2.1) || (first.2.1 == second.2.1 && first.2.2 < second.2.2)))

variable [TextTables] [CaseTables]

/-- `candidate_rank`. -/
def candidateRank (jobTerms : List String) (item : String × Quote Digest) : Nat × Bool × String :=
  ((jobTerms.filter fun term => term ∈ semanticTerms item.2.text).length,
    positiveQuote item.2.content, item.1)

/-- The quote of the candidate that `max` picks, when there is one. -/
def bestCandidateQuote (candidate : EvidenceDocument Digest) (dimension : Dimension)
    (jobText : String) : Option (String × Quote Digest) :=
  let rank := candidateRank (semanticTerms jobText)
  match documentQuotes candidate dimension with
  | [] => none
  | first :: rest =>
    some (rest.foldl (fun best item => if rankBefore (rank best) (rank item) then item else best)
      first)

/-- `derive_citation_assessment`. -/
def deriveCitationAssessment (dimension : Dimension) (score : Int)
    (jobQuote candidateQuote : QuoteContent) : Assessment :=
  let candidatePositive := candidateQuote.hasPositiveEvidence &&
    candidateQuote.requirementStatus ∉ [RequirementStatus.explicitNotRequired, .exclusion]
  let sharedTerms := (tokenize jobQuote.text).filter fun token =>
    token ∈ tokenize candidateQuote.text ∧ token ∉ genericMatchTerms
  if jobQuote.requirementStatus = .explicitNotRequired then .insufficientEvidence
  else if jobQuote.hasPositiveEvidence = false ∨ score = 50 then .insufficientEvidence
  else if (riskScoreCap dimension).any (score ≤ ·) ∧
      (jobQuote.requirementStatus = .required ∨ candidatePositive = false ∨ sharedTerms = []) then
    .risk
  else if candidatePositive = false ∨ score < 45 then .gap
  else if 60 ≤ score then .strength
  else .weakness

/-- The citation of one quote of the job. -/
def materializeCitation (candidate job : EvidenceDocument Digest) (dimension : Dimension)
    (score : Int) (item : String × Quote Digest) : Citation Digest :=
  let best := bestCandidateQuote candidate dimension item.2.text
  let content : QuoteContent :=
    match best with
    | some (_, quote) => quote.content
    | none => ⟨false, .unknown, s!"No explicit {dimension.text} evidence."⟩
  { type := dimension
    assessment := deriveCitationAssessment dimension score item.2.content content
    jobEvidenceId := job.id
    candidateEvidenceId := candidate.id
    jobQuoteId := item.1
    candidateQuoteId :=
      match best with
      | some (id, _) => id
      | none => s!"candidate:profile:{dimension.text}:0"
    jobQuoteHash := some item.2.textHash
    candidateQuoteHash := best.map fun found => found.2.textHash
    jobEvidence := item.2.text
    candidateEvidence := content.text }

/-- `materialize_match_citations`. -/
def materializeMatchCitations (candidate job : EvidenceDocument Digest)
    (scores : Dimension → Int) : List (Citation Digest) :=
  Dimension.all.flatMap fun dimension =>
    (selectedJobQuotes job dimension).map
      (materializeCitation candidate job dimension (scores dimension))

end

/-! ### The outcome -/

/-- The recommendation of a match. -/
inductive MatchRecommendation
  | strongFit
  | consider
  | weakFit
  | insufficientEvidence
  deriving DecidableEq, Repr

/-- `recommendation.replace("_", " ")`. -/
def MatchRecommendation.words : MatchRecommendation → String
  | .strongFit => "strong fit"
  | .consider => "consider"
  | .weakFit => "weak fit"
  | .insufficientEvidence => "insufficient evidence"

/-- The rounded weighted sum of the scores, over `DIMENSION_WEIGHTS`. -/
class MatchWeights where
  weightedScore : (Dimension → Int) → Int

section

variable {Digest : Type}

/-- The citations with an assessment. -/
def countAssessed (assessment : Assessment) (citations : List (Citation Digest)) : Nat :=
  (citations.filter fun citation => citation.assessment = assessment).length

/-- The dimensions in the order of their words. -/
def sortedDimensions : List Dimension :=
  [.experience, .intent, .language, .location, .qualification, .skill, .transferability]

/-- `derive_match_presentation`. -/
def deriveMatchPresentation (recommendation : MatchRecommendation)
    (citations : List (Citation Digest)) : String × Option (List String) :=
  let types := citations.map fun citation => citation.type
  let cited := (sortedDimensions.filter fun dimension => dimension ∈ types).map Dimension.text
  let gaps := countAssessed .weakness citations + countAssessed .gap citations
  let risks := (citations.filter fun citation => citation.assessment = .risk).map fun citation =>
    s!"evidence_risk:{citation.type.text}"
  let flags := risks.reverse.dedup.reverse
  let dimensions := ", ".intercalate cited
  (s!"Local evidence review: {recommendation.words}. " ++
    s!"{countAssessed .strength citations} supported strength(s), {gaps} supported gap(s), " ++
    s!"{countAssessed .risk citations} risk signal(s). " ++
    s!"Evidence dimensions: {dimensions}.",
    if flags = [] then none else some flags)

/-- `derive_match_outcome`: the score, the recommendation, and whether to apply. -/
def deriveMatchOutcome [MatchWeights] (scores : Dimension → Int)
    (citations : List (Citation Digest)) : Int × MatchRecommendation × Bool :=
  let risky := (citations.filter fun citation => citation.assessment = .risk).map fun citation =>
    citation.type
  let caps := (Dimension.all.filter fun dimension => dimension ∈ risky).filterMap riskScoreCap
  let score := caps.foldl min (MatchWeights.weightedScore scores)
  let recommendation :=
    if citations ≠ [] ∧ countAssessed .insufficientEvidence citations = citations.length then
      .insufficientEvidence
    else if 80 ≤ score then .strongFit
    else if 55 ≤ score then .consider
    else .weakFit
  (score, recommendation,
    65 ≤ score ∧ recommendation ∈ [MatchRecommendation.strongFit, .consider])

end

end CareerOS
