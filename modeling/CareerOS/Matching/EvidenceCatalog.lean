/-
This file is the catalog of quotes that an evidence document carries. The text
of each of the seven dimensions is cut into clauses; each clause that differs
from the earlier ones becomes a quote with its requirement status, its positive
evidence and its hash.

The multilingual grammar that cuts a text into clauses and reads their
requirement markers is a parameter, and so are the Unicode tables it is written
over: nothing here depends on what the patterns are. The digests are a parameter
too, one for each payload that is hashed. A payload is an object that is written
with its keys sorted; it is kept in the order in which it was built, which its
keys determine.
-/

import CareerOS.Library.Json
import CareerOS.Services.PromptText

namespace CareerOS

/-- `_DIMENSIONS`, in order. -/
inductive Dimension
  | skill
  | experience
  | intent
  | language
  | location
  | transferability
  | qualification
  deriving DecidableEq, Repr

namespace Dimension

def all : List Dimension :=
  [.skill, .experience, .intent, .language, .location, .transferability, .qualification]

/-- The word of the source. -/
def text : Dimension → String
  | .skill => "skill"
  | .experience => "experience"
  | .intent => "intent"
  | .language => "language"
  | .location => "location"
  | .transferability => "transferability"
  | .qualification => "qualification"

theorem mem_all (dimension : Dimension) : dimension ∈ all := by
  cases dimension <;> decide

theorem nodup_all : all.Nodup := by decide

end Dimension

/-- The status of a requirement in a clause. -/
inductive RequirementStatus
  | unknown
  | explicitNotRequired
  | exclusion
  | required
  | preferred
  | present
  deriving DecidableEq, Repr

/-- Whose evidence a document holds. -/
inductive SourceKind
  | candidate
  | job
  deriving DecidableEq, Repr

/-- The Unicode tables behind `str.casefold()` and `\w`. -/
class CaseTables where
  casefold : String → String
  isWord : Char → Bool

/-- The clause grammar. -/
class ClauseGrammar where
  /-- `_FRAGMENT_SPLIT.split(text)`. -/
  sentences : String → List String
  /-- `_all_fragments`. -/
  allFragments : String → List String
  /-- A clause is kept when something is left of it. -/
  allFragments_solid : ∀ text, ∀ fragment ∈ allFragments text, fragment ≠ ""
  /-- `_DIMENSION_PATTERNS[dimension].search(fragment)`. -/
  dimensionPattern : Dimension → String → Bool
  /-- `_skill_terms`. -/
  skillTerms : String → List String
  /-- `_positive_reassertion`. -/
  positiveReassertion : String → Bool
  /-- `_explicit_requirement_status`. -/
  explicitRequirementStatus : String → Option RequirementStatus
  /-- `_requirement_summary` of a source text. -/
  requirementSummary : SourceKind → String → Json

/-! ### The grammar on plain sentences -/

/-- The case tables on ASCII text. -/
@[reducible] def CaseTables.ascii : CaseTables where
  casefold text := String.ofList (text.toList.map Char.toLower)
  isWord letter := letter.isAlphanum || letter == '_'

namespace PlainGrammar

/-- The sentences of a text: what ends in a line end, or in a stop and white space. -/
def sentencesFrom : List Char → Bool → List Char → List (List Char)
  | sentence, _, [] => [sentence]
  | sentence, stopped, letter :: rest =>
    if letter = '\n' ∨ stopped ∧ Text.isSpace letter then
      sentence :: sentencesFrom [] false rest
    else sentencesFrom (sentence ++ [letter]) (letter ∈ ['.', '!', '?', ';']) rest

/-- `text.strip(" ,-;/")`. -/
def stripSeparators (letters : List Char) : List Char :=
  let kind := fun letter : Char => letter ∈ [' ', ',', '-', ';', '/']
  (letters.dropWhile kind).rdropWhile kind

/-- The clauses of a text without a connector: its sentences. -/
def allFragments (text : String) : List String :=
  ((sentencesFrom [] false text.toList).map fun sentence =>
    String.ofList (stripSeparators (Text.joinWords sentence))).filter (· ≠ "")

/-- Does a text say that something is required? -/
def saysRequired (text : String) : Bool :=
  (text.toList.map Char.toLower).tails.any "required".toList.isPrefixOf

/-- The terms of a text but for the requirement itself. -/
def skillTerms (text : String) : List String :=
  let word := fun letter : Char => letter.isAlphanum || letter == '+' || letter == '#'
  ((Text.runs word (text.toList.map Char.toLower)).map String.ofList).filter (· ≠ "required")

/-- The summary of a text that asks for one skill in a sentence. -/
def requirementSummary (kind : SourceKind) (text : String) : Json :=
  let clauses := allFragments text
  let terms := fun clauses : List String => clauses.flatMap skillTerms
  match kind with
  | .candidate => .obj [("observed_experience_years", .null), ("observed_languages", .obj []),
      ("observed_qualification_rank", .int 0), ("observed_skill_terms", .ofTexts (terms clauses)),
      ("negated_skill_terms", .arr [])]
  | .job =>
    let required := terms (clauses.filter saysRequired)
    .obj [("excluded_skill_terms", .arr []), ("preferred_skill_terms", .arr []),
      ("present_skill_terms", .ofTexts (terms (clauses.filter fun clause => !saysRequired clause))),
      ("required_experience_years", .null), ("required_language_groups", .arr []),
      ("required_languages", .obj []), ("required_qualification_rank", .int 0),
      ("required_skill_groups", .arr (required.map fun term => .ofTexts [term])),
      ("required_skill_terms", .ofTexts required)]

end PlainGrammar

/-- The grammar on sentences without connectors that name one skill each, or none. -/
@[reducible] def ClauseGrammar.plain : ClauseGrammar where
  sentences text := (PlainGrammar.sentencesFrom [] false text.toList).map String.ofList
  allFragments := PlainGrammar.allFragments
  allFragments_solid := by
    intro text fragment member
    unfold PlainGrammar.allFragments at member
    simpa using (List.mem_filter.mp member).2
  dimensionPattern _ _ := false
  skillTerms := PlainGrammar.skillTerms
  positiveReassertion _ := false
  explicitRequirementStatus text :=
    if PlainGrammar.saysRequired text then some .required else none
  requirementSummary := PlainGrammar.requirementSummary

section

variable [CaseTables] [ClauseGrammar]

/-! ### Fragments -/

open CaseTables ClauseGrammar

/-- `"\n".join(fragments)`. -/
def joinLines (fragments : List String) : String := "\n".intercalate fragments

/-- `_matching_fragments`. -/
def matchingFragments (text : String) (dimension : Dimension) : String :=
  joinLines (((sentences text).flatMap allFragments).filter (dimensionPattern dimension))

/-- `" ".join(value.casefold().split())`. -/
def normalizedWords (value : String) : String :=
  String.ofList (Text.joinWords (casefold value).toList)

/-- `_is_missing_evidence`. -/
def isMissingEvidence (value : String) : Bool :=
  let normalized := (normalizedWords value).toList
  normalized.isEmpty || "no explicit ".toList.isPrefixOf normalized ||
    normalized.tails.any "no description provided".toList.isPrefixOf ||
    " is empty.".toList.isSuffixOf normalized

/-- `_requirement_status`. -/
def requirementStatus (value : String) : RequirementStatus :=
  if isMissingEvidence value then .unknown
  else (explicitRequirementStatus value).getD .present

/-- `_skill_evidence`. -/
def skillEvidence (value fallback : String) : String :=
  let relevant := (allFragments value).filter fun fragment =>
    !(skillTerms fragment).isEmpty || positiveReassertion fragment
  Text.orElse (joinLines relevant) fallback

/-- The fragments that differ from the earlier ones up to case. -/
def uniqueFragments (seen : List String) : List String → List String
  | [] => []
  | fragment :: rest =>
    if fragment ≠ "" ∧ casefold fragment ∉ seen then
      fragment :: uniqueFragments (casefold fragment :: seen) rest
    else uniqueFragments seen rest

/-- `_quote_fragments`. -/
def quoteFragments (value fallback : String) : List String :=
  let fragments := allFragments value
  uniqueFragments [] (if fragments = [] then [fallback] else fragments)

/-- The characters of `[\w+#.-]`. -/
def isTokenCharacter (letter : Char) : Bool :=
  isWord letter || letter == '+' || letter == '#' || letter == '.' || letter == '-'

/-- `text.strip(".-")`. -/
def stripPunctuation (letters : List Char) : List Char :=
  let kind := fun letter : Char => letter == '.' || letter == '-'
  (letters.dropWhile kind).rdropWhile kind

/-- `_has_positive_evidence`. -/
def hasPositiveEvidence (value : String) (kind : SourceKind) : Bool :=
  let normalized := normalizedWords value
  if isMissingEvidence normalized then false
  else if kind = .candidate ∧ requirementStatus value ∈
      [RequirementStatus.explicitNotRequired, .exclusion] then false
  else
    let informative := (Text.runs isTokenCharacter normalized.toList).filter fun token =>
      String.ofList token ∉ ["expected", "location", "role", "search", "strategy", "title"]
    informative.any fun token => stripPunctuation token ≠ []

/-! ### Quotes -/

/-- One quote of a catalog. -/
structure Quote (Digest : Type) where
  dimension : Dimension
  hasPositiveEvidence : Bool
  requirementStatus : RequirementStatus
  text : String
  textHash : Digest
  deriving DecidableEq

/-- What the fingerprint of a catalog covers of one quote. -/
structure QuotePayload (Digest : Type) where
  quoteId : String
  dimension : Dimension
  hasPositiveEvidence : Bool
  requirementStatus : RequirementStatus
  textHash : Digest
  deriving DecidableEq

/-- What the fingerprint of a catalog covers. -/
structure CatalogPayload (Digest : Type) where
  catalogVersion : String
  quotes : List (QuotePayload Digest)
  coverageComplete : List (Dimension × Bool)
  requirementSummary : Json
  deriving DecidableEq

/-- One side of what the fingerprint of a match input covers. -/
structure MatchInput (Digest : Type) where
  catalogFingerprint : Digest
  catalogVersion : String
  id : String
  sourceFingerprint : Digest
  deriving DecidableEq

/-- The SHA-256 digests of the payloads. -/
class Fingerprints (Digest : Type) where
  /-- `_source_fingerprint` of an object of texts. -/
  source : Dict String String → Digest
  /-- `_quote_hash`. -/
  quote : Dimension → String → Digest
  catalog : CatalogPayload Digest → Digest
  /-- The candidate and the job of `match_input_fingerprint`. -/
  matchInput : MatchInput Digest → MatchInput Digest → Digest
  /-- `fingerprint_output` of a row of scores. -/
  scores : (Dimension → Int) → Digest

/-- No two payloads share a digest. -/
class CollisionFree (Digest : Type) [Fingerprints Digest] : Prop where
  source : ∀ first second, (Fingerprints.source first : Digest) =
    Fingerprints.source second → first = second
  quote : ∀ dimension first second, (Fingerprints.quote dimension first : Digest) =
    Fingerprints.quote dimension second → first = second
  catalog : ∀ first second, (Fingerprints.catalog first : Digest) =
    Fingerprints.catalog second → first = second
  matchInput : ∀ candidate first second : MatchInput Digest,
    Fingerprints.matchInput candidate first = Fingerprints.matchInput candidate second →
      first = second

/-- A digest that is its own payload. -/
inductive PayloadDigest
  | source (fields : Dict String String)
  | quote (dimension : Dimension) (text : String)
  | catalog (payload : CatalogPayload PayloadDigest)
  | matchInput (candidate job : MatchInput PayloadDigest)
  | scores (row : Dimension → Int)

instance : Fingerprints PayloadDigest where
  source := .source
  quote := .quote
  catalog := .catalog
  matchInput := .matchInput
  scores := .scores

instance : CollisionFree PayloadDigest where
  source _ _ := PayloadDigest.source.inj
  quote _ _ _ same := (PayloadDigest.quote.inj same).2
  catalog _ _ := PayloadDigest.catalog.inj
  matchInput _ _ _ same := (PayloadDigest.matchInput.inj same).2

variable {Digest : Type} [Fingerprints Digest]

/-- The quotes of a dimension. -/
def dimensionQuotes (baseId : String) (kind : SourceKind) (dimension : Dimension)
    (fragments : List String) : Dict String (Quote Digest) :=
  fragments.mapIdx fun index fragment =>
    (s!"{baseId}:{dimension.text}:{index}",
      { dimension, hasPositiveEvidence := hasPositiveEvidence fragment kind,
        requirementStatus := requirementStatus fragment, text := fragment,
        textHash := Fingerprints.quote dimension fragment })

/-- The quotes of `_atomic_quotes`. -/
def atomicQuotes (baseId : String) (dimensions : Dimension → String) (kind : SourceKind) :
    Dict String (Quote Digest) :=
  Dimension.all.flatMap fun dimension =>
    dimensionQuotes baseId kind dimension
      (quoteFragments (dimensions dimension) s!"No explicit {dimension.text} evidence.")

/-- `_coverage_complete`. -/
def coverageComplete : List (Dimension × Bool) := Dimension.all.map fun dimension => (dimension, true)

/-- `_catalog_fingerprint`. -/
def catalogFingerprint (quotes : Dict String (Quote Digest)) (requirementSummary : Json)
    (coverage : List (Dimension × Bool)) (catalogVersion : String) : Digest :=
  Fingerprints.catalog {
    catalogVersion
    quotes := quotes.map fun item => {
      quoteId := item.1
      dimension := item.2.dimension
      hasPositiveEvidence := item.2.hasPositiveEvidence
      requirementStatus := item.2.requirementStatus
      textHash := item.2.textHash }
    coverageComplete := coverage
    requirementSummary }

/-- `MATCH_EVIDENCE_CATALOG_VERSION`. -/
def matchEvidenceCatalogVersion : String := "8"

end

end CareerOS
