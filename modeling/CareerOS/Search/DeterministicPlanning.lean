/-
This file is the planner of provider queries. It reads the role, the strategy,
the first preferred domain and the limits that the owner entered, and nothing
else: the parts of the role are asked for as occupations, the quoted phrases and
the short fragments of the strategy as keywords, within the limits and without
repetition.
-/

import CareerOS.Services.QueryContracts

namespace CareerOS

open Text

/-- The settings of a search profile that shape its queries. -/
structure PlanSettings where
  roleDescription : Option String
  searchStrategy : Option String
  maxQueries : Option Int
  maxOccupationQueries : Option Int
  maxKeywordQueries : Option Int
  preferredDomains : Option (List String)
  deriving DecidableEq

/-- `SEARCH_DEGRADED_PLAN_MAX_QUERIES` and `SEARCH_DEGRADED_PLAN_MAX_KEYWORDS`, at least zero. -/
structure PlanDefaults where
  maxQueries : Nat
  maxKeywords : Nat

/-! ### Candidates -/

/-- The characters of `[,;/|\n]`. -/
def isSeparator (letter : Char) : Bool := [',', ';', '/', '|', '\n'].contains letter

/-- The characters that a phrase loses at its ends. -/
def isPhraseMark (letter : Char) : Bool :=
  [' ', '\t', '.', ',', ';', ':', '|', '/'].contains letter

/-- `_clean_phrase`. -/
def cleanPhrase (maximum : Nat) (letters : List Char) : List Char :=
  rstripList ((trim isPhraseMark (collapse isSpace ' ' letters)).take maximum)

/-- The parts of a text between separators. -/
def separated (letters : List Char) : List (List Char) :=
  runs (fun letter => !isSeparator letter) letters

/-- `_role_candidates`. -/
def roleCandidates (roleDescription : String) : List (List Char) :=
  let role := cleanPhrase 500 roleDescription.toList
  if role = [] then []
  else
    let splitRoles := ((separated role).map (cleanPhrase 120)).filter fun part => part ≠ []
    if splitRoles = [] then [rstripList (role.take 120)] else splitRoles

/-- The characters of `["“”]`. -/
def isQuote (letter : Char) : Bool := ['"', '“', '”'].contains letter

/-- `_QUOTED_PHRASE.findall(text)`, after an opening quote and what follows it, or after none. -/
def quotedPhrases : Option (List Char) → List Char → List (List Char)
  | _, [] => []
  | none, letter :: rest =>
    if isQuote letter then quotedPhrases (some []) rest else quotedPhrases none rest
  | some held, letter :: rest =>
    if isQuote letter then
      if 2 ≤ held.length ∧ held.length ≤ 80 then held :: quotedPhrases none rest
      else quotedPhrases (some []) rest
    else quotedPhrases (some (held ++ [letter])) rest

/-- `_STRATEGY_STOPWORDS`. -/
def strategyStopwords : List String :=
  ["about", "and", "avoid", "con", "cosa", "della", "delle", "focus", "focusing", "for", "für",
    "jobs", "looking", "mit", "on", "oder", "roles", "ruoli", "search", "senza", "the", "und",
    "with"]

section

variable [QueryTables]

/-- `_WORD.findall(text)`. -/
def strategyWords (letters : List Char) : List (List Char) :=
  (runs (fun letter => WordTables.isWord letter || ['+', '#', '.', '-'].contains letter)
    letters).filter fun word => 2 ≤ word.length

/-- What a fragment of the strategy asks for: its words, where they are at most three. -/
def fragmentKeyword (fragment : List Char) : Option (List Char) :=
  let words := (strategyWords fragment).filter fun word =>
    QueryTables.casefold (String.ofList word) ∉ strategyStopwords
  if 1 ≤ words.length ∧ words.length ≤ 3 then some (words.intersperse [' ']).flatten else none

/-- `_keyword_candidates`. -/
def keywordCandidates (searchStrategy : String) : List (List Char) :=
  let strategy := cleanPhrase 1000 searchStrategy.toList
  let quoted := (quotedPhrases none strategy).map (cleanPhrase 80)
  (quoted ++ (separated strategy).filterMap fragmentKeyword).filter fun part => part ≠ []

/-! ### The plan -/

/-- A limit of the profile, where it is one. -/
def planLimit (raw : Option Int) (fallback : Int) : Int :=
  match raw with
  | some value => if 0 ≤ value then value else fallback
  | none => fallback

/-- The limits of a plan. -/
structure PlanLimits where
  queries : Int
  occupations : Int
  keywords : Int

def planLimits (defaults : PlanDefaults) (settings : PlanSettings) : PlanLimits :=
  let queries := planLimit settings.maxQueries defaults.maxQueries
  { queries := queries
    occupations := planLimit settings.maxOccupationQueries queries
    keywords := planLimit settings.maxKeywordQueries defaults.maxKeywords }

/-- The domain of all queries of a plan. -/
def planDomain (settings : PlanSettings) : String :=
  normalizeDomain ((settings.preferredDomains.getD []).headD "")

/-- A candidate as a query. -/
def planItem (domain : String) (type : QueryType) (candidate : List Char) : SearchItem where
  query := String.ofList candidate
  type := type
  domain := domain
  language := "en"

omit [QueryTables] in
theorem planItem_language (domain : String) (type : QueryType) (candidate : List Char) :
    (planItem domain type candidate).language = "en" := rfl

omit [QueryTables] in
theorem planItem_domain (domain : String) (type : QueryType) (candidate : List Char) :
    (planItem domain type candidate).domain = domain := rfl

/-- The candidates as queries. -/
def planCandidates (settings : PlanSettings) : List SearchItem :=
  (roleCandidates (settings.roleDescription.getD "")).map
      (planItem (planDomain settings) .occupation) ++
    (keywordCandidates (settings.searchStrategy.getD "")).map
      (planItem (planDomain settings) .keyword)

/-- The queries taken so far, and their fingerprints. -/
structure Selection where
  taken : List SearchItem
  seen : List String

/-- How many queries of a type were taken. -/
def Selection.count (selection : Selection) (type : QueryType) : Int :=
  selection.taken.countP fun item => item.type = type

/-- Is there no room for a query of the type? -/
def Selection.full (selection : Selection) (limits : PlanLimits) : QueryType → Bool
  | .occupation => limits.occupations ≤ selection.count .occupation
  | .keyword => limits.keywords ≤ selection.count .keyword

/-- The loop over the candidates. -/
def selectQueries (limits : PlanLimits) : Selection → List SearchItem → List SearchItem
  | selection, [] => selection.taken
  | selection, candidate :: rest =>
    match normalizeSearchItem candidate with
    | none => selectQueries limits selection rest
    | some normalized =>
      let fingerprint := exactQueryFingerprint normalized
      if selection.full limits normalized.type = true ∨ fingerprint = "" ∨
          fingerprint ∈ selection.seen then
        selectQueries limits selection rest
      else
        let next : Selection := ⟨selection.taken ++ [normalized], fingerprint :: selection.seen⟩
        if limits.queries ≤ next.taken.length then next.taken else selectQueries limits next rest

/-- `build_deterministic_search_plan`. -/
def buildDeterministicSearchPlan (defaults : PlanDefaults) (settings : PlanSettings) :
    List SearchItem :=
  let limits := planLimits defaults settings
  if limits.queries ≤ 0 then [] else selectQueries limits ⟨[], []⟩ (planCandidates settings)

end

end CareerOS
