/-
This file is the contract of a provider query. A query is made canonical before
it is used: its text loses noise, marks and needless white space, its domain is
a slug. The inputs that shape the queries have a fingerprint, under which a plan
is cached.
-/

import CareerOS.Library.Pattern
import CareerOS.Library.Spacing
import CareerOS.Services.PromptText

namespace CareerOS

open Text

/-- The Unicode tables behind `str.lower()`, `str.casefold()`, `\w` and `\d`. -/
class QueryTables extends WordTables where
  lower : String → String
  casefold : String → String
  /-- Lower case is the identity on ASCII letters that are not upper case. -/
  lower_plain : ∀ text : String,
    (∀ letter ∈ text.toList, letter.val < 128 ∧ letter.isUpper = false) → lower text = text
  /-- White space is not a word. -/
  isWord_of_isSpace : ∀ letter, isSpace letter = true → isWord letter = false

/-- A letter or digit of ASCII has a code below 128. -/
theorem toNat_of_isAlphanum {letter : Char} (among : letter.isAlphanum = true) :
    letter.toNat < 128 := by
  unfold Char.isAlphanum Char.isAlpha Char.isUpper Char.isLower Char.isDigit at among
  simp only [Bool.or_eq_true, Bool.and_eq_true, decide_eq_true_eq] at among
  rcases among with (⟨-, below⟩ | ⟨-, below⟩) | ⟨-, below⟩
  · exact Nat.lt_of_le_of_lt below (by decide)
  · exact Nat.lt_of_le_of_lt below (by decide)
  · exact Nat.lt_of_le_of_lt below (by decide)

theorem isWord_ascii_of_isSpace {letter : Char} (space : isSpace letter = true) :
    (letter.isAlphanum || letter == '_') = false := by
  by_cases ascii : letter.toNat < 128
  · have codes : ∀ code < 128, isSpace (Char.ofNat code) = true →
        ((Char.ofNat code).isAlphanum || Char.ofNat code == '_') = false := by
      decide +kernel
    have found := codes letter.toNat ascii
    rw [Char.ofNat_toNat] at found
    exact found space
  · have plain : letter.isAlphanum = false :=
      Bool.eq_false_iff.mpr fun among => ascii (toNat_of_isAlphanum among)
    rw [plain, Bool.false_or, beq_eq_false_iff_ne]
    rintro rfl
    exact ascii (by decide)

/-- The tables on ASCII text. -/
@[reducible] def QueryTables.ascii : QueryTables where
  toWordTables := WordTables.ascii
  lower text := String.ofList (text.toList.map Char.toLower)
  casefold text := String.ofList (text.toList.map Char.toLower)
  lower_plain text plain := by
    have same : text.toList.map Char.toLower = text.toList.map id := by
      refine List.map_congr_left fun letter member => dif_neg fun upper => ?_
      exact absurd (decide_eq_true upper) (Bool.eq_false_iff.mp (plain letter member).2)
    rw [same, List.map_id, String.ofList_toList]
  isWord_of_isSpace _ space := isWord_ascii_of_isSpace space

/-! ### Texts -/

/-- `normalize_whitespace`. -/
def normalizeWhitespace (letters : List Char) : List Char :=
  collapse isSpace ' ' (stripList letters)

/-- The characters of `[a-z0-9- ]`. -/
def isDomainLetter (letter : Char) : Bool :=
  ('a' ≤ letter && letter ≤ 'z') || ('0' ≤ letter && letter ≤ '9') || letter == '-' ||
    letter == ' '

/-- The slug of a lower-case text. -/
def domainSlug (letters : List Char) : List Char :=
  let marked := (normalizeWhitespace letters).map fun letter =>
    if letter = '/' ∨ letter = '_' then '-' else letter
  let joined := (marked.filter isDomainLetter).map fun letter =>
    if letter = ' ' then '-' else letter
  trim (· == '-') (collapse (· == '-') '-' joined)

/-- `normalize_domain`. -/
def normalizeDomain [QueryTables] (value : String) : String :=
  orElse (String.ofList (domainSlug (QueryTables.lower (orElse value "general")).toList)) "general"

/-- A letter in either case. -/
def eitherCase (lower upper : Char) : Pattern :=
  .one fun letter => letter == lower || letter == upper

/-- Three letters between slashes. -/
def slashed (first second third : Pattern) : Pattern :=
  .andThen first (.andThen (.one (· == '/')) (.andThen second (.andThen (.one (· == '/')) third)))

/-- The words of `_QUERY_NOISE_PATTERN`. -/
def queryNoise [WordTables] : Pattern :=
  let m := eitherCase 'm' 'M'
  let f := eitherCase 'f' 'F'
  let w := eitherCase 'w' 'W'
  let d := eitherCase 'd' 'D'
  let digits := Pattern.between 1 2 (.one WordTables.isDecimal)
  .orElse (slashed m w d) (.orElse (slashed f m d) (.orElse (slashed m f d)
    (.andThen digits (.andThen (.upTo 1 (.andThen (.one (· == '-')) digits)) (.one (· == '%'))))))

/-- Does a text start inside a word? -/
def startsInWord [WordTables] (letters : List Char) : Bool := letters.head?.any WordTables.isWord

/-- What a noise at the start of a text leaves, if there is one that no word follows. -/
def afterNoise [WordTables] (letters : List Char) : Option (List Char) :=
  (queryNoise.run letters).find? fun rest => !startsInWord rest

/-- `_QUERY_NOISE_PATTERN.sub(" ", text)`, with so many characters of a noise to skip and after a
character that is or is not of a word. -/
def removeNoise [WordTables] : Nat → Bool → List Char → List Char
  | _, _, [] => []
  | skip + 1, _, letter :: rest => removeNoise skip (WordTables.isWord letter) rest
  | 0, inWord, letter :: rest =>
    match if inWord then none else afterNoise (letter :: rest) with
    | none => letter :: removeNoise 0 (WordTables.isWord letter) rest
    | some left => ' ' :: removeNoise (rest.length - left.length) (WordTables.isWord letter) rest

/-- The plain mark for a typographic one. -/
def plainQuote (letter : Char) : Char :=
  if letter = '“' ∨ letter = '”' then '"'
  else if letter = '’' ∨ letter.toNat = 0x60 then '\''
  else letter

/-- The characters that `_QUERY_CLEAN_PATTERN` keeps. -/
def isQueryLetter [WordTables] (letter : Char) : Bool :=
  WordTables.isWord letter || isSpace letter || ['+', '#', '.', '/', '-'].contains letter

/-- `_QUERY_CLEAN_PATTERN.sub(" ", text)`. -/
def cleanQuery [WordTables] (letters : List Char) : List Char :=
  letters.map fun letter => if isQueryLetter letter then letter else ' '

/-- `canonicalize_query_text`. -/
def canonicalizeQueryText [WordTables] (query : String) : String :=
  let quoted := (normalizeWhitespace query.toList).map plainQuote
  String.ofList (normalizeWhitespace (cleanQuery (removeNoise 0 false quoted)))

/-! ### Queries -/

/-- The two types of a query. -/
inductive QueryType
  | occupation
  | keyword
  deriving DecidableEq

namespace QueryType

/-- The type as it is written. -/
def text : QueryType → String
  | occupation => "occupation"
  | keyword => "keyword"

end QueryType

/-- A query for the providers. Its language is English. -/
structure SearchItem where
  query : String
  type : QueryType
  domain : String
  language : String
  deriving DecidableEq

/-- `_LANGUAGE_ALIASES`. -/
def languageAliases : List (String × String) :=
  [("english", "en"), ("en", "en"), ("de", "de"), ("deutsch", "de"), ("german", "de"),
    ("fr", "fr"), ("french", "fr"), ("francais", "fr"), ("français", "fr"), ("it", "it"),
    ("italian", "it"), ("italiano", "it"), ("es", "es"), ("spanish", "es"), ("espanol", "es"),
    ("español", "es"), ("pt", "pt"), ("portuguese", "pt"), ("portugues", "pt"),
    ("português", "pt"), ("pl", "pl"), ("polish", "pl"), ("polski", "pl"), ("ro", "ro"),
    ("romanian", "ro"), ("romana", "ro"), ("română", "ro")]

/-- `normalize_language`. -/
def normalizeLanguage [QueryTables] (value : String) : String :=
  let text := String.ofList (normalizeWhitespace (QueryTables.lower (orElse value "en")).toList)
  match languageAliases.lookup text with
  | some code => code
  | none => orElse (slice text 2) "en"

/-- `normalize_search_item`. -/
def normalizeSearchItem [QueryTables] (search : SearchItem) : Option SearchItem :=
  let query := canonicalizeQueryText search.query
  if query = "" then none
  else
    some {
      query := query
      type := search.type
      domain := normalizeDomain search.domain
      language := normalizeLanguage search.language }

/-- `exact_query_fingerprint`. -/
def exactQueryFingerprint [QueryTables] (search : SearchItem) : String :=
  match normalizeSearchItem search with
  | none => ""
  | some normalized =>
    String.intercalate "|" [normalized.type.text, normalized.language, normalized.domain,
      QueryTables.lower normalized.query]

end CareerOS
