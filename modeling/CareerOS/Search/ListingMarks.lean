/-
This file is the marks a listing is known by: its identity at the provider, its
address without what differs between two links to one page, the words of its
title and company, and the fingerprint of its text. They are read off an object
by the names of its attributes. An address that cannot be read is an error.
-/

import CareerOS.Library.Pattern
import CareerOS.Library.TextScan
import CareerOS.Library.UrlText
import CareerOS.Search.Deduplication

namespace CareerOS

open Text

/-- The Unicode tables, `parse_qsl`, `urlencode` and `hashlib.sha256(text).hexdigest()`. -/
class ListingTexts extends TextTables, WordTables where
  lower_empty : lower "" = ""
  parseQsl : String → List (String × String)
  urlencode : List (String × String) → String
  sha256 : String → String

/-- What the attribute `company` may hold. -/
inductive ListingCompany
  /-- An object with a name. -/
  | named (name : Option String)
  | text (name : String)

/-- The attributes of an object that the marks are read off. The outer option is whether the object
has the attribute, the inner one whether its value is `None`. -/
structure ListingAttributes where
  source : Option (Option String)
  platform : Option (Option String)
  id : Option (Option String)
  platformJobId : Option (Option String)
  externalUrl : Option (Option String)
  url : Option (Option String)
  title : Option (Option String)
  company : Option (Option ListingCompany)
  /-- The text of each entry of `descriptions`. -/
  descriptions : Option (List (Option String))
  description : Option (Option String)

/-- An object without any of the attributes, such as a tuple. -/
def ListingAttributes.none : ListingAttributes :=
  ⟨.none, .none, .none, .none, .none, .none, .none, .none, .none, .none⟩

/-- `first or second` of two attributes with the default `None`. -/
def attributeOr (first second : Option (Option String)) : Option String :=
  match first.join with
  | some text => if text = "" then second.join else some text
  | .none => second.join

/-! ### Identity -/

/-- `_INVALID_LISTING_ID_TOKENS`. -/
def invalidListingIdTokens : List String := ["none", "null", "unknown", "n/a", "na", "undefined"]

/-- `normalize_listing_identifier`. -/
def normalizeListingIdentifier [TextTables] (value : Option String) : String :=
  match value with
  | .none => ""
  | some text =>
    let token := strip text
    if invalidListingIdTokens.contains (TextTables.lower token) then "" else token

/-- `listing_identity_key`. -/
def listingIdentityKey [TextTables] (listing : ListingAttributes) : Option String :=
  let platform := (attributeOr listing.source listing.platform).getD ""
  let platformId := normalizeListingIdentifier (attributeOr listing.id listing.platformJobId)
  if platform ≠ "" ∧ platformId ≠ "" then some (platform ++ ":" ++ platformId) else .none

/-! ### Address -/

/-- `_TRACKING_QUERY_PARAM_NAMES`. -/
def trackingQueryParamNames : List String :=
  ["fbclid", "gclid", "igshid", "mc_cid", "mc_eid", "mkt_tok", "ref", "ref_src", "yclid"]

/-- `_is_tracking_query_param`. -/
def isTrackingQueryParam [TextTables] (name : String) : Bool :=
  let token := TextTables.lower (strip name)
  trackingQueryParamNames.contains token || "utm_".toList.isPrefixOf token.toList

/-- The parameters of a query that are kept, in lower case and in order. -/
def keptQueryItems [ListingTexts] (query : String) : List (String × String) :=
  let items := (ListingTexts.parseQsl query).filterMap fun (key, value) =>
    let normalizedKey := TextTables.lower (strip key)
    if isTrackingQueryParam normalizedKey then .none
    else some (normalizedKey, TextTables.lower (strip value))
  items.insertionSort fun first second =>
    first.1 < second.1 ∨ (first.1 = second.1 ∧ first.2 ≤ second.2)

/-- The network location of an address: the host without `www.`, and a port that is not the one of
the scheme. -/
def canonicalNetloc [TextTables] (parsed : Url.SplitResult) : Except String (List Char) := do
  let host := (TextTables.lower (parsed.hostname.getD "")).toList
  let hostname := if "www.".toList.isPrefixOf host then host.drop 4 else host
  match ← parsed.port with
  | .none => return hostname
  | some port =>
    if (parsed.scheme = "http" ∧ port = 80) ∨ (parsed.scheme = "https" ∧ port = 443) then
      return hostname
    else return hostname ++ ':' :: port.repr.toList

/-- The path of an address: one slash for several, and none at the end. -/
def canonicalPath [TextTables] (path : List Char) : List Char :=
  let single := collapse (· == '/') '/' (stripList path)
  let lowered := (orElse (TextTables.lower (String.ofList single)) "/").toList
  if lowered = ['/'] then lowered else lowered.rdropWhile (· == '/')

/-- `urlunsplit(("", netloc, path, query, ""))`. -/
def unsplitBare (netloc path query : List Char) : List Char :=
  let url :=
    if netloc ≠ [] then
      '/' :: '/' :: netloc ++ (if path ≠ [] ∧ path.head? ≠ some '/' then '/' :: path else path)
    else if path.take 2 = ['/', '/'] then '/' :: '/' :: path
    else path
  url ++ if query = [] then [] else '?' :: query

/-- `_canonicalize_listing_url` of a text that is not blank, with its scheme. -/
def canonicalizeAddress [ListingTexts] (raw : String) : Except String String := do
  let parsed ← Url.urlsplitText raw
  if parsed.scheme = "" ∧ parsed.netloc = [] then
    return String.ofList ((TextTables.lower raw).toList.rdropWhile (· == '/'))
  let netloc ← canonicalNetloc parsed
  let query := ListingTexts.urlencode (keptQueryItems (String.ofList parsed.query))
  let canonical := unsplitBare netloc (canonicalPath parsed.path) query.toList
  return String.ofList (canonical.dropWhile (· == '/'))

/-- `_canonicalize_listing_url`. -/
def canonicalizeListingUrl [ListingTexts] (value : Option String) :
    Except String String :=
  let raw := strip (value.getD "")
  if raw = "" then .ok ""
  else if ¬"://".toList <:+: raw.toList ∧
      "www.".toList.isPrefixOf (TextTables.lower raw).toList then
    canonicalizeAddress ("https://" ++ raw)
  else canonicalizeAddress raw

/-- `listing_url_token`. -/
def listingUrlToken [ListingTexts] (listing : ListingAttributes) :
    Except String String :=
  canonicalizeListingUrl (attributeOr listing.externalUrl listing.url)

/-! ### Words -/

/-- `normalized_text_token`. -/
def normalizedTextToken [ListingTexts] (value : Option String) : String :=
  let letters := (TextTables.lower (value.getD "")).toList.map fun letter =>
    if WordTables.isWord letter || isSpace letter then letter else ' '
  String.ofList (joinWords letters)

/-- `extract_company_name`. -/
def ListingAttributes.extractCompanyName (listing : ListingAttributes) : String :=
  match listing.company.join with
  | some (.named name) => name.getD ""
  | some (.text name) => name
  | .none => ""

/-- `listing_fuzzy_key`. -/
def listingFuzzyKey [ListingTexts] (listing : ListingAttributes) : String :=
  let title := normalizedTextToken listing.title.join
  let company := normalizedTextToken (some listing.extractCompanyName)
  if title = "" ∧ company = "" then "" else title ++ "::" ++ company

/-! ### Text -/

/-- `re.sub(r"<[^>]+>", " ", text)`, inside of what may be a tag or outside. -/
def blankTags : Option (List Char) → List Char → List Char
  | .none, [] => []
  | some held, [] => '<' :: held
  | .none, letter :: rest =>
    if letter = '<' then blankTags (some []) rest else letter :: blankTags .none rest
  | some held, letter :: rest =>
    if letter = '>' then
      if held = [] then '<' :: '>' :: blankTags .none rest else ' ' :: blankTags .none rest
    else blankTags (some (held ++ [letter])) rest

/-- The text of a listing. -/
def descriptionText (listing : ListingAttributes) : String :=
  orElse (((listing.descriptions.getD []).head?.join).getD "") (listing.description.join.getD "")

/-- `listing_description_fingerprint`. -/
def listingDescriptionFingerprint [ListingTexts] (listing : ListingAttributes) :
    Option String :=
  let text := descriptionText listing
  if (strip text).length < 50 then .none
  else
    let untagged := String.ofList (blankTags .none text.toList)
    let clean := collapse isSpace ' ' (strip (TextTables.lower untagged)).toList
    some (ListingTexts.sha256 (String.ofList (clean.take 500)))

/-! ### All marks -/

section

variable [ListingTexts]

/-- The marks of a listing, as the loop reads them. -/
def dedupKeys (listing : ListingAttributes) : Except String DedupKeys := do
  let url ← listingUrlToken listing
  return {
    key := listingIdentityKey listing
    url
    fuzzy := listingFuzzyKey listing
    descFp := listingDescriptionFingerprint listing }

/-- The marks of a listing, without an address that cannot be read. -/
def marksOf (listing : ListingAttributes) : DedupKeys where
  key := listingIdentityKey listing
  url := (listingUrlToken listing).toOption.getD ""
  fuzzy := listingFuzzyKey listing
  descFp := listingDescriptionFingerprint listing

/-- Can the address of the listing be read? -/
def AddressRead (listing : ListingAttributes) : Prop := (listingUrlToken listing).isOk = true

theorem dedupKeys_of_addressRead {listing : ListingAttributes} (read : AddressRead listing) :
    dedupKeys listing = .ok (marksOf listing) := by
  unfold AddressRead at read
  unfold dedupKeys marksOf
  cases token : listingUrlToken listing with
  | error message =>
    rw [token] at read
    cases read
  | ok url => rfl

theorem addressRead_of_dedupKeys {listing : ListingAttributes} {keys : DedupKeys}
    (read : dedupKeys listing = .ok keys) : AddressRead listing := by
  unfold dedupKeys at read
  unfold AddressRead
  cases token : listingUrlToken listing with
  | error message =>
    rw [token] at read
    cases read
  | ok url => rfl

theorem listingIdentityKey_none : listingIdentityKey .none = .none := rfl

theorem listingFuzzyKey_none : listingFuzzyKey .none = "" := by
  have token (value : Option String) (empty : value.getD "" = "") :
      normalizedTextToken value = "" := by
    unfold normalizedTextToken
    rw [empty, ListingTexts.lower_empty]
    rfl
  unfold listingFuzzyKey
  rw [token ListingAttributes.none.title.join rfl,
    token (some ListingAttributes.none.extractCompanyName) rfl]
  rfl

end

end CareerOS
