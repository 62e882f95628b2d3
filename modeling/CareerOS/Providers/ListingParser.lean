/-
This file is how a declarative provider reads a reply: the items of a JSON body or of an HTML
document, the fields its configuration maps of an item, and the listing they make. Whatever is
wrong with a reply is meant to be a `ResponseParseError`.

Two failures are not caught. An address of a listing is joined and split outside any handler,
so a bad authority of one item fails the reply; and the handler around the HTML tokenizer names
the errors of the tree, not the tokenizer's own. Nothing else fails, and what is read is as it
should be.
-/

import CareerOS.Applications.Schemas
import CareerOS.Providers.DeclarativeTransport
import CareerOS.Providers.HtmlSelect
import CareerOS.Providers.JobProviders

namespace CareerOS

section

variable {Refusal First Second : Type}

theorem bind_error_iff {first : Except Refusal First} {rest : First → Except Refusal Second}
    {refusal : Refusal} : (first >>= rest) = .error refusal ↔
      first = .error refusal ∨ ∃ value, first = .ok value ∧ rest value = .error refusal := by
  cases first with
  | error failure =>
    refine ⟨fun same => Or.inl (congrArg Except.error (Except.error.inj same)), ?_⟩
    rintro (same | ⟨value, made, -⟩)
    · exact congrArg Except.error (Except.error.inj same)
    · cases made
  | ok value =>
    refine ⟨fun same => Or.inr ⟨value, rfl, same⟩, ?_⟩
    rintro (same | ⟨other, made, failed⟩)
    · cases same
    · cases made
      exact failed

theorem mapError_error_iff {OtherRefusal : Type} {first : Except Refusal First}
    {convert : Refusal → OtherRefusal} {refusal : OtherRefusal} :
    first.mapError convert = .error refusal ↔
      ∃ failure, first = .error failure ∧ convert failure = refusal := by
  cases first with
  | error failure =>
    refine ⟨fun same => ⟨failure, rfl, Except.error.inj same⟩, ?_⟩
    rintro ⟨_, same, rfl⟩
    cases same
    rfl
  | ok value =>
    refine ⟨nofun, ?_⟩
    rintro ⟨_, same, -⟩
    cases same

end

namespace JobProviders

open Url Text SearchProfiles

/-! ### Joining addresses -/

/-- `_splitparams`: a path, and what follows the first semicolon of its last segment. -/
def splitParams (path : List Char) : List Char × List Char :=
  let (folder, rooted, last) := rpartition '/' path
  let (name, _, params) := partition ';' last
  (folder ++ (if rooted then ['/'] else []) ++ name, params)

/-- `urlparse(text, scheme)` of an https address: its parts, and its parameters. -/
def urlparse [TextTables] (text scheme : String) : Except String (SplitResult × List Char) := do
  let parsed ← urlsplitText text
  let (path, params) := splitParams parsed.path
  return ({ parsed with scheme := Text.orElse parsed.scheme scheme, path := path }, params)

/-- `urlunparse`, for a network location that is not empty. -/
def urlunparse (parsed : SplitResult) (params : List Char) : String :=
  { parsed with path := parsed.path ++ marked ';' params }.geturl

/-- The empty segments that are left out of a joined path: all but the first and the last. -/
def withoutEmpty : List (List Char) → List (List Char)
  | [] => []
  | first :: rest =>
    first :: rest.dropLast.filter (fun segment => segment ≠ []) ++ rest.getLast?.toList

/-- One segment of a joined path; the kept segments are newest first. -/
def resolveSegment (kept : List (List Char)) (segment : List Char) : List (List Char) :=
  if segment = ['.', '.'] then kept.tail
  else if segment = ['.'] then kept
  else segment :: kept

/-- The path that `urljoin` makes of the path of a base and another. -/
def joinPaths (base path : List Char) : List Char :=
  let folders := base.splitOn '/'
  let folders := if folders.getLast? = some [] then folders else folders.dropLast
  let segments :=
    if path.head? = some '/' then path.splitOn '/'
    else withoutEmpty (folders ++ path.splitOn '/')
  let resolved := (segments.foldl resolveSegment []).reverse
  let resolved :=
    if segments.getLast? ∈ [some ['.'], some ['.', '.']] then resolved ++ [[]] else resolved
  let joined := ['/'].intercalate resolved
  if joined = [] then ['/'] else joined

/-- `urljoin(base, url)`, for a base that is an https address. -/
def urljoin [TextTables] (base url : String) : Except String String :=
  if base = "" then .ok url
  else if url = "" then .ok base
  else do
    let (base, baseParams) ← urlparse base ""
    let (parsed, params) ← urlparse url base.scheme
    return if parsed.scheme ≠ base.scheme then url
      else if parsed.netloc ≠ [] then urlunparse parsed params
      else if parsed.path = [] ∧ params = [] then
        let query := if parsed.query = [] then base.query else parsed.query
        urlunparse { parsed with netloc := base.netloc, path := base.path, query } baseParams
      else
        let path := joinPaths base.path parsed.path
        urlunparse { parsed with netloc := base.netloc, path } params

/-! ### Listings -/

/-- What `_parse_json` and `_parse_html` raise. -/
inductive ParseFailure
  /-- `ResponseParseError`. -/
  | response
  /-- A `ValueError` of `urljoin` or `urlsplit`. -/
  | value
  /-- An `AssertionError` of the HTML tokenizer. -/
  | assertion
  deriving DecidableEq

/-- What the readers of a reply need of the standard library. -/
class ReplyTables where
  /-- `str.upper()`. -/
  upper : String → String
  /-- `datetime.fromisoformat(text)`, or nothing on a `ValueError`. -/
  fromIsoformat : String → Option String
  /-- The tokens that `HTMLParser` makes of a text. -/
  tokens : String → List HtmlToken
  /-- Does it stop behind them, with an `AssertionError`? -/
  asserts : String → Bool

section

variable [TransportTables] [TagTables] [DecimalDigits] [ReplyTables]

/-- `_safe_url`. -/
def safeUrl (value baseUrl : String) : Except ParseFailure (Option String) :=
  if value = "" then .ok none
  else do
    let candidate ← (urljoin (baseUrl ++ "/") value).mapError fun _ => .value
    let parsed ← (urlsplitText candidate).mapError fun _ => .value
    return if parsed.scheme ≠ "https" ∨ parsed.hostname.getD "" = "" ∨
        parsed.hasCredentials = true ∨ 2048 < candidate.length then none
      else
        match validateDestinationLiteral candidate with
        | .ok _ => some candidate
        | .error _ => none

/-- `_parse_datetime`. -/
def parseDatetime (value : String) : Option String :=
  if value = "" then none
  else ReplyTables.fromIsoformat (String.ofList (replaceAll "Z" "+00:00" value.toList))

/-- The address for applications, where one that is refused is left out. -/
def applicationEmail (value : String) : Option String :=
  match normalizeApplicationEmail (some value) with
  | .ok email => email
  | .error _ => none

/-- A field of an item, if its configuration maps it. -/
def fieldText (fields : Dict String String) (name : String) : String :=
  (Dict.lookup name fields).getD ""

/-- `_listing`: no listing without an identifier and a title. -/
def listing (configuration : ProviderConfiguration) (language : String)
    (fields : Dict String String) : Except ParseFailure (Option JobListing) :=
  let identifier := slice (fieldText fields "id") 500
  let title := slice (fieldText fields "title") 500
  if identifier = "" ∨ title = "" then .ok none
  else do
    let company := slice (fieldText fields "company") 500
    let location := slice (fieldText fields "location") 500
    let country := slice ((Dict.lookup "country_code" fields).getD "CH") 3
    let workloadMin := boundedInt ((Dict.lookup "workload_min" fields).getD "100") 100 0 100
    let applicationUrl ← safeUrl (fieldText fields "application_url") configuration.baseUrl
    let externalUrl ← safeUrl (fieldText fields "url") configuration.baseUrl
    return some {
      id := identifier
      source := configuration.key
      title
      language
      description := slice (fieldText fields "description") 20000
      externalUrl
      company := if company = "" then none else some company
      location :=
        if location = "" then none
        else some (location, orElse (ReplyTables.upper country) "CH")
      employment := {
        isPermanent := true
        workloadMin
        workloadMax :=
          boundedInt ((Dict.lookup "workload_max" fields).getD "100") 100 workloadMin 100
        workForms := [] }
      applicationEmail := applicationEmail (slice (fieldText fields "application_email") 320)
      applicationUrl
      createdAt := parseDatetime (fieldText fields "posted_at") }

/-! ### Items -/

/-- `_mapped_json`. -/
def mappedJson (item : Json) (mapping : ProviderFieldMapping) : String :=
  match jsonValue item mapping.source with
  | .null => safeText (defaultValue mapping.default)
  | value => safeText value

/-- `_mapped_html`. -/
def mappedHtml (item : HtmlNode) (mapping : ProviderFieldMapping) : Except String String := do
  let found ← selectOne item mapping.source
  match found, mapping.attributeName with
  | none, _ => return safeText (defaultValue mapping.default)
  | some node, some name =>
    return safeText (match Dict.lookup (TagTables.casefold name) node.attrs with
      | some value => .str value
      | none => defaultValue mapping.default)
  | some node, none =>
    let text ← textContent node
    return orElse text (safeText (defaultValue mapping.default))

/-- The fields of an item of a JSON reply, which has to be an object. -/
def jsonFields (configuration : ProviderConfiguration) (item : Json) :
    Except ParseFailure (Dict String String) :=
  match item with
  | .obj _ => .ok (configuration.extraction.fields.map fun field =>
      (field.1, mappedJson item field.2))
  | _ => .error .response

/-- The fields of an item of an HTML reply. -/
def htmlFields (configuration : ProviderConfiguration) (item : HtmlNode) :
    Except ParseFailure (Dict String String) :=
  (configuration.extraction.fields.mapM fun field =>
    (mappedHtml item field.2).map fun text => (field.1, text)).mapError fun _ => .response

/-- The loop of `_parse_json` and `_parse_html` over the items of a reply. -/
def readListings {Item : Type} (configuration : ProviderConfiguration) (language : String)
    (fieldsOf : Item → Except ParseFailure (Dict String String)) :
    List Item → Except ParseFailure (List JobListing)
  | [] => .ok []
  | item :: rest => do
    let fields ← fieldsOf item
    let found ← listing configuration language fields
    let others ← readListings configuration language fieldsOf rest
    return found.toList ++ others

/-! ### Replies -/

/-- `_parse_json`. -/
def parseJson (configuration : ProviderConfiguration) (reply : ProviderReply)
    (request : JobSearchRequest) : Except ParseFailure (List JobListing × Option Nat) :=
  match reply.payload.map fun payload =>
      jsonValue payload (configuration.extraction.itemsPath.getD "$") with
  | some (.arr items) =>
    if maxParsedItems < items.length then .error .response
    else do
      let listings ← readListings configuration request.language (jsonFields configuration)
        (items.take request.pageSize.toNat)
      match declaredTotal configuration reply with
      | some total => return (listings, total)
      | none => throw .response
  | _ => .error .response

/-- `parse_html` of a text: the tokenizer calls the tree while it reads. -/
def parseHtmlText (text : String) : Except ParseFailure HtmlNode := do
  let root ← (parseHtml (ReplyTables.tokens text)).mapError fun _ => .response
  if ReplyTables.asserts text then throw .assertion else return root

/-- `_parse_html`. -/
def parseHtmlReply (configuration : ProviderConfiguration) (reply : ProviderReply)
    (request : JobSearchRequest) : Except ParseFailure (List JobListing × Option Nat) := do
  let document ← parseHtmlText reply.text
  let items ← (selectAll document (configuration.extraction.itemSelector.getD "")
    (maxParsedItems + 1)).mapError fun _ => .response
  refuseWhen (maxParsedItems < items.length) .response
  let listings ← readListings configuration request.language (htmlFields configuration)
    (items.take request.pageSize.toNat)
  return (listings, none)

/-! ### What is right of a listing -/

/-- The host of an address, as `validate_destination_literal` judges it. -/
def judgedHost (parsed : SplitResult) : String :=
  TransportTables.casefold (String.ofList
    ((parsed.hostname.getD "").toList.rdropWhile fun letter => letter == '.'))

/-- The parts of a public https address without credentials. -/
structure PublicHttps (parsed : SplitResult) : Prop where
  scheme : parsed.scheme = "https"
  noCredentials : parsed.hasCredentials = false
  port : parsed.port = .ok none ∨ parsed.port = .ok (some 443)
  host : judgedHost parsed ≠ "" ∧ judgedHost parsed ≠ "localhost"
  notLocal : ¬".localhost".toList <:+ (judgedHost parsed).toList ∧
    ¬".local".toList <:+ (judgedHost parsed).toList
  address : (TransportTables.ipAddress (judgedHost parsed)).isSome = true →
    publicAddress (judgedHost parsed) = true

/-- A public https address without credentials, of bounded length. -/
def PublicUrl (url : String) : Prop :=
  url.length ≤ 2048 ∧ ∃ parsed, urlsplitText url = .ok parsed ∧ PublicHttps parsed

/-- A listing as it is to be. -/
structure GoodListing (listing : JobListing) : Prop where
  id : listing.id ≠ "" ∧ listing.id.length ≤ 500
  title : listing.title ≠ "" ∧ listing.title.length ≤ 500
  workload : 0 ≤ listing.employment.workloadMin ∧
    listing.employment.workloadMin ≤ listing.employment.workloadMax ∧
    listing.employment.workloadMax ≤ 100
  externalUrl : ∀ url, listing.externalUrl = some url → PublicUrl url
  applicationUrl : ∀ url, listing.applicationUrl = some url → PublicUrl url

/-- Listings as they are to be read of the items of a reply: so many at most, each of them good,
and in the order of the items they are made of. -/
structure WellRead {Item : Type} (fieldsOf : Item → Except ParseFailure (Dict String String))
    (items : List Item) (count : Nat) (listings : List JobListing) : Prop where
  atMost : listings.length ≤ count
  good : ∀ listing ∈ listings, GoodListing listing
  inOrder : ∃ kept, kept.Sublist items ∧ List.Forall₂ (fun item listing => ∃ fields,
    fieldsOf item = .ok fields ∧ listing.id = slice (fieldText fields "id") 500 ∧
      listing.title = slice (fieldText fields "title") 500) kept listings

/-- Is a reply read as it is to be, or refused as a reply that cannot be read? -/
def Disciplined (wellRead : List JobListing → Prop) :
    Except ParseFailure (List JobListing × Option Nat) → Prop
  | .ok (listings, _) => wellRead listings
  | .error failure => failure = .response

/-- An address of an item can be joined to the origin of its provider and split. -/
def Splits (value baseUrl : String) : Prop :=
  value ≠ "" → ∃ candidate parsed,
    urljoin (baseUrl ++ "/") value = .ok candidate ∧ urlsplitText candidate = .ok parsed

/-- The addresses of an item with an identifier and a title split. -/
def AddressesSplit (configuration : ProviderConfiguration) (fields : Dict String String) : Prop :=
  fieldText fields "id" ≠ "" → fieldText fields "title" ≠ "" →
    Splits (fieldText fields "application_url") configuration.baseUrl ∧
      Splits (fieldText fields "url") configuration.baseUrl

/-- The addresses split of every item up to the first one that cannot be read. -/
def AllSplit {Item : Type} (configuration : ProviderConfiguration)
    (fieldsOf : Item → Except ParseFailure (Dict String String)) (items : List Item) : Prop :=
  ∀ before item after fields, items = before ++ item :: after →
    (∀ earlier ∈ before, ∃ fields, fieldsOf earlier = .ok fields) →
    fieldsOf item = .ok fields → AddressesSplit configuration fields

/-! ### Addresses -/

variable {failure : ParseFailure}

section

omit [TagTables] [DecimalDigits] [ReplyTables]

theorem publicHttps_of_validate {url host : String} {parsed : SplitResult}
    (split : urlsplitText url = .ok parsed) (valid : validateDestinationLiteral url = .ok host) :
    PublicHttps parsed := by
  unfold validateDestinationLiteral at valid
  obtain ⟨same, read, valid⟩ := bind_ok_iff.mp valid
  cases Except.ok.inj (split.symm.trans read)
  obtain ⟨port, readPort, valid⟩ := bind_ok_iff.mp valid
  obtain ⟨⟨⟩, origin, valid⟩ := bind_ok_iff.mp valid
  obtain ⟨⟨⟩, routable, -⟩ := bind_ok_iff.mp valid
  have origin := refuseWhen_ok_iff.mp origin
  have routable := refuseWhen_ok_iff.mp routable
  push Not at origin routable
  obtain ⟨scheme, host, credentials, usual, localhost, notLocalhost, notLocal⟩ := origin
  refine ⟨scheme, Bool.eq_false_iff.mpr credentials, ?_, ⟨host, localhost⟩,
    ⟨notLocalhost, notLocal⟩, fun known => Bool.eq_true_of_not_eq_false (routable known)⟩
  have usual : port = none ∨ port = some 443 := by simpa using usual
  obtain rfl | rfl := usual
  · exact Or.inl readPort
  · exact Or.inr readPort

theorem publicUrl_of_safeUrl {value baseUrl url : String}
    (safe : safeUrl value baseUrl = .ok (some url)) : PublicUrl url := by
  unfold safeUrl at safe
  split_ifs at safe with empty
  · cases safe
  obtain ⟨candidate, -, safe⟩ := bind_ok_iff.mp safe
  obtain ⟨parsed, split, safe⟩ := bind_ok_iff.mp safe
  have split := mapError_ok_iff.mp split
  have safe := pure_ok_iff.mp safe
  split_ifs at safe with refused
  push Not at refused
  cases valid : validateDestinationLiteral candidate with
  | error _ => rw [valid] at safe; cases safe
  | ok host =>
    rw [valid] at safe
    cases Option.some.inj safe
    exact ⟨refused.2.2.2, parsed, split, publicHttps_of_validate split valid⟩

theorem safeUrl_ok_iff {value baseUrl : String} :
    (∃ found, safeUrl value baseUrl = .ok found) ↔ Splits value baseUrl := by
  unfold safeUrl Splits
  split_ifs with empty
  · exact ⟨fun _ some => absurd empty some, fun _ => ⟨none, rfl⟩⟩
  refine ⟨fun ⟨found, safe⟩ _ => ?_, fun splits => ?_⟩
  · obtain ⟨candidate, joined, safe⟩ := bind_ok_iff.mp safe
    obtain ⟨parsed, split, -⟩ := bind_ok_iff.mp safe
    exact ⟨candidate, parsed, mapError_ok_iff.mp joined, mapError_ok_iff.mp split⟩
  · obtain ⟨candidate, parsed, joined, split⟩ := splits empty
    exact ⟨_, bind_ok_iff.mpr ⟨candidate, mapError_ok_iff.mpr joined,
      bind_ok_iff.mpr ⟨parsed, mapError_ok_iff.mpr split, rfl⟩⟩⟩

theorem safeUrl_error {value baseUrl : String}
    (failed : safeUrl value baseUrl = .error failure) : failure = .value := by
  unfold safeUrl at failed
  split_ifs at failed
  obtain joined | ⟨candidate, -, failed⟩ := bind_error_iff.mp failed
  · obtain ⟨_, -, same⟩ := mapError_error_iff.mp joined
    exact same.symm
  obtain split | ⟨parsed, -, failed⟩ := bind_error_iff.mp failed
  · obtain ⟨_, -, same⟩ := mapError_error_iff.mp split
    exact same.symm
  · cases failed

end

/-! ### Listings of items -/

omit [TransportTables] [TagTables] [ReplyTables] in
theorem boundedInt_bounds (value : String) {default least greatest : Int}
    (low : least ≤ default) (high : default ≤ greatest) :
    least ≤ boundedInt value default least greatest ∧
      boundedInt value default least greatest ≤ greatest := by
  unfold boundedInt
  split
  · omega
  · exact ⟨low, high⟩

omit [TransportTables] [TagTables] [DecimalDigits] [ReplyTables] in
theorem length_slice_le (text : String) (count : Nat) : (slice text count).length ≤ count := by
  unfold slice
  rw [String.length_ofList, List.length_take]
  exact Nat.min_le_left _ _

omit [TransportTables] [TagTables] [DecimalDigits] [ReplyTables] in
theorem slice_eq_empty_iff {text : String} {count : Nat} (some : count ≠ 0) :
    slice text count = "" ↔ text = "" := by
  unfold slice
  rw [← String.toList_inj, String.toList_ofList, ← String.toList_inj]
  exact List.take_eq_nil_iff.trans ⟨fun nothing => nothing.resolve_left some, Or.inr⟩

variable {configuration : ProviderConfiguration} {language : String} {fields : Dict String String}

omit [TagTables] in
theorem good_of_listing {made : JobListing}
    (read : listing configuration language fields = .ok (some made)) :
    GoodListing made ∧ made.id = slice (fieldText fields "id") 500 ∧
      made.title = slice (fieldText fields "title") 500 := by
  unfold listing at read
  dsimp only at read
  by_cases empty : slice (fieldText fields "id") 500 = "" ∨
      slice (fieldText fields "title") 500 = ""
  · rw [if_pos empty] at read
    cases read
  rw [if_neg empty] at read
  push Not at empty
  obtain ⟨applicationUrl, application, read⟩ := bind_ok_iff.mp read
  obtain ⟨externalUrl, external, read⟩ := bind_ok_iff.mp read
  cases pure_ok_iff.mp read
  have least := boundedInt_bounds ((Dict.lookup "workload_min" fields).getD "100")
    (show (0 : Int) ≤ 100 by decide) (le_refl 100)
  have greatest := boundedInt_bounds ((Dict.lookup "workload_max" fields).getD "100")
    least.2 (le_refl 100)
  refine ⟨⟨⟨empty.1, length_slice_le _ _⟩, ⟨empty.2, length_slice_le _ _⟩,
    ⟨least.1, greatest⟩, ?_, ?_⟩, rfl, rfl⟩
  · intro url same
    exact publicUrl_of_safeUrl (external.trans (congrArg Except.ok same))
  · intro url same
    exact publicUrl_of_safeUrl (application.trans (congrArg Except.ok same))

omit [TagTables] in
theorem listing_ok_iff :
    (∃ found, listing configuration language fields = .ok found) ↔
      AddressesSplit configuration fields := by
  have sliced : ∀ name, slice (fieldText fields name) 500 = "" ↔ fieldText fields name = "" :=
    fun name => slice_eq_empty_iff (by decide)
  unfold listing AddressesSplit
  dsimp only
  by_cases empty : slice (fieldText fields "id") 500 = "" ∨
      slice (fieldText fields "title") 500 = ""
  · rw [if_pos empty]
    refine ⟨fun _ some title => ?_, fun _ => ⟨none, rfl⟩⟩
    obtain nothing | nothing := empty
    · exact absurd ((sliced "id").mp nothing) some
    · exact absurd ((sliced "title").mp nothing) title
  rw [if_neg empty]
  push Not at empty
  refine ⟨fun ⟨found, read⟩ _ _ => ?_, fun splits => ?_⟩
  · obtain ⟨applicationUrl, application, read⟩ := bind_ok_iff.mp read
    obtain ⟨externalUrl, external, -⟩ := bind_ok_iff.mp read
    exact ⟨safeUrl_ok_iff.mp ⟨_, application⟩, safeUrl_ok_iff.mp ⟨_, external⟩⟩
  · obtain ⟨application, external⟩ := splits (mt (sliced "id").mpr empty.1)
      (mt (sliced "title").mpr empty.2)
    obtain ⟨applicationUrl, application⟩ := safeUrl_ok_iff.mpr application
    obtain ⟨externalUrl, external⟩ := safeUrl_ok_iff.mpr external
    exact ⟨_, bind_ok_iff.mpr ⟨applicationUrl, application,
      bind_ok_iff.mpr ⟨externalUrl, external, rfl⟩⟩⟩

omit [TagTables] in
theorem listing_error
    (failed : listing configuration language fields = .error failure) : failure = .value := by
  unfold listing at failed
  dsimp only at failed
  by_cases empty : slice (fieldText fields "id") 500 = "" ∨
      slice (fieldText fields "title") 500 = ""
  · rw [if_pos empty] at failed
    cases failed
  rw [if_neg empty] at failed
  obtain application | ⟨applicationUrl, -, failed⟩ := bind_error_iff.mp failed
  · exact safeUrl_error application
  obtain external | ⟨externalUrl, -, failed⟩ := bind_error_iff.mp failed
  · exact safeUrl_error external
  · cases failed

section

variable {Item : Type} {configuration : ProviderConfiguration} {language : String}
  {fieldsOf : Item → Except ParseFailure (Dict String String)}

omit [TagTables] [DecimalDigits] [ReplyTables] in
theorem allSplit_cons {item : Item} {rest : List Item} :
    AllSplit configuration fieldsOf (item :: rest) ↔
      ∀ fields, fieldsOf item = .ok fields →
        AddressesSplit configuration fields ∧ AllSplit configuration fieldsOf rest := by
  constructor
  · intro all fields read
    refine ⟨all [] item rest fields rfl nofun read, fun before next after found same earlier => ?_⟩
    refine all (item :: before) next after found (congrArg (item :: ·) same) fun other member => ?_
    obtain rfl | member := List.mem_cons.mp member
    · exact ⟨fields, read⟩
    · exact earlier other member
  · intro all before next after found same earlier read
    cases before with
    | nil =>
      obtain ⟨rfl, rfl⟩ := List.cons.inj same
      exact (all found read).1
    | cons first before =>
      obtain ⟨rfl, rfl⟩ := List.cons.inj same
      obtain ⟨fields, readFirst⟩ := earlier item List.mem_cons_self
      exact (all fields readFirst).2 before next after found rfl
        (fun other member => earlier other (List.mem_cons_of_mem _ member)) read

omit [TagTables] in
theorem wellRead_readListings {items : List Item} {listings : List JobListing}
    (read : readListings configuration language fieldsOf items = .ok listings) :
    WellRead fieldsOf items items.length listings := by
  induction items generalizing listings with
  | nil =>
    cases read
    exact ⟨le_refl _, nofun, [], List.Sublist.refl _, .nil⟩
  | cons item rest inductionHypothesis =>
    obtain ⟨fields, mapped, read⟩ := bind_ok_iff.mp read
    obtain ⟨found, made, read⟩ := bind_ok_iff.mp read
    obtain ⟨others, readRest, read⟩ := bind_ok_iff.mp read
    cases pure_ok_iff.mp read
    obtain ⟨atMost, good, kept, sublist, order⟩ := inductionHypothesis readRest
    cases found with
    | none =>
      exact ⟨Nat.le_succ_of_le atMost, good, kept, sublist.cons item, order⟩
    | some made' =>
      obtain ⟨goodOne, id, title⟩ := good_of_listing made
      refine ⟨Nat.succ_le_succ atMost, fun other member => ?_, item :: kept, sublist.cons_cons item,
        .cons ⟨fields, mapped, id, title⟩ order⟩
      obtain rfl | member := List.mem_cons.mp member
      · exact goodOne
      · exact good other member

omit [TagTables] in
theorem readListings_error
    (plain : ∀ item failure, fieldsOf item = .error failure → failure = .response)
    {items : List Item}
    (failed : readListings configuration language fieldsOf items = .error failure) :
    failure = .response ∨ failure = .value := by
  induction items with
  | nil => cases failed
  | cons item rest inductionHypothesis =>
    obtain unread | ⟨fields, -, failed⟩ := bind_error_iff.mp failed
    · exact Or.inl (plain item failure unread)
    obtain unsplit | ⟨found, -, failed⟩ := bind_error_iff.mp failed
    · exact Or.inr (listing_error unsplit)
    obtain failed | ⟨others, -, failed⟩ := bind_error_iff.mp failed
    · exact inductionHypothesis failed
    · cases failed

omit [TagTables] in
/-- The loop raises a `ValueError` just when an address does not split before an item is met that
cannot be read. -/
theorem readListings_value_iff
    (plain : ∀ item failure, fieldsOf item = .error failure → failure = .response)
    {items : List Item} :
    readListings configuration language fieldsOf items ≠ .error .value ↔
      AllSplit configuration fieldsOf items := by
  induction items with
  | nil =>
    refine ⟨fun _ before item after fields same => ?_, fun _ => nofun⟩
    cases before <;> cases same
  | cons item rest inductionHypothesis =>
    rw [allSplit_cons, ← inductionHypothesis]
    constructor
    · intro fine fields mapped
      have made : ∃ found, listing configuration language fields = .ok found := by
        cases outcome : listing configuration language fields with
        | ok found => exact ⟨found, rfl⟩
        | error failure =>
          cases listing_error outcome
          exact absurd (bind_error_iff.mpr (Or.inr ⟨fields, mapped,
            bind_error_iff.mpr (Or.inl outcome)⟩)) fine
      refine ⟨listing_ok_iff.mp made, fun failed => fine ?_⟩
      obtain ⟨found, made⟩ := made
      exact bind_error_iff.mpr (Or.inr ⟨fields, mapped,
        bind_error_iff.mpr (Or.inr ⟨found, made, bind_error_iff.mpr (Or.inl failed)⟩)⟩)
    · intro fine failed
      obtain unread | ⟨fields, mapped, failed⟩ := bind_error_iff.mp failed
      · cases plain item _ unread
      obtain ⟨splits, fineRest⟩ := fine fields mapped
      obtain ⟨found, made⟩ := listing_ok_iff.mpr splits
      obtain unsplit | ⟨other, -, failed⟩ := bind_error_iff.mp failed
      · cases made.symm.trans unsplit
      obtain failed | ⟨others, -, failed⟩ := bind_error_iff.mp failed
      · exact fineRest failed
      · cases failed

end

/-! ### Replies as they are to be read -/

/-- The items of a JSON reply. -/
def IsJsonItems (configuration : ProviderConfiguration) (reply : ProviderReply)
    (items : List Json) : Prop :=
  reply.payload.map (fun payload =>
    jsonValue payload (configuration.extraction.itemsPath.getD "$")) = some (.arr items)

/-- The items of an HTML reply. -/
def IsHtmlItems (configuration : ProviderConfiguration) (reply : ProviderReply)
    (items : List HtmlNode) : Prop :=
  ∃ document, parseHtml (ReplyTables.tokens reply.text) = .ok document ∧
    selectAll document (configuration.extraction.itemSelector.getD "") (maxParsedItems + 1) =
      .ok items

/-- A JSON reply is read as it is to be, or refused as one that cannot be read. -/
def JsonDisciplined (configuration : ProviderConfiguration) (reply : ProviderReply)
    (request : JobSearchRequest) : Prop :=
  Disciplined (fun listings => ∃ items, IsJsonItems configuration reply items ∧
    WellRead (jsonFields configuration) items request.pageSize.toNat listings)
    (parseJson configuration reply request)

/-- An HTML reply is read as it is to be, or refused as one that cannot be read. -/
def HtmlDisciplined (configuration : ProviderConfiguration) (reply : ProviderReply)
    (request : JobSearchRequest) : Prop :=
  Disciplined (fun listings => ∃ items, IsHtmlItems configuration reply items ∧
    WellRead (htmlFields configuration) items request.pageSize.toNat listings)
    (parseHtmlReply configuration reply request)

/-- The addresses split of the items of a JSON reply that are read. -/
def JsonSplits (configuration : ProviderConfiguration) (reply : ProviderReply)
    (request : JobSearchRequest) : Prop :=
  ∀ items, IsJsonItems configuration reply items → items.length ≤ maxParsedItems →
    AllSplit configuration (jsonFields configuration) (items.take request.pageSize.toNat)

/-- The tokenizer reads to the end of an HTML reply unless the tree is refused before, and the
addresses split of the items that are read. -/
structure HtmlSplits (configuration : ProviderConfiguration) (reply : ProviderReply)
    (request : JobSearchRequest) : Prop where
  tokenized : (∃ document, parseHtml (ReplyTables.tokens reply.text) = .ok document) →
    ReplyTables.asserts reply.text = false
  split : ∀ items, IsHtmlItems configuration reply items → items.length ≤ maxParsedItems →
    AllSplit configuration (htmlFields configuration) (items.take request.pageSize.toNat)

omit [TagTables] in
/-- The listings of a page are those of the items the page is cut from. -/
theorem wellRead_page {Item : Type}
    {fieldsOf : Item → Except ParseFailure (Dict String String)} {items : List Item}
    {count : Nat} {listings : List JobListing}
    (read : readListings configuration language fieldsOf (items.take count) = .ok listings) :
    WellRead fieldsOf items count listings := by
  obtain ⟨atMost, good, kept, sublist, order⟩ := wellRead_readListings read
  exact ⟨atMost.trans (List.length_take_le _ _), good, kept,
    sublist.trans (List.take_sublist _ _), order⟩

omit [TransportTables] [TagTables] [DecimalDigits] [ReplyTables] in
theorem jsonFields_error (item : Json)
    (failure : ParseFailure) (failed : jsonFields configuration item = .error failure) :
    failure = .response := by
  cases item <;> first | exact (Except.error.inj failed).symm | cases failed

omit [TransportTables] [DecimalDigits] [ReplyTables] in
theorem htmlFields_error (item : HtmlNode)
    (failure : ParseFailure) (failed : htmlFields configuration item = .error failure) :
    failure = .response := by
  obtain ⟨_, -, same⟩ := mapError_error_iff.mp failed
  exact same.symm

omit [TagTables] in
/-- Where what follows the loop over the items keeps the listings or refuses the reply, a page is
read as it is to be just when the addresses of its items split. -/
theorem disciplined_readListings {Item : Type}
    {fieldsOf : Item → Except ParseFailure (Dict String String)}
    (plain : ∀ item failure, fieldsOf item = .error failure → failure = .response)
    {items : List Item} {wellRead : List JobListing → Prop}
    {finish : List JobListing → Except ParseFailure (List JobListing × Option Nat)}
    (refuses : ∀ listings failure, finish listings = .error failure → failure = .response)
    (keeps : ∀ listings read, finish listings = .ok read → read.1 = listings)
    (right : ∀ listings, readListings configuration language fieldsOf items = .ok listings →
      wellRead listings) :
    Disciplined wellRead (readListings configuration language fieldsOf items >>= finish) ↔
      AllSplit configuration fieldsOf items := by
  have fine : readListings configuration language fieldsOf items ≠ .error .value ↔
      AllSplit configuration fieldsOf items := readListings_value_iff plain
  rw [← fine]
  cases outcome : readListings configuration language fieldsOf items with
  | error failure =>
    obtain rfl | rfl := readListings_error plain outcome
    · exact ⟨fun _ => nofun, fun _ => rfl⟩
    · exact ⟨nofun, fun fine => absurd rfl fine⟩
  | ok listings =>
    refine ⟨fun _ => nofun, fun _ => ?_⟩
    change Disciplined wellRead (finish listings)
    cases finished : finish listings with
    | error failure => exact refuses listings failure finished
    | ok read =>
      obtain ⟨kept, total⟩ := read
      cases keeps listings (kept, total) finished
      exact right kept outcome

omit [TagTables] in
theorem jsonDisciplined_iff (configuration : ProviderConfiguration) (reply : ProviderReply)
    (request : JobSearchRequest) : JsonDisciplined configuration reply request ↔
      JsonSplits configuration reply request := by
  unfold JsonDisciplined JsonSplits parseJson IsJsonItems
  split
  case h_2 other => exact ⟨fun _ items found => absurd found (other items), fun _ => rfl⟩
  case h_1 items found =>
    have only : ∀ others, IsJsonItems configuration reply others → others = items :=
      fun others same => Json.arr.inj (Option.some.inj (same.symm.trans found))
    split_ifs with tooMany
    · refine ⟨fun _ others same few => ?_, fun _ => rfl⟩
      cases only others same
      exact absurd few (not_le.mpr tooMany)
    refine (disciplined_readListings jsonFields_error ?_ ?_ fun listings read =>
      ⟨items, found, wellRead_page read⟩).trans ⟨fun splits others same _ => ?_, fun splits =>
        splits items found (not_lt.mp tooMany)⟩
    · intro listings failure failed
      cases declared : declaredTotal configuration reply with
      | none => rw [declared] at failed; exact (Except.error.inj failed).symm
      | some total => rw [declared] at failed; cases failed
    · intro listings read finished
      cases declared : declaredTotal configuration reply with
      | none => rw [declared] at finished; cases finished
      | some total => rw [declared] at finished; cases finished; rfl
    · cases only others same
      exact splits

theorem htmlDisciplined_iff (configuration : ProviderConfiguration) (reply : ProviderReply)
    (request : JobSearchRequest) : HtmlDisciplined configuration reply request ↔
      HtmlSplits configuration reply request := by
  unfold HtmlDisciplined parseHtmlReply parseHtmlText
  cases parsed : parseHtml (ReplyTables.tokens reply.text) with
  | error failure =>
    refine ⟨fun _ => ⟨fun ⟨_, built⟩ => ?_, fun items ⟨_, built, _⟩ => ?_⟩, fun _ => rfl⟩ <;>
      cases parsed.symm.trans built
  | ok document =>
    cases asserted : ReplyTables.asserts reply.text with
    | true =>
      exact ⟨nofun, fun splits => nomatch asserted.symm.trans (splits.tokenized ⟨_, parsed⟩)⟩
    | false =>
      have only : ∀ others, IsHtmlItems configuration reply others →
          selectAll document (configuration.extraction.itemSelector.getD "")
            (maxParsedItems + 1) = .ok others := by
        intro others ⟨other, built, selected⟩
        cases Except.ok.inj (parsed.symm.trans built)
        exact selected
      change Disciplined _ ((selectAll document (configuration.extraction.itemSelector.getD "")
        (maxParsedItems + 1)).mapError _ >>= _) ↔ _
      cases selected : selectAll document (configuration.extraction.itemSelector.getD "")
          (maxParsedItems + 1) with
      | error failure =>
        refine ⟨fun _ => ⟨fun _ => asserted, fun items found => ?_⟩, fun _ => rfl⟩
        cases selected.symm.trans (only items found)
      | ok items =>
        have found : IsHtmlItems configuration reply items := ⟨document, parsed, selected⟩
        change Disciplined _ (refuseWhen (maxParsedItems < items.length) _ >>= _) ↔ _
        unfold refuseWhen
        split_ifs with tooMany
        · refine ⟨fun _ => ⟨fun _ => asserted, fun others same few => ?_⟩, fun _ => rfl⟩
          cases Except.ok.inj (selected.symm.trans (only others same))
          exact absurd few (not_le.mpr tooMany)
        change Disciplined _ (readListings configuration request.language
          (htmlFields configuration) (items.take request.pageSize.toNat) >>= fun listings =>
            .ok (listings, none)) ↔ _
        refine (disciplined_readListings htmlFields_error ?_ ?_ fun listings read =>
          ⟨items, found, wellRead_page read⟩).trans ⟨fun splits => ⟨fun _ => asserted,
            fun others same _ => ?_⟩, fun splits => splits.split items found (not_lt.mp tooMany)⟩
        · intro listings failure failed
          cases failed
        · intro listings read finished
          cases finished
          rfl
        · cases Except.ok.inj (selected.symm.trans (only others same))
          exact splits

/-- A reply is read as it is to be, or refused as one that cannot be read, just when the
tokenizer does not stop on it and the addresses of the items that are read split. -/
theorem parsing_disciplined_iff (configuration : ProviderConfiguration) (reply : ProviderReply)
    (request : JobSearchRequest) :
    (JsonDisciplined configuration reply request ↔ JsonSplits configuration reply request) ∧
      (HtmlDisciplined configuration reply request ↔ HtmlSplits configuration reply request) :=
  ⟨jsonDisciplined_iff configuration reply request, htmlDisciplined_iff configuration reply request⟩

end

section

/-- The tables on ASCII, of documents without tags. -/
@[reducible] def ReplyTables.plain : ReplyTables where
  upper text := String.ofList (text.toList.map Char.toUpper)
  fromIsoformat _ := none
  tokens text := [.data text]
  asserts _ := false

attribute [local instance] TransportTables.plain TagTables.ascii DecimalDigits.ascii
  ReplyTables.plain

/-- A provider of JSON whose jobs have an identifier, a title and an address. -/
def jobList : ProviderConfiguration where
  key := "list"
  baseUrl := "https://list.example"
  adapterKind := .json
  maxPages := 2
  maxPages_bounds := by decide
  pageSize := 20
  pageSize_bounds := by decide
  extraction := {
    itemsPath := some "jobs"
    itemSelector := none
    totalPath := none
    fields := [("id", ⟨"id", none, none⟩), ("title", ⟨"title", none, none⟩),
      ("url", ⟨"url", none, none⟩)] }
  html_totalPath := nofun

/-- A reply with one job, at an address. -/
def oneJob (url : String) : ProviderReply where
  payload := some (.obj [("jobs", .arr [.obj
    [("id", .str "1"), ("title", .str "Engineer"), ("url", .str url)]])])
  text := ""

example : (parseJson jobList (oneJob "/jobs/1") (searchFor "")).map (fun read =>
    read.1.map JobListing.externalUrl) = .ok [some "https://list.example/jobs/1"] := by
  decide +kernel

/-- One job at an address with an open bracket fails the reply, and not as a reply that cannot be
read. -/
theorem openBracket_not_disciplined :
    parseJson jobList (oneJob "https://[") (searchFor "") = .error .value ∧
      ¬JsonDisciplined jobList (oneJob "https://[") (searchFor "") := by
  have failed : (parseJson jobList (oneJob "https://[") (searchFor "")).map (fun _ => ()) =
      .error .value := by decide +kernel
  have failed : parseJson jobList (oneJob "https://[") (searchFor "") = .error .value := by
    cases outcome : parseJson jobList (oneJob "https://[") (searchFor "") with
    | error failure => rw [outcome] at failed; exact congrArg Except.error (Except.error.inj failed)
    | ok read => rw [outcome] at failed; cases failed
  refine ⟨failed, fun disciplined => ?_⟩
  unfold JsonDisciplined at disciplined
  rw [failed] at disciplined
  cases disciplined

end

end JobProviders

end CareerOS
