/-
This file is the search of a page of listings, by a provider that is configured as
data and by the Adecco provider. The first reads what its configuration says of a
JSON or HTML reply, and declares a total where the reply has one; the second fetches
the details of each listing, filters them as the request asks, and takes what the
filters drop off the total that the reply declares.
-/

import CareerOS.Services.SearchRequests

namespace CareerOS

namespace JobProviders

open Text

/-- Why a page is not served. -/
inductive ProviderFailure
  /-- The request is not answered. -/
  | request
  /-- The reply cannot be read. -/
  | response
  deriving DecidableEq

/-- `JobSearchResponse`, without its request. -/
structure JobSearchResponse (Listing : Type) where
  items : List Listing
  totalCount : Int
  page : Nat
  pageSize : Nat
  totalPages : Int
  source : String

/-- `EmploymentDetails`, as far as the providers fill it. -/
structure EmploymentDetails where
  isPermanent : Bool
  workloadMin : Int
  workloadMax : Int
  workForms : List String

/-! ### Providers that are configured -/

/-- `ProviderFieldMapping`. -/
structure ProviderFieldMapping where
  source : String
  attributeName : Option String
  default : Option String

/-- `ProviderExtractionConfig`. -/
structure ProviderExtraction where
  itemsPath : Option String
  itemSelector : Option String
  totalPath : Option String
  fields : Dict String ProviderFieldMapping

/-- The kinds of a provider that is configured. -/
inductive AdapterKind
  | json
  | html
  deriving DecidableEq

/-- `ProviderConfigurationInput`, as far as a search depends on it. -/
structure ProviderConfiguration where
  key : String
  baseUrl : String
  adapterKind : AdapterKind
  maxPages : Nat
  maxPages_bounds : 1 ≤ maxPages ∧ maxPages ≤ 20
  pageSize : Nat
  pageSize_bounds : 1 ≤ pageSize ∧ pageSize ≤ 100
  extraction : ProviderExtraction
  html_totalPath : adapterKind = .html → extraction.totalPath = none

/-- `JobListing`, as a configured provider fills it. -/
structure JobListing where
  id : String
  source : String
  title : String
  language : String
  description : String
  externalUrl : Option String
  company : Option String
  location : Option (String × String)
  employment : EmploymentDetails
  applicationEmail : Option String
  applicationUrl : Option String
  createdAt : Option String

/-- The reply of a provider: its body as strict JSON, if it is, and as text. -/
structure ProviderReply where
  payload : Option Json
  text : String

/-- The HTML selectors; nothing is an `HtmlExtractionError`. -/
class HtmlReader (Node : Type) where
  /-- `select_all` of a parsed document, at most so many. -/
  selectAll : String → String → Nat → Option (List Node)
  selectOne : Node → String → Option (Option Node)
  /-- `node.attrs.get(name.casefold())`. -/
  attrs : Node → String → Option String
  textContent : Node → Option String

/-- The readers of the fields of a listing. -/
class ListingTables where
  /-- `_safe_url` under an origin; nothing when an address cannot be split at all. -/
  safeUrl : String → String → Option (Option String)
  /-- `normalize_application_email`, where a value that is refused is none. -/
  applicationEmail : String → Option String
  /-- `_parse_datetime`. -/
  parseDatetime : String → Option String
  upper : String → String

/-- `MAX_PARSED_ITEMS`. -/
def maxParsedItems : Nat := 200

/-- `MAX_TOTAL_COUNT`. -/
def maxTotalCount : Int := 1000000

/-- `_json_value` along the parts of a path. -/
def jsonPart (value : Json) (part : String) : Json :=
  match value with
  | .obj fields => (Dict.lookup part fields).getD .null
  | _ => .null

/-- `_json_value`. -/
def jsonValue (value : Json) (path : String) : Json :=
  let letters := path.toList
  let normalized := if ['$', '.'].isPrefixOf letters then letters.drop 2 else letters
  if normalized = ['$'] then value
  else (normalized.splitOn '.').foldl (fun current part => jsonPart current (String.ofList part)) value

/-- `_safe_text`. -/
def safeText (value : Json) : String :=
  let text := match value with
    | .bool true => "true"
    | .bool false => "false"
    | .str text => text
    | .int number => toString number
    | .float text => text
    | .null | .arr _ | .obj _ => ""
  String.ofList ((joinWords text.toList).take 20000)

/-- A default as a value. -/
def defaultValue : Option String → Json
  | some text => .str text
  | none => .null

/-- An item of a reply. -/
inductive RawItem (Node : Type)
  | json (value : Json)
  | html (node : Node)
  deriving DecidableEq

section

variable {Node : Type} [HtmlReader Node] [ListingTables] [DecimalDigits]

/-- `_mapped_json` and `_mapped_html`. -/
def mappedField (mapping : ProviderFieldMapping) : RawItem Node → Option String
  | .json item =>
    match jsonValue item mapping.source with
    | .null => some (safeText (defaultValue mapping.default))
    | value => some (safeText value)
  | .html item =>
    (HtmlReader.selectOne item mapping.source).bind fun found =>
      match found, mapping.attributeName with
      | none, _ => some (safeText (defaultValue mapping.default))
      | some node, some name =>
        match HtmlReader.attrs node name with
        | some value => some (safeText (.str value))
        | none => some (safeText (defaultValue mapping.default))
      | some node, none => (HtmlReader.textContent node).map fun text =>
        orElse text (safeText (defaultValue mapping.default))

/-- The fields of an item. -/
def mappedFields (item : RawItem Node) : Dict String ProviderFieldMapping →
    Option (Dict String String)
  | [] => some []
  | (name, mapping) :: rest => do
    let text ← mappedField mapping item
    let others ← mappedFields item rest
    return (name, text) :: others

/-- `_bounded_int`. -/
def boundedInt (value : String) (default least greatest : Int) : Int :=
  match pythonInt value with
  | some number => min greatest (max least number)
  | none => default

/-- `_listing`: no listing without an identifier and a title; nothing at all when an address of
the item cannot be split. -/
def listingOf (configuration : ProviderConfiguration) (language : String)
    (fields : Dict String String) : Option (Option JobListing) :=
  let field := fun name => (Dict.lookup name fields).getD ""
  let identifier := slice (field "id") 500
  let title := slice (field "title") 500
  if identifier = "" ∨ title = "" then some none
  else do
    let least := boundedInt ((Dict.lookup "workload_min" fields).getD "100") 100 0 100
    let applicationUrl ← ListingTables.safeUrl (field "application_url") configuration.baseUrl
    let externalUrl ← ListingTables.safeUrl (field "url") configuration.baseUrl
    let company := slice (field "company") 500
    let location := slice (field "location") 500
    let country := (Dict.lookup "country_code" fields).getD "CH"
    return some {
      id := identifier
      source := configuration.key
      title := title
      language := language
      description := slice (field "description") 20000
      externalUrl := externalUrl
      company := if company = "" then none else some company
      location :=
        if location = "" then none
        else some (location, orElse (ListingTables.upper (slice country 3)) "CH")
      employment := {
        isPermanent := true
        workloadMin := least
        workloadMax := boundedInt ((Dict.lookup "workload_max" fields).getD "100") 100 least 100
        workForms := [] }
      applicationEmail := ListingTables.applicationEmail (slice (field "application_email") 320)
      applicationUrl := applicationUrl
      createdAt := ListingTables.parseDatetime (field "posted_at") }

/-- The items of a reply; nothing when it cannot be read. -/
def rawItems (configuration : ProviderConfiguration) (reply : ProviderReply) :
    Option (List (RawItem Node)) :=
  match configuration.adapterKind with
  | .json =>
    match reply.payload.map fun payload =>
        jsonValue payload (configuration.extraction.itemsPath.getD "$") with
    | some (.arr items) =>
      if items.length ≤ maxParsedItems then some (items.map .json) else none
    | _ => none
  | .html =>
    (HtmlReader.selectAll reply.text (configuration.extraction.itemSelector.getD "")
      (maxParsedItems + 1)).bind fun nodes =>
        if nodes.length ≤ maxParsedItems then some (nodes.map .html) else none

/-- The listing of an item, if it has one; nothing when the item cannot be read. -/
def readItem (configuration : ProviderConfiguration) (language : String) (item : RawItem Node) :
    Option (Option JobListing) :=
  match item with
  | .json (.obj fields) =>
    (mappedFields (.json (.obj fields) : RawItem Node) configuration.extraction.fields).bind
      (listingOf configuration language)
  | .json _ => none
  | .html node =>
    (mappedFields (.html node) configuration.extraction.fields).bind
      (listingOf configuration language)

/-- The listings of the items; nothing when one of them cannot be read. -/
def readItems (configuration : ProviderConfiguration) (language : String) :
    List (RawItem Node) → Option (List JobListing)
  | [] => some []
  | item :: rest => do
    let listing ← readItem configuration language item
    let others ← readItems configuration language rest
    return listing.toList ++ others

/-- The total that a reply declares, if it does; nothing when it is no total. -/
def declaredTotal (configuration : ProviderConfiguration) (reply : ProviderReply) :
    Option (Option Nat) :=
  match configuration.extraction.totalPath, reply.payload with
  | some path, some payload =>
    match jsonValue payload path with
    | .null => some none
    | .int total => if 0 ≤ total ∧ total ≤ maxTotalCount then some (some total.toNat) else none
    | _ => none
  | _, _ => some none

variable (Node) in
/-- The `_parse_json` or `_parse_html` of a reply. -/
def parseReply (configuration : ProviderConfiguration) (language : String)
    (reply : ProviderReply) : Option (List JobListing × Option Nat) := do
  let raw : List (RawItem Node) ← rawItems configuration reply
  let listings ← readItems configuration language (raw.take configuration.pageSize)
  let total ← declaredTotal configuration reply
  return (listings, total)

/-- `math.ceil(total / size)`. -/
def pagesFor (total size : Nat) : Nat := (total + size - 1) / size

variable (Node) in
/-- `DeclarativeJobProvider.search`, by the replies of the pages. -/
def declarativeSearch (configuration : ProviderConfiguration) (language : String)
    (replies : Nat → Option ProviderReply) (page : Nat) :
    Except ProviderFailure (JobSearchResponse JobListing) :=
  if configuration.maxPages ≤ page then
    .ok ⟨[], 0, page, configuration.pageSize, configuration.maxPages, configuration.key⟩
  else
    match replies page with
    | none => .error .request
    | some reply =>
      match parseReply Node configuration language reply with
      | none => .error .response
      | some (items, total) =>
        let totalCount : Nat := total.getD (page * configuration.pageSize + items.length)
        let totalPages : Nat := match total with
          | some total => min configuration.maxPages (pagesFor total configuration.pageSize)
          | none =>
            if items.length < configuration.pageSize then page + 1 else configuration.maxPages
        .ok ⟨items, totalCount, page, configuration.pageSize, (max 1 totalPages : Nat),
          configuration.key⟩

end

/-! ### Adecco -/

open SearchProfiles

/-- What the transformer of Adecco reads of a listing besides its identifier and its employment,
and of numbers that are no integers. -/
class AdeccoTables (Rest : Type) where
  /-- The hours of a listing: nothing when they cannot be compared or are no integers, else the
  range that they set, if they set one. -/
  hours : Json → Json → Option (Option (Int × Int))
  /-- The other fields, with the details if there are some; nothing when they are refused. -/
  rest : Dict String Json → Option Json → Option Rest
  /-- A float that is a whole number. -/
  wholeFloat : String → Option Int

/-- `JobListing`, as the Adecco provider fills it. -/
structure AdeccoListing (Rest : Type) where
  id : String
  employment : EmploymentDetails
  rest : Rest

/-- Is a value one that `not value` holds of? -/
def isFalsy : Json → Bool
  | .null | .bool false | .int 0 | .float "0.0" | .float "-0.0" | .str "" | .arr [] | .obj [] =>
    true
  | _ => false

section

variable {Rest : Type} [AdeccoTables Rest] [SettingTables]

variable (Rest) in
/-- The employment of a listing, which its details have no part in. -/
def adeccoEmployment (light : Dict String Json) : Option EmploymentDetails :=
  let field := fun name (default : Json) => (Dict.lookup name light).getD default
  let usual : Int × Int :=
    if field "employmentTypeId" (.str "") = .str "FULLTIME" then (80, 100)
    else if field "employmentTypeId" (.str "") = .str "PARTTIME" then (20, 80)
    else (0, 100)
  (AdeccoTables.hours Rest (field "workMinHours" (.int 0)) (field "workMaxHours" (.int 0))).map
    fun exact =>
      { isPermanent := field "contractTypeId" (.str "") = .str "PERM"
        workloadMin := (exact.getD usual).1
        workloadMax := (exact.getD usual).2
        workForms := if isFalsy (field "isRemote" .null) then [] else ["remote"] }

/-- `transform_job_data`. -/
def transformJobData (light : Dict String Json) (detail : Option Json) :
    Option (AdeccoListing Rest) :=
  let jobId := strip (itemText ((Dict.lookup "jobId" light).getD .null))
  if jobId = "" then none
  else do
    let employment ← adeccoEmployment Rest light
    let rest ← AdeccoTables.rest light detail
    return ⟨jobId, employment, rest⟩

/-- `filter_jobs` of one listing. -/
def passesFilters (request : JobSearchRequest) (employment : EmploymentDetails) : Bool :=
  !(request.contractType = .permanent && !employment.isPermanent) &&
    !(request.contractType = .temporary && employment.isPermanent) &&
    !(0 < request.workloadMin && employment.workloadMax < request.workloadMin) &&
    !(request.workloadMax < 100 && request.workloadMax < employment.workloadMin) &&
    !(request.workForms.contains .homeOffice && !employment.workForms.contains "remote")

/-- `_should_prefilter_light_jobs`. -/
def shouldPrefilterLightJobs (request : JobSearchRequest) : Bool :=
  request.contractType ≠ .any || 0 < request.workloadMin || request.workloadMax < 100 ||
    !request.workForms.isEmpty

variable (Rest) in
/-- `_passes_light_filters`. -/
def passesLightFilters (request : JobSearchRequest) (light : Dict String Json) : Bool :=
  match (transformJobData light none : Option (AdeccoListing Rest)) with
  | none => true
  | some preview => passesFilters request preview.employment

/-- What becomes of a listing. -/
inductive Processed (Rest : Type)
  | nothing
  | skipped
  | hydrated (listing : AdeccoListing Rest)

/-- `process_job`, with the details of a listing where they are fetched. -/
def processJob (request : JobSearchRequest) (details : Json → Option Json)
    (light : Dict String Json) : Processed Rest :=
  let jobId := (Dict.lookup "jobId" light).getD .null
  if isFalsy jobId then .nothing
  else if shouldPrefilterLightJobs request && !passesLightFilters Rest request light then .skipped
  else
    match transformJobData light (details jobId) with
    | none => .nothing
    | some listing => .hydrated listing

/-- The listings of a summary; nothing when one of them is no object. -/
def lightJobs : Json → Option (List (Dict String Json))
  | .arr items => items.mapM fun item =>
    match item with
    | .obj light => some light
    | _ => none
  | .obj [] | .str "" => some []
  | _ => none

variable (Rest) in
/-- The total of a summary; nothing when it is no number. -/
def summaryTotal (summary : Dict String Json) (count : Nat) : Option Int :=
  match (Dict.lookup "pagination" summary).getD (.obj []) with
  | .obj pagination =>
    match (Dict.lookup "total" pagination).getD (.int count) with
    | .int total => some total
    | .bool flag => some (if flag then 1 else 0)
    | .float text => AdeccoTables.wholeFloat Rest text
    | _ => none
  | _ => none

/-- A total without what is dropped of it. -/
def reducedTotal (total : Int) (dropped : Nat) : Int :=
  if dropped = 0 then total else max 0 (total - dropped)

/-- The listing of a result. -/
def Processed.listing : Processed Rest → Option (AdeccoListing Rest)
  | hydrated listing => some listing
  | nothing | skipped => none

/-- Was the listing skipped by its filters? -/
def Processed.isSkipped : Processed Rest → Bool
  | skipped => true
  | nothing | hydrated _ => false

variable (Rest) in
/-- `AdeccoProvider.search`, by the summaries of the pages and the details of the listings. -/
def adeccoSearch (request : JobSearchRequest) (summaries : Nat → Option Json)
    (details : Json → Option Json) (page : Nat) :
    Except ProviderFailure (JobSearchResponse (AdeccoListing Rest)) :=
  match summaries page with
  | some (.obj summary) =>
    match (Dict.lookup "jobs" summary).bind lightJobs with
    | none => .error .response
    | some jobs =>
      match summaryTotal Rest summary jobs.length with
      | none => .error .response
      | some total =>
        let results : List (Processed Rest) := jobs.map (processJob request details)
        let hydrated := results.filterMap Processed.listing
        let items := hydrated.filter fun listing => passesFilters request listing.employment
        let unskipped := reducedTotal total (results.countP Processed.isSkipped)
        let totalCount := reducedTotal unskipped (hydrated.length - items.length)
        .ok ⟨items, totalCount, page, 10, (totalCount + 9) / 10, "adecco"⟩
  | some _ => .error .response
  | none => .error .request

end

end JobProviders

end CareerOS
