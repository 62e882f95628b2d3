/-
This file is the way from a saved search to the requests of the providers. The
settings of a search profile are read three times: the planner reads what to ask
for, `build_search_request` reads where, since when and for how much work, and
the filter of the results reads once more how much work is asked for. The request
has bounds of its own, which no schema of the profile knows.
-/

import CareerOS.Library.Numerals
import CareerOS.Services.SearchProfiles
import CareerOS.Search.PlanCache

namespace CareerOS

namespace SearchProfiles

open Text

/-! ### Numbers -/

section

variable [DecimalDigits]

/-- `_string_attr`. -/
def stringAttr : Json → String
  | .str text => text
  | _ => ""

/-- `_optional_int_attr`, and `coerce_int`, which is the same function. -/
def optionalIntAttr (default : Option Int) : Json → Option Int
  | .int number => some number
  | .str text => if blank text then default else (pythonInt (strip text)).or default
  | _ => default

end

/-! ### The request -/

/-- `ContractType`. -/
inductive ContractType
  | permanent
  | temporary
  | any
  deriving DecidableEq

/-- `SortOrder`. -/
inductive SortOrder
  | dateDesc
  | dateAsc
  | relevance
  deriving DecidableEq

/-- `WorkForm`. -/
inductive WorkForm
  | diverse
  | homeOffice
  deriving DecidableEq

/-- `RadiusSearchRequest`, with its `Coordinates`. -/
structure RadiusSearchRequest where
  lat : String
  lon : String
  distance : Int

/-- `JobSearchRequest`, as far as `build_search_request` fills it. -/
structure JobSearchRequest where
  query : String
  location : String
  communalCodes : List String
  keywords : List String
  professionCodes : List String
  workloadMin : Int
  workloadMax : Int
  contractType : ContractType
  postedWithinDays : Option Int
  radiusSearch : Option RadiusSearchRequest
  workForms : List WorkForm
  language : String
  pageSize : Int
  sort : SortOrder

section

variable [LaxScalars]

/-- A latitude and a longitude that `Coordinates` takes. -/
def coordinatesFit (lat lon : String) : Prop :=
  (LaxScalars.atLeast (-90) lat = true ∧ LaxScalars.atMost 90 lat = true) ∧
    LaxScalars.atLeast (-180) lon = true ∧ LaxScalars.atMost 180 lon = true

instance (lat lon : String) : Decidable (coordinatesFit lat lon) := by
  unfold coordinatesFit
  infer_instance

/-- The bounds of the fields, and `validate_workload_range`. -/
structure JobSearchRequest.Valid (request : JobSearchRequest) : Prop where
  query : request.query.length ≤ 1000
  location : request.location.length ≤ 500
  communalCodes : request.communalCodes.length ≤ 500
  keywords : request.keywords.length ≤ 100
  professionCodes : request.professionCodes.length ≤ 100
  workloadMin : 0 ≤ request.workloadMin ∧ request.workloadMin ≤ 100
  workloadMax : 0 ≤ request.workloadMax ∧ request.workloadMax ≤ 100
  postedWithinDays : ∀ days ∈ request.postedWithinDays, 1 ≤ days
  workForms : request.workForms.length ≤ 10
  language : 2 ≤ request.language.length ∧ request.language.length ≤ 16
  pageSize : 1 ≤ request.pageSize ∧ request.pageSize ≤ 100
  workloads : request.workloadMin ≤ request.workloadMax

omit [LaxScalars] in
theorem JobSearchRequest.valid_iff (request : JobSearchRequest) : request.Valid ↔
    request.query.length ≤ 1000 ∧ request.location.length ≤ 500 ∧
      request.communalCodes.length ≤ 500 ∧ request.keywords.length ≤ 100 ∧
      request.professionCodes.length ≤ 100 ∧
      (0 ≤ request.workloadMin ∧ request.workloadMin ≤ 100) ∧
      (0 ≤ request.workloadMax ∧ request.workloadMax ≤ 100) ∧
      (∀ days ∈ request.postedWithinDays, 1 ≤ days) ∧
      request.workForms.length ≤ 10 ∧
      (2 ≤ request.language.length ∧ request.language.length ≤ 16) ∧
      (1 ≤ request.pageSize ∧ request.pageSize ≤ 100) ∧
      request.workloadMin ≤ request.workloadMax := by
  constructor
  · rintro ⟨query, location, communal, keywords, codes, least, most, posted, forms, language,
      size, order⟩
    exact ⟨query, location, communal, keywords, codes, least, most, posted, forms, language,
      size, order⟩
  · rintro ⟨query, location, communal, keywords, codes, least, most, posted, forms, language,
      size, order⟩
    exact ⟨query, location, communal, keywords, codes, least, most, posted, forms, language,
      size, order⟩

omit [LaxScalars] in
instance (request : JobSearchRequest) : Decidable request.Valid :=
  decidable_of_iff' _ request.valid_iff

end

/-- A provider, as far as a request depends on it. -/
structure RequestProvider where
  supportedLanguages : List String
  maxPageSize : Nat
  maxPageSize_bounds : 1 ≤ maxPageSize ∧ maxPageSize ≤ 100

section

variable [LaxScalars] [SettingTables] [QueryTables] [DecimalDigits]

/-- `supported_request_language`. -/
def supportedRequestLanguage (language : String) (provider : RequestProvider) : String :=
  let normalized := normalizeLanguage language
  let supported := provider.supportedLanguages.map normalizeLanguage
  if normalized ∈ supported then normalized else supported.headD normalized

/-- The range of a workload filter, in a request. -/
def filterWorkload (workloadFilter : String) : Int × Int :=
  let parts := (workloadFilter.toList.filter (· ≠ '%')).splitOn '-'
  match pythonInt (String.ofList (parts.headD [])) with
  | none => (0, 100)
  | some least =>
    match parts.tail with
    | [] => (least, least)
    | second :: _ => (least, (pythonInt (String.ofList second)).getD 100)

/-- The range of work of a request. -/
def requestWorkload (setting : String → Json) : Int × Int :=
  let least := optionalIntAttr none (setting "workload_min")
  let most := optionalIntAttr none (setting "workload_max")
  if least.isSome ∨ most.isSome then (least.getD 0, most.getD 100)
  else filterWorkload (stringAttr (setting "workload_filter"))

/-- The distance of a request. -/
def requestDistance (setting : String → Json) : Int :=
  let distance := (optionalIntAttr none (setting "hard_max_distance_km")).or
    (optionalIntAttr (some 50) (setting "max_distance"))
  match distance with
  | none | some 0 => 50
  | some distance => distance

/-- The place of a request, if the profile has one; nothing when its coordinates are refused. -/
def requestRadius (setting : String → Json) : Option (Option RadiusSearchRequest) :=
  match setting "latitude", setting "longitude" with
  | .float lat, .float lon =>
    let distance := requestDistance setting
    if coordinatesFit lat lon ∧ 0 ≤ distance then some (some ⟨lat, lon, distance⟩) else none
  | _, _ => some none

/-- The contract type of a request. -/
def requestContract (setting : String → Json) : ContractType :=
  match SettingTables.lower (orElse (match setting "contract_type" with
    | .str text => text
    | _ => "any") "any") with
  | "permanent" => .permanent
  | "temporary" => .temporary
  | _ => .any

/-- The values of the request. -/
def assembledRequest (setting : String → Json) (query : String) (professionCodes : List String)
    (language : String) (pageSize : Int) (provider : Option RequestProvider)
    (radius : Option RadiusSearchRequest) : JobSearchRequest where
  query := canonicalizeQueryText query
  location := stringAttr (setting "location_filter")
  communalCodes := []
  keywords := if canonicalizeQueryText query = "" then [] else [canonicalizeQueryText query]
  professionCodes := professionCodes
  workloadMin := (requestWorkload setting).1
  workloadMax := (requestWorkload setting).2
  contractType := requestContract setting
  postedWithinDays := optionalIntAttr (some 30) (setting "posted_within_days")
  radiusSearch := radius
  workForms := []
  language := match provider with
    | some provider => supportedRequestLanguage language provider
    | none => language
  pageSize := pageSize
  sort := .dateDesc

/-- `build_search_request`, by the attributes of the profile; nothing when the request is
refused. -/
def buildSearchRequest (setting : String → Json) (query : String) (professionCodes : List String)
    (language : String) (pageSize : Int) (provider : Option RequestProvider) :
    Option JobSearchRequest :=
  (requestRadius setting).bind fun radius =>
    let request := assembledRequest setting query professionCodes language pageSize provider radius
    if request.Valid then some request else none

/-- The request of a planned search, as the acquisition has it built. -/
def searchRequest (setting : String → Json) (search : SearchItem) (professionCodes : List String)
    (provider : RequestProvider) : Option JobSearchRequest :=
  buildSearchRequest setting search.query professionCodes
    (supportedRequestLanguage search.language provider) provider.maxPageSize (some provider)

/-! ### The filter of the results -/

/-- `value or ""`, of a text. -/
def orBlank : Json → Json
  | .null => .str ""
  | value => value

/-- The `profile_dict` of a run: some settings, and what is no setting. -/
def profileDict (setting other : String → Json) : Dict String Json := [
  ("id", other "id"), ("user_id", other "user_id"),
  ("cv_content", orBlank (setting "cv_content")),
  ("role_description", orBlank (setting "role_description")),
  ("search_strategy", orBlank (setting "search_strategy")),
  ("latitude", setting "latitude"), ("longitude", setting "longitude"),
  ("force_regenerate_cv_summary", other "force_regenerate_cv_summary"),
  ("force_regenerate_queries", other "force_regenerate_queries"),
  ("cv_summary", other "cv_summary"), ("profile_normalization", other "profile_normalization"),
  ("match_profile_snapshot", other "match_profile_snapshot"),
  ("preference_signals", other "preference_signals")]

/-- One of the two numbers of a range of work: up to three digits, with space around them. -/
def boundOfRange (letters : List Char) : Option Int :=
  let digits := stripList letters
  if 1 ≤ digits.length ∧ digits.length ≤ 3 ∧
      digits.all fun letter => (DecimalDigits.digitValue letter).isSome
  then pythonInt (String.ofList digits) else none

/-- `_resolve_required_workload_range`. -/
def resolveRequiredWorkloadRange (profileDict : Dict String Json)
    (minPref maxPref : Option Int) : Option Int × Option Int :=
  if minPref.isSome ∨ maxPref.isSome then (minPref, maxPref)
  else
    let workloadFilter := strip (stringAttr ((Dict.lookup "workload_filter" profileDict).getD .null))
    match workloadFilter.toList.splitOn '-' with
    | [first, second] =>
      match boundOfRange first, boundOfRange second with
      | some least, some most => (some (min least most), some (max least most))
      | _, _ => (none, none)
    | _ => (none, none)

/-- The range of work that `_passes_structured_filters` expects. -/
def expectedWorkload (setting other : String → Json) : Int × Int :=
  let required := resolveRequiredWorkloadRange (profileDict setting other)
    (optionalIntAttr none (setting "workload_min"))
    (optionalIntAttr none (setting "workload_max"))
  (required.1.getD 0, required.2.getD 100)

/-! ### The plan -/

/-- A setting as a text, if it is one. -/
def textSetting : Json → Option String
  | .str text => some text
  | _ => none

/-- A setting as a list of texts, if it is one. -/
def textsSetting : Json → Option (List String)
  | .arr items => some (items.filterMap textSetting)
  | _ => none

/-- The settings that the planner reads. -/
def planSettings (setting : String → Json) : PlanSettings where
  roleDescription := textSetting (setting "role_description")
  searchStrategy := textSetting (setting "search_strategy")
  maxQueries := asNumber (setting "max_queries")
  maxOccupationQueries := asNumber (setting "max_occupation_queries")
  maxKeywordQueries := asNumber (setting "max_keyword_queries")
  preferredDomains := textsSetting (setting "preferred_domains")

/-- The searches that the planner yields for a profile. -/
def plannedSearches (defaults : PlanDefaults) (setting : String → Json) : List SearchItem :=
  freshSearches defaults (planSettings setting)

end

/-! ### What the owner does -/

/-- `CareerSearchSnapshot`. -/
structure CareerSearchSnapshot where
  text : String
  profileId : String
  profileRevision : Int
  factIds : List String
  sha256 : String

/-- Where the evidence of a campaign comes from. -/
inductive ProfileSource
  | careerVault
  | uploadedCv
  deriving DecidableEq

/-- What the start of a search has besides the settings: the source that is asked for, the
snapshot of the vault if it gives one, the digest of a text, and the moment as a text. -/
structure CampaignStart where
  profileSource : Option ProfileSource
  snapshot : Option CareerSearchSnapshot
  sha256 : String → String
  timestamp : String

section

variable [LaxScalars] [SettingTables]

/-- The text of the evidence and its metadata. -/
def campaignEvidence (campaign : CampaignStart) (suppliedCv : String) :
    Option (String × Dict String Json) :=
  match campaign.profileSource.getD (if blank suppliedCv then .careerVault else .uploadedCv) with
  | .careerVault => campaign.snapshot.map fun snapshot =>
    (snapshot.text, [
      ("profile_source", .str "career_vault"),
      ("career_profile_id", .str snapshot.profileId),
      ("career_profile_revision", .int snapshot.profileRevision),
      ("career_fact_ids", Json.ofTexts snapshot.factIds),
      ("source_snapshot_sha256", .str snapshot.sha256)])
  | .uploadedCv =>
    if blank suppliedCv then none
    else some (suppliedCv, [
      ("profile_source", .str "uploaded_cv"),
      ("source_snapshot_sha256", .str (campaign.sha256 suppliedCv))])

/-- The name of a campaign. -/
def campaignName (campaign : CampaignStart) (given : Option Json) : String :=
  let name := stringAttr (given.getD .null)
  if name ∈ ["", "Default Profile", "My Profile"] then "Search " ++ campaign.timestamp else name

/-- The columns of a campaign: those that are given, and what the start decides. -/
def campaignColumns (campaign : CampaignStart) (given : Dict String Json) (evidence : String) :
    Dict String Json :=
  [("cv_content", .str evidence), ("is_history", .bool true),
    ("name", .str (campaignName campaign (Dict.lookup "name" given))),
    ("is_stopped", .bool false)].foldl
      (fun columns item => Dict.assign item.1 item.2 columns) (columnData given)

/-- The data of a start that is given in its body. -/
def givenData (body data : Dict String Json) : Dict String Json :=
  data.filter fun item => (Dict.lookup item.1 body).isSome

/-- The row of a campaign. -/
def campaignProfile (campaign : CampaignStart) (given : Dict String Json) (evidence : String)
    (metadata : Dict String Json) : SearchProfile where
  columns := insertedValue (campaignColumns campaign given evidence)
  advancedPreferences := metadata.foldl (fun all item => Dict.assign item.1 item.2 all)
    (given.filter fun item => item.1 ∈ preferenceFields ∧ item.2 ≠ .null)
  cachedQueries := .null
  cachedCvSummary := .null
  normalizationFingerprint := .null
  normalizationStatus := .str "pending"

/-- `start_search` of a new campaign. -/
def startSearch (campaign : CampaignStart) (body : Dict String Json) :
    Except Refusal SearchProfile :=
  match searchProfileCreate body with
  | none => .error .invalid
  | some data =>
    let given := givenData body data
    let suppliedCv := stringAttr ((Dict.lookup "cv_content" given).getD .null)
    match campaignEvidence campaign suppliedCv with
    | none => .error .invalid
    | some (evidence, metadata) =>
      if (campaignColumns campaign given evidence).all fun item => fitsColumn item.2 then
        .ok (campaignProfile campaign given evidence metadata)
      else .error .database

/-- The row of a saved search that runs again. -/
def restarted (profile : SearchProfile) : SearchProfile :=
  { profile with
    columns := fun name => if name = "is_stopped" then .bool false else profile.columns name }

/-- What the owner does with the saved searches. -/
inductive ProfileStep
  | create (body : Dict String Json)
  | update (index : Nat) (body : Dict String Json)
  | start (campaign : CampaignStart) (body : Dict String Json)
  | rerun (index : Nat) (body : Dict String Json)

/-- A step on the saved searches. -/
def ProfileStep.run (profiles : List SearchProfile) : ProfileStep →
    Except Refusal (List SearchProfile)
  | .create body => (createProfile body).map fun profile => profiles ++ [profile]
  | .update index body =>
    match profiles[index]? with
    | none => .error .missing
    | some profile => (updateProfile profile body).map fun after => profiles.set index after
  | .start campaign body => (startSearch campaign body).map fun profile => profiles ++ [profile]
  | .rerun index body =>
    match searchProfileCreate body, profiles[index]? with
    | none, _ => .error .invalid
    | some _, none => .error .missing
    | some _, some profile => .ok (profiles.set index (restarted profile))

end

end SearchProfiles

end CareerOS
