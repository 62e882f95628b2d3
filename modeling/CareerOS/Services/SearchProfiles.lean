/-
This file is the settings of a search profile: how the schemas of a creation and
of an update read them, and where the row keeps them. Half of the settings are
columns; the others are entries of one JSON object, which an update merges into.

The two schemas are separate. A creation normalises lists and takes a few
spellings of an unset limit for a null, an update takes what it is given; and a
null is the default of the column when a row is inserted, a null of the column
when it is updated, and nothing at all for a preference that is updated.
-/

import CareerOS.Library.SchemaTypes
import CareerOS.Library.Text

namespace CareerOS

namespace SearchProfiles

/-- The text functions of Python that the normalisers use. -/
class SettingTables where
  /-- `str.lower()`. -/
  lower : String → String
  /-- `str(value)` of a JSON value that is not a text. -/
  pythonText : Json → String
  /-- `_coerce_preference_value` of a value that has not the type of its preference. -/
  coerce : String → Json → Json

/-- A setting: its name, its default in `SearchProfileBase`, and how the two schemas read it. -/
structure ProfileField where
  name : String
  default : Json
  onCreate : Normal
  onUpdate : Normal

/-! ### The readers -/

section

variable [LaxScalars] [SettingTables]

/-- `Optional[int]`. -/
def wholeNumber : Normal := Normal.orNull fun value => (LaxScalars.readInt value).map .int

/-- `Optional[float]`. -/
def fraction : Normal := Normal.orNull fun value => (LaxScalars.readFloat value).map .float

/-- `Optional[bool]`. -/
def flag : Normal := Normal.orNull Normal.boolean

/-- `Optional[str]`. -/
def optionalText : Normal := Normal.orNull Normal.anyText

/-- `List[str]`. -/
def textList : Normal
  | .arr values => (Normal.items Normal.anyText values).map .arr
  | _ => none

/-- The spellings of an unset limit. -/
def isUnset (value : Json) : Bool :=
  value = .str "" || value = .int (-1) || value = .float "-1.0" || value = .str "-1"

/-- `empty_string_to_none`, then `Optional[int]`. -/
def limit : Normal := fun value => if isUnset value then some .null else wholeNumber value

/-- `Optional[int]` with `ge=1`. -/
def positive : Normal := Normal.orNull (Normal.integer 1 none)

/-- `str(item or "")`. -/
def itemText : Json → String
  | .str text => text
  | .null | .bool false | .int 0 | .arr [] | .obj [] => ""
  | value => SettingTables.pythonText value

/-- The letters of a language in the aliases of `normalize_preferred_languages`. -/
def languageAliases : Dict String String := [
  ("english", "en"), ("en", "en"), ("de", "de"), ("deutsch", "de"), ("german", "de"), ("fr", "fr"),
  ("french", "fr"), ("francais", "fr"), ("français", "fr"), ("it", "it"), ("italian", "it"),
  ("italiano", "it"), ("es", "es"), ("spanish", "es"), ("espanol", "es"), ("español", "es"),
  ("pt", "pt"), ("portuguese", "pt"), ("pl", "pl"), ("polish", "pl"), ("ro", "ro"),
  ("romanian", "ro")]

def isLowerLetter (letter : Char) : Bool := 'a' ≤ letter && letter ≤ 'z'

/-- The code of one language, or nothing. -/
def languageCode (item : Json) : Option String :=
  let text := SettingTables.lower (Text.strip (itemText item))
  if text = "" then none
  else
    let code := (Dict.lookup text languageAliases).getD (Text.slice text 2)
    if code.length = 2 ∧ code.toList.all isLowerLetter then some code else none

/-- The letters between two dashes, without those that are no part of a domain. -/
def domainLetters (text : String) : List Char :=
  let dashed := text.toList.map fun letter => if letter = '/' ∨ letter = '_' then '-' else letter
  let kept := dashed.filter fun letter =>
    isLowerLetter letter || ('0' ≤ letter && letter ≤ '9') || letter = '-' || letter = ' '
  kept.map fun letter => if letter = ' ' then '-' else letter

/-- The normal form of one domain, or nothing. -/
def domainToken (item : Json) : Option String :=
  let letters := domainLetters (SettingTables.lower (Text.strip (itemText item)))
  -- Runs of dashes become one, and none is left at either end.
  let pieces := (letters.splitOn '-').filter fun piece => piece ≠ []
  if pieces = [] then none else some (String.ofList (['-'].intercalate pieces))

/-- The items that are something, each once. -/
def distinctItems (normalize : Json → Option String) : List String → List Json → List String
  | _, [] => []
  | seen, item :: rest =>
    match normalize item with
    | none => distinctItems normalize seen rest
    | some text =>
      if text ∈ seen then distinctItems normalize seen rest
      else text :: distinctItems normalize (text :: seen) rest

/-- The items of a list, or those of a text between commas. -/
def listedItems : Json → List Json
  | .arr items => items
  | .str text => (text.toList.splitOn ',').map fun item => .str (Text.strip (String.ofList item))
  | _ => []

/-- A validator of a list: what is no list, or holds nothing, is null. -/
def normalizedList (normalize : Json → Option String) : Normal := fun value =>
  match distinctItems normalize [] (listedItems value) with
  | [] => some .null
  | texts => some (Json.ofTexts texts)

/-! ### The settings -/

/-- A field that both schemas read alike. -/
def plain (name : String) (default : Json) (normal : Normal) : ProfileField :=
  ⟨name, default, normal, normal⟩

/-- A number that a creation may leave unset in words. -/
def unsettable (name : String) : ProfileField := ⟨name, .null, limit, wholeNumber⟩

/-- A list that only a creation normalises. -/
def normalized (name : String) (normalize : Json → Option String) : ProfileField :=
  ⟨name, .null, normalizedList normalize, Normal.orNull textList⟩

/-- The fields of `SearchProfileBase` and `SearchProfileUpdate`. -/
def profileFields : List ProfileField := [
  ⟨"name", .str "", Normal.anyText, optionalText⟩,
  plain "cv_content" .null optionalText,
  plain "role_description" .null optionalText,
  plain "search_strategy" .null optionalText,
  plain "location_filter" .null optionalText,
  plain "workload_filter" .null optionalText,
  plain "contract_type" (.str "any") optionalText,
  plain "posted_within_days" (.int 30) wholeNumber,
  plain "max_distance" (.int 50) wholeNumber,
  plain "latitude" .null fraction,
  plain "longitude" .null fraction,
  plain "scrape_mode" (.str "sequential") optionalText,
  unsettable "max_queries",
  plain "is_history" (.bool false) flag,
  plain "is_stopped" (.bool false) flag,
  unsettable "max_occupation_queries",
  unsettable "max_keyword_queries",
  normalized "preferred_languages" languageCode,
  normalized "preferred_domains" domainToken,
  plain "remote_only" (.bool false) flag,
  unsettable "salary_min_chf",
  unsettable "workload_min",
  unsettable "workload_max",
  unsettable "hard_max_distance_km",
  plain "schedule_enabled" (.bool false) flag,
  ⟨"schedule_interval_hours", .int 24, positive, wholeNumber⟩]

def asNumber : Json → Option Int
  | .int number => some number
  | _ => none

/-- The number of a field, when it has one. -/
def numberOf (name : String) (data : Dict String Json) : Option Int :=
  (Dict.lookup name data).bind asNumber

/-- `_validate_profile_ranges`. -/
def validProfileRanges (data : Dict String Json) : Prop :=
  (∀ number ∈ numberOf "workload_min" data, 0 ≤ number ∧ number ≤ 100) ∧
    (∀ number ∈ numberOf "workload_max" data, 0 ≤ number ∧ number ≤ 100) ∧
    (∀ least ∈ numberOf "workload_min" data, ∀ most ∈ numberOf "workload_max" data,
      least ≤ most) ∧
    (∀ number ∈ numberOf "salary_min_chf" data, 0 ≤ number) ∧
    (∀ number ∈ numberOf "hard_max_distance_km" data, 0 ≤ number) ∧
    (∀ number ∈ numberOf "max_distance" data, 0 ≤ number) ∧
    (∀ number ∈ numberOf "posted_within_days" data, 1 ≤ number) ∧
    ∀ number ∈ numberOf "schedule_interval_hours" data, 1 ≤ number

instance (data : Dict String Json) : Decidable (validProfileRanges data) := by
  unfold validProfileRanges
  infer_instance

/-- What the update schema reads of the fields that are given. -/
def readUpdate (body : Dict String Json) : List ProfileField → Option (Dict String Json)
  | [] => some []
  | field :: rest =>
    match Dict.lookup field.name body with
    | none => readUpdate body rest
    | some value => do
      let here ← field.onUpdate value
      let others ← readUpdate body rest
      return (field.name, here) :: others

/-- What the creation schema reads of one field; one that is not given takes its default. -/
def ProfileField.created (field : ProfileField) (body : Dict String Json) : Option Json :=
  match Dict.lookup field.name body with
  | none => some field.default
  | some value => field.onCreate value

/-- What the creation schema reads. -/
def readCreate (body : Dict String Json) : List ProfileField → Option (Dict String Json)
  | [] => some []
  | field :: rest => do
    let here ← field.created body
    let others ← readCreate body rest
    return (field.name, here) :: others

/-- `SearchProfileUpdate`, dumped without the fields that are not set. -/
def searchProfileUpdate (body : Dict String Json) : Option (Dict String Json) :=
  (readUpdate body profileFields).filter fun data => validProfileRanges data

/-- `SearchProfileCreate`, dumped. -/
def searchProfileCreate (body : Dict String Json) : Option (Dict String Json) :=
  (readCreate body profileFields).filter fun data => validProfileRanges data

/-! ### The row -/

/-- `_PREFERENCE_FIELDS`: the settings that are kept in the preferences. -/
def preferenceFields : List String :=
  ["preferred_languages", "preferred_domains", "remote_only", "salary_min_chf", "workload_min",
    "workload_max", "hard_max_distance_km"]

/-- The defaults of the columns, which an insertion takes for a null. -/
def columnDefaults : Dict String Json := [
  ("name", .str ""), ("contract_type", .str "any"), ("posted_within_days", .int 30),
  ("max_distance", .int 50), ("scrape_mode", .str "sequential"), ("is_history", .bool false),
  ("is_stopped", .bool false), ("schedule_enabled", .bool false),
  ("schedule_interval_hours", .int 24)]

/-- The columns that cannot be null. -/
def requiredColumns : List String := ["is_history", "is_stopped"]

/-- What a setting is that was never set. -/
def unsetValue (name : String) : Json :=
  if name ∈ preferenceFields then (if name = "remote_only" then .bool false else .null)
  else (Dict.lookup name columnDefaults).getD .null

/-- What is read back of a column: the database has no `nan`. -/
def stored : Json → Json
  | .float "nan" => .null
  | value => value

/-- An integer of a column has 64 bits. -/
def fitsColumn : Json → Bool
  | .int number => -2 ^ 63 ≤ number && number < 2 ^ 63
  | _ => true

/-- `SearchProfile`: the columns of the settings, the preferences, and what an update resets. -/
structure SearchProfile where
  columns : String → Json
  advancedPreferences : Dict String Json
  cachedQueries : Json
  cachedCvSummary : Json
  normalizationFingerprint : Json
  normalizationStatus : Json

/-- An attribute of the row: a column, or a property that reads the preferences. -/
def SearchProfile.read (profile : SearchProfile) (name : String) : Json :=
  if name ∈ preferenceFields then
    (Dict.lookup name profile.advancedPreferences).getD (unsetValue name)
  else profile.columns name

/-- What a request is refused with. -/
inductive Refusal
  | invalid
  | missing
  | database
  deriving DecidableEq

/-- `_coerce_preference_value`. -/
def coercePreferenceValue (name : String) (value : Json) : Json :=
  match value with
  | .null => .null
  | .arr items =>
    if name ∈ ["preferred_languages", "preferred_domains"] then .arr items
    else SettingTables.coerce name (.arr items)
  | .bool flag =>
    if name = "remote_only" then .bool flag else SettingTables.coerce name (.bool flag)
  | .int number =>
    if name ∈ ["salary_min_chf", "hard_max_distance_km", "workload_min", "workload_max"] then
      .int number
    else SettingTables.coerce name (.int number)
  | other => SettingTables.coerce name other

/-- The preferences of the data. -/
def extractedPreferences (data : Dict String Json) : Dict String Json :=
  (data.filter fun item => item.1 ∈ preferenceFields).map
    fun item => (item.1, coercePreferenceValue item.1 item.2)

/-- The data that is left for the columns. -/
def columnData (data : Dict String Json) : Dict String Json :=
  data.filter fun item => item.1 ∉ preferenceFields

/-- The merge of `_extract_advanced_preferences`: what is null is left out. -/
def mergedPreferences (existing extracted : Dict String Json) : Dict String Json :=
  ((extracted.filter fun item => item.2 ≠ .null).foldl
    (fun base item => Dict.assign item.1 item.2 base) existing).filter fun item => item.2 ≠ .null

/-- What an insertion writes into a column. -/
def insertedValue (data : Dict String Json) (name : String) : Json :=
  match Dict.lookup name data with
  | none | some .null => unsetValue name
  | some value => stored value

/-- The row that an insertion writes. -/
def insertedProfile (data : Dict String Json) : SearchProfile where
  columns := insertedValue (columnData data)
  advancedPreferences := mergedPreferences [] (extractedPreferences data)
  cachedQueries := .null
  cachedCvSummary := .null
  normalizationFingerprint := .null
  normalizationStatus := .str "pending"

/-- `create_profile` of a user with no other profile. -/
def createProfile (body : Dict String Json) : Except Refusal SearchProfile :=
  match searchProfileCreate body with
  | none => .error .invalid
  | some data =>
    if (columnData data).all fun item => fitsColumn item.2 then .ok (insertedProfile data)
    else .error .database

/-- `_QUERY_CACHE_INVALIDATION_FIELDS`. -/
def queryCacheInvalidationFields : List String :=
  ["role_description", "search_strategy", "location_filter", "workload_filter", "contract_type",
    "posted_within_days", "max_distance", "latitude", "longitude", "max_queries",
    "max_occupation_queries", "max_keyword_queries"]

/-- The row that an update writes, with the caches it resets. -/
def updatedProfile (profile : SearchProfile) (data : Dict String Json) : SearchProfile :=
  let merged := mergedPreferences profile.advancedPreferences (extractedPreferences data)
  let given := fun name => (Dict.lookup name (columnData data)).isSome
  let renormalizes := given "role_description" || given "search_strategy"
  { columns := fun name =>
      match Dict.lookup name (columnData data) with
      | some value => stored value
      | none => profile.columns name
    advancedPreferences := if merged = [] then profile.advancedPreferences else merged
    cachedQueries :=
      if queryCacheInvalidationFields.any given ∨ merged ≠ [] then .null
      else profile.cachedQueries
    cachedCvSummary := if given "cv_content" then .null else profile.cachedCvSummary
    normalizationFingerprint :=
      if given "cv_content" || renormalizes then .null else profile.normalizationFingerprint
    normalizationStatus := if renormalizes then .str "pending" else profile.normalizationStatus }

/-- `update_profile`, by the owner. -/
def updateProfile (profile : SearchProfile) (body : Dict String Json) :
    Except Refusal SearchProfile :=
  match searchProfileUpdate body with
  | none => .error .invalid
  | some data =>
    if (columnData data).all fun item =>
      fitsColumn item.2 && !(item.2 = .null && item.1 ∈ requiredColumns)
    then .ok (updatedProfile profile data)
    else .error .database

/-- The attributes of a row that the response reads. -/
def attributes (profile : SearchProfile) : Dict String Json :=
  profileFields.map fun field => (field.name, profile.read field.name)

/-- Does the response schema, which extends that of the creation, take the row? -/
def responseAccepts (profile : SearchProfile) : Bool :=
  (searchProfileCreate (attributes profile)).isSome

end

end SearchProfiles

end CareerOS
