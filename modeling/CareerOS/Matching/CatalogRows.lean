/-
This file is the shared catalog of listings: what the program reads of a
provider listing, what an observation writes into the row of the listing, and
how a run finds the row again that it captured. A row keeps its revision while
the fingerprint of its content stays the same; the columns are written by every
observation.
-/

import CareerOS.Jobs.Urls
import CareerOS.Library.Outcome
import CareerOS.Matching.Documents

namespace CareerOS

/-! ### Provider listings -/

/-- `CompanyInfo`. -/
structure CompanyInfo where
  name : Option String

/-- `JobLocation`. -/
structure JobLocation where
  city : String

/-- `EmploymentDetails`. -/
structure EmploymentDetails where
  workloadMin : Int
  workloadMax : Int

/-- `JobListing`, as far as the catalog and the analysis read it. -/
structure JobListing where
  id : String
  source : String
  title : String
  /-- The texts of `descriptions`. -/
  descriptions : List String
  externalUrl : Option String
  formUrl : Option String
  company : Option CompanyInfo
  location : Option JobLocation
  employment : Option EmploymentDetails

/-- `extract_listing_description_text`. -/
def extractListingDescriptionText (listing : JobListing) : String :=
  listing.descriptions.head?.getD ""

/-- `extract_company_name`. -/
def extractCompanyName (listing : JobListing) : String :=
  match listing.company with
  | some company => company.name.getD ""
  | none => ""

/-- `extract_listing_location_string`. A location with an empty city yields the location object
itself, which is no text. -/
def extractListingLocationString (listing : JobListing) : Option String :=
  match listing.location with
  | some location => if location.city = "" then none else some location.city
  | none => some ""

/-- `extract_listing_workload_string`. -/
def extractListingWorkloadString (listing : JobListing) : String :=
  match listing.employment with
  | some employment =>
    if employment.workloadMin = employment.workloadMax then s!"{employment.workloadMin}%"
    else s!"{employment.workloadMin}-{employment.workloadMax}%"
  | none => ""

/-! ### Observations -/

/-- The columns that an observation refreshes. -/
structure CatalogFields where
  title : String
  company : String
  description : Option String
  location : Option String
  workload : Option String
  externalUrl : String
  applicationUrl : Option String
  deriving DecidableEq

/-- `ScrapedJob`, as far as a run compares it. -/
structure ListingRow where
  id : Nat
  platform : String
  platformJobId : String
  fields : CatalogFields
  contentRevision : Int
  contentFingerprint : Option String
  deriving DecidableEq

/-- What identifies a listing. -/
def ListingRow.key (row : ListingRow) : String × String := (row.platform, row.platformJobId)

/-- One observation of a listing. -/
structure CatalogObservation where
  platform : String
  platformJobId : String
  fields : CatalogFields
  contentFingerprint : String

def CatalogObservation.key (observation : CatalogObservation) : String × String :=
  (observation.platform, observation.platformJobId)

/-- The digest behind `build_scraped_job_content_fingerprint`. -/
class ContentDigest where
  digest : Dict String String → String

/-- A digest that lists its payload. -/
@[reducible] def ContentDigest.listing : ContentDigest where
  digest fields := "|".intercalate (fields.map Prod.snd)

/-- `build_scraped_job_content_fingerprint`. -/
def contentFingerprint [ContentDigest] (title company location workload description : String) :
    String :=
  ContentDigest.digest [("title", normalizeFingerprintText title (some 240)),
    ("company", normalizeFingerprintText company (some 160)),
    ("location", normalizeFingerprintText location (some 160)),
    ("workload", normalizeFingerprintText workload (some 80)),
    ("description", normalizeFingerprintText description (some 12000))]

/-- `text or None`. -/
def noneWhenEmpty (text : String) : Option String := if text = "" then none else some text

/-- The columns that `upsert_scraped_job` derives from a listing. -/
def listingObservation [TextTables] [ContentDigest] (listing : JobListing) :
    Except String CatalogObservation := do
  let platform := Text.strip (Text.orElse listing.source "unknown")
  let platformId := Text.strip listing.id
  refuseWhen (platformId = "") "A provider job identifier is required"
  let description := extractListingDescriptionText listing
  let company := Text.orElse (extractCompanyName listing) "Unknown"
  let workload := extractListingWorkloadString listing
  let title := cleanHtmlTags listing.title
  let externalUrl ← normalizeJobUrl listing.externalUrl true
  let applicationUrl ← normalizeJobUrl listing.formUrl false
  match extractListingLocationString listing with
  | none => throw "The location column cannot hold an object"
  | some location =>
    return {
      platform
      platformJobId := platformId
      fields := {
        title
        company
        description := if description = "" then none else some (cleanHtmlTags description)
        location := noneWhenEmpty location
        workload := noneWhenEmpty workload
        externalUrl := externalUrl.getD ""
        applicationUrl }
      contentFingerprint := contentFingerprint title company location workload description }

/-- `catalog_content_changed`. -/
def ListingRow.catalogContentChanged (row : ListingRow) (observation : CatalogObservation) : Bool :=
  match row.contentFingerprint with
  | some stored =>
    if Text.blank stored then contentFieldsDiffer else stored ≠ observation.contentFingerprint
  | none => contentFieldsDiffer
where
  contentFieldsDiffer : Bool :=
    row.fields.title ≠ observation.fields.title || row.fields.company ≠ observation.fields.company ||
      row.fields.description ≠ observation.fields.description ||
      row.fields.location ≠ observation.fields.location ||
      row.fields.workload ≠ observation.fields.workload

/-- `apply_catalog_observation`. -/
def ListingRow.applyCatalogObservation (row : ListingRow) (observation : CatalogObservation) : ListingRow :=
  let storedRevision := if row.contentRevision < 1 then 1 else row.contentRevision
  { row with
    fields := observation.fields
    contentFingerprint := some observation.contentFingerprint
    contentRevision :=
      if row.catalogContentChanged observation then storedRevision + 1 else storedRevision }

/-! ### The catalog -/

/-- The catalog, with its primary key and its unique constraint. -/
structure Catalog where
  rows : List ListingRow
  idsDistinct : (rows.map ListingRow.id).Nodup
  keysDistinct : (rows.map ListingRow.key).Nodup

/-- A catalog without rows. -/
def Catalog.empty : Catalog := ⟨[], List.nodup_nil, List.nodup_nil⟩

/-- The identifier that the next row gets. -/
def nextRowId (rows : List ListingRow) : Nat := (rows.map ListingRow.id).foldl max 0 + 1

/-- The row that an observation makes. -/
def newListingRow (id : Nat) (observation : CatalogObservation) : ListingRow where
  id
  platform := observation.platform
  platformJobId := observation.platformJobId
  fields := observation.fields
  contentRevision := 1
  contentFingerprint := some observation.contentFingerprint

section

theorem lawful_keys : LawfulBEq (String × String) := inferInstance

attribute [local instance] lawful_keys

/-- The rows after an observation: the row of the listing is refreshed, or made. -/
def observeRows (rows : List ListingRow) (observation : CatalogObservation) : List ListingRow :=
  if observation.key ∈ rows.map ListingRow.key then
    rows.map fun row =>
      if row.key = observation.key then row.applyCatalogObservation observation else row
  else rows ++ [newListingRow (nextRowId rows) observation]

end

theorem le_foldl_max (values : List Nat) (start : Nat) :
    start ≤ values.foldl max start ∧ ∀ value ∈ values, value ≤ values.foldl max start := by
  induction values generalizing start with
  | nil => exact ⟨le_rfl, nofun⟩
  | cons first rest inductionHypothesis =>
    obtain ⟨above, each⟩ := inductionHypothesis (max start first)
    refine ⟨le_trans (le_max_left _ _) above, ?_⟩
    intro value member
    rcases List.mem_cons.mp member with same | inside
    · rw [same]
      exact le_trans (le_max_right _ _) above
    · exact each value inside

theorem nextRowId_fresh (rows : List ListingRow) : nextRowId rows ∉ rows.map ListingRow.id := by
  intro member
  have bound := (le_foldl_max (rows.map ListingRow.id) 0).2 _ member
  unfold nextRowId at bound
  omega

theorem ids_observeRows (rows : List ListingRow) (observation : CatalogObservation) :
    (observeRows rows observation).map ListingRow.id = rows.map ListingRow.id ∨
      (observeRows rows observation).map ListingRow.id =
        rows.map ListingRow.id ++ [nextRowId rows] := by
  unfold observeRows
  split
  · refine Or.inl ?_
    rw [List.map_map]
    refine List.map_congr_left fun row _ => ?_
    simp only [Function.comp]
    split <;> rfl
  · exact Or.inr (by rw [List.map_append]; rfl)

theorem keys_observeRows (rows : List ListingRow) (observation : CatalogObservation) :
    (observeRows rows observation).map ListingRow.key =
      if observation.key ∈ rows.map ListingRow.key then rows.map ListingRow.key
      else rows.map ListingRow.key ++ [observation.key] := by
  unfold observeRows
  split
  · rw [List.map_map]
    refine List.map_congr_left fun row _ => ?_
    simp only [Function.comp]
    split <;> rfl
  · rw [List.map_append]
    rfl

/-- The catalog after an observation. -/
def Catalog.observe (catalog : Catalog) (observation : CatalogObservation) : Catalog where
  rows := observeRows catalog.rows observation
  idsDistinct := by
    rcases ids_observeRows catalog.rows observation with same | longer
    · rw [same]
      exact catalog.idsDistinct
    · rw [longer, ← List.concat_eq_append]
      exact (List.nodup_concat _ _).mpr ⟨nextRowId_fresh _, catalog.idsDistinct⟩
  keysDistinct := by
    rw [keys_observeRows]
    split
    · exact catalog.keysDistinct
    · rename_i fresh
      rw [← List.concat_eq_append]
      exact (List.nodup_concat _ _).mpr ⟨fresh, catalog.keysDistinct⟩

/-- The catalog after some observations. -/
def Catalog.observeAll (catalog : Catalog) (observations : List CatalogObservation) : Catalog :=
  observations.foldl Catalog.observe catalog

/-- `ScrapedJob`, as far as a run compares it. -/
def Catalog.rowOf (catalog : Catalog) (key : String × String) : Option ListingRow :=
  catalog.rows.find? fun row => row.key = key

/-- What a run keeps of the row of a listing: the attributes that the upsert sets. -/
structure CapturedRecord where
  scrapedJobId : Nat
  platform : String
  platformId : String
  contentRevision : Int
  contentFingerprint : Option String

/-- `upsert_scraped_job`. -/
def upsertScrapedJob [TextTables] [ContentDigest] (catalog : Catalog) (listing : JobListing) :
    Except String (CapturedRecord × Catalog) := do
  let observation ← listingObservation listing
  let observed := catalog.observe observation
  match observed.rowOf observation.key with
  | none => throw "Scraped job upsert did not return a persisted catalog record"
  | some row =>
    return ({
      scrapedJobId := row.id
      platform := observation.platform
      platformId := observation.platformJobId
      contentRevision := row.contentRevision
      contentFingerprint := row.contentFingerprint }, observed)

/-- `_captured_catalog_record_matches`. -/
def capturedCatalogRecordMatches (captured : CapturedRecord) (row : ListingRow) : Bool :=
  1 ≤ captured.scrapedJobId && 1 ≤ captured.contentRevision &&
    captured.contentFingerprint.any (fun stored => !Text.blank stored) &&
    row.id == captured.scrapedJobId && Text.strip row.platform == captured.platform &&
    Text.strip row.platformJobId == captured.platformId &&
    row.contentRevision == captured.contentRevision &&
    row.contentFingerprint == captured.contentFingerprint

/-- `_load_captured_catalog_record`. -/
def loadCapturedCatalogRecord (catalog : Catalog) (captured : CapturedRecord) :
    Option ListingRow :=
  match catalog.rows.find? fun row => row.id = captured.scrapedJobId with
  | some row => if capturedCatalogRecordMatches captured row then some row else none
  | none => none

end CareerOS
