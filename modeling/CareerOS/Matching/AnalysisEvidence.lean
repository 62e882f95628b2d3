/-
This file compares the two job documents of one analysis: the one the run builds
from the listing for the model call, and the one that is rebuilt from the catalog
row when the analysis is stored. They are assembled from the same five fields
along different paths, so they agree exactly when each field comes out the same.

The agreement of two job documents is settled field by field first, for any two
jobs. What an observation leaves in the catalog is settled next, for any run of
observations. The result joins the two.
-/

import CareerOS.Matching.CatalogRows

namespace CareerOS

/-! ### The job of an analysis -/

/-- What `_build_analysis_job_metadata` reads for the evidence. -/
structure AnalysisJobMetadata where
  title : String
  description : String
  location : String
  workload : String
  company : Option String

/-- `_build_analysis_job_metadata`. -/
def buildAnalysisJobMetadata (listing : JobListing) : AnalysisJobMetadata where
  title := listing.title
  description := listing.descriptions.head?.getD ""
  location :=
    match listing.location with
    | some location => location.city
    | none => "Unknown"
  workload :=
    match listing.employment with
    | some employment => s!"{employment.workloadMin}-{employment.workloadMax}%"
    | none => "Unknown"
  company :=
    match listing.company with
    | some company => company.name
    | none => some "Unknown"

/-- The job that the analysis hands to `job_evidence_document`. -/
def AnalysisJobMetadata.jobFields (metadata : AnalysisJobMetadata) : JobFields where
  title := metadata.title
  company := metadata.company.getD ""
  location := metadata.location
  workload := metadata.workload
  description := metadata.description

/-- The job that `save_single_job` hands to `job_evidence_document`. -/
def ListingRow.jobFields (row : ListingRow) : JobFields where
  title := row.fields.title
  company := row.fields.company
  location := row.fields.location.getD ""
  workload := row.fields.workload.getD ""
  description := row.fields.description.getD ""

/-! ### When two job documents agree -/

variable {first second : JobFields}

/-- The source fingerprint fixes every field of the evidence but the wording of the title. -/
theorem jobSource_inj (same : jobSource first = jobSource second) :
    first.company = second.company ∧ cleanHtmlTags first.description =
      cleanHtmlTags second.description ∧ first.location = second.location ∧
      cleanHtmlTags first.title = cleanHtmlTags second.title ∧
      first.workload = second.workload := by
  unfold jobSource at same
  simpa only [List.cons.injEq, Prod.mk.injEq, true_and, and_true] using same

section

variable [CaseTables] [ClauseGrammar]

/-- The clauses that a title is quoted in. -/
def titleQuotes (title : String) : List String :=
  quoteFragments (titleEvidence title) s!"No explicit {Dimension.intent.text} evidence."

/-- Two jobs give the same evidence. -/
structure SameEvidence (first second : JobFields) : Prop where
  company : first.company = second.company
  location : first.location = second.location
  workload : first.workload = second.workload
  description : cleanHtmlTags first.description = cleanHtmlTags second.description
  title : cleanHtmlTags first.title = cleanHtmlTags second.title
  titleQuotes : titleQuotes first.title = titleQuotes second.title

variable {Digest : Type} [Fingerprints Digest]

theorem textHashes_dimensionQuotes (baseId : String) (kind : SourceKind) (dimension : Dimension)
    (fragments : List String) :
    (dimensionQuotes baseId kind dimension fragments).map (fun item => item.2.textHash) =
      fragments.map (Fingerprints.quote dimension : _ → Digest) := by
  refine List.ext_getElem ?_ fun index first second => ?_
  · simp [dimensionQuotes]
  · simp [dimensionQuotes]

/-- The quotes of a job in some of the dimensions. -/
def quotesIn (job : JobFields) (rowIndex : Int) (dimensions : List Dimension) :
    Dict String (Quote Digest) :=
  dimensions.flatMap fun dimension => dimensionQuotes s!"job:{rowIndex}" .job dimension
    (quoteFragments
      (jobDimensions job.title job.location (cleanHtmlTags job.description) dimension)
      s!"No explicit {dimension.text} evidence.")

theorem jobQuotes_eq (job : JobFields) (rowIndex : Int) :
    (jobQuotes job rowIndex : Dict String (Quote Digest)) =
      quotesIn job rowIndex [.skill, .experience] ++
        (dimensionQuotes s!"job:{rowIndex}" .job .intent (titleQuotes job.title) ++
          quotesIn job rowIndex [.language, .location, .transferability, .qualification]) := by
  have order : Dimension.all = [.skill, .experience] ++ .intent ::
      [.language, .location, .transferability, .qualification] := rfl
  unfold jobQuotes atomicQuotes
  rw [order, List.flatMap_append, List.flatMap_cons]
  rfl

/-- The quotes without the title depend on the location and the description alone. -/
theorem quotesIn_congr (location : first.location = second.location)
    (description : cleanHtmlTags first.description = cleanHtmlTags second.description)
    (rowIndex : Int) {dimensions : List Dimension} (titleless : Dimension.intent ∉ dimensions) :
    (quotesIn first rowIndex dimensions : Dict String (Quote Digest)) =
      quotesIn second rowIndex dimensions := by
  unfold quotesIn
  refine List.flatMap_congr fun dimension member => ?_
  have texts : jobDimensions first.title first.location (cleanHtmlTags first.description)
      dimension = jobDimensions second.title second.location (cleanHtmlTags second.description)
        dimension := by
    cases dimension with
    | intent => exact absurd member titleless
    | _ => simp only [jobDimensions, location, description]
  rw [texts]

/-- The same evidence makes the same document. -/
theorem jobEvidenceDocument_congr (same : SameEvidence first second)
    (rowIndex : Int) : (jobEvidenceDocument first rowIndex : EvidenceDocument Digest) =
      jobEvidenceDocument second rowIndex := by
  have quotes : (jobQuotes first rowIndex : Dict String (Quote Digest)) =
      jobQuotes second rowIndex := by
    rw [jobQuotes_eq, jobQuotes_eq, same.titleQuotes,
      quotesIn_congr same.location same.description _ (by decide),
      quotesIn_congr same.location same.description _ (by decide)]
  have source : jobSource first = jobSource second := by
    unfold jobSource
    rw [same.company, same.description, same.location, same.title, same.workload]
  unfold jobEvidenceDocument
  rw [quotes, source, same.description]

/-- Documents with the same two fingerprints hold the same evidence. -/
theorem SameEvidence.of_fingerprints [CollisionFree Digest] {rowIndex : Int}
    (source : (jobEvidenceDocument first rowIndex : EvidenceDocument Digest).sourceFingerprint =
      (jobEvidenceDocument second rowIndex).sourceFingerprint)
    (catalog : (jobEvidenceDocument first rowIndex : EvidenceDocument Digest).catalogFingerprint =
      (jobEvidenceDocument second rowIndex).catalogFingerprint) :
    SameEvidence first second := by
  obtain ⟨company, description, location, title, workload⟩ :=
    jobSource_inj (CollisionFree.source _ _ source)
  refine ⟨company, location, workload, description, title, ?_⟩
  have covered := congrArg CatalogPayload.quotes (CollisionFree.catalog _ _ catalog)
  have hashes := congrArg (List.map QuotePayload.textHash) covered
  simp only [List.map_map] at hashes
  rw [jobQuotes_eq, jobQuotes_eq, quotesIn_congr location description _ (by decide),
    quotesIn_congr location description _ (by decide)] at hashes
  simp only [List.map_append] at hashes
  have middle := List.append_cancel_right (List.append_cancel_left hashes)
  change (dimensionQuotes _ _ _ _).map (fun item => item.2.textHash) =
    (dimensionQuotes _ _ _ _).map (fun item => item.2.textHash) at middle
  rw [textHashes_dimensionQuotes, textHashes_dimensionQuotes] at middle
  exact List.map_injective_iff.mpr (CollisionFree.quote .intent) middle

/-- Two job documents are the same exactly when they hold the same evidence. -/
theorem jobEvidenceDocument_eq_iff [CollisionFree Digest] (first second : JobFields)
    (rowIndex : Int) : (jobEvidenceDocument first rowIndex : EvidenceDocument Digest) =
      jobEvidenceDocument second rowIndex ↔ SameEvidence first second := by
  constructor
  · intro same
    exact SameEvidence.of_fingerprints (congrArg EvidenceDocument.sourceFingerprint same)
      (congrArg EvidenceDocument.catalogFingerprint same)
  · intro same
    exact jobEvidenceDocument_congr same rowIndex

/-- The fingerprint of a match input tells job documents with different evidence apart. -/
theorem matchInputFingerprint_eq_iff [CollisionFree Digest] (candidate : EvidenceDocument Digest)
    (first second : JobFields) (rowIndex : Int) :
    matchInputFingerprint candidate (jobEvidenceDocument first rowIndex) =
      matchInputFingerprint candidate (jobEvidenceDocument second rowIndex) ↔
        SameEvidence first second := by
  constructor
  · intro same
    have inputs := CollisionFree.matchInput _ _ _ same
    exact SameEvidence.of_fingerprints (congrArg MatchInput.sourceFingerprint inputs)
      (congrArg MatchInput.catalogFingerprint inputs)
  · intro same
    rw [jobEvidenceDocument_congr same]

end

/-! ### What observations leave in the catalog -/

variable {row : ListingRow} {observation : CatalogObservation} {catalog : Catalog}

/-- A row after an observation is the one that was observed, or another one as it was. -/
theorem Catalog.mem_observe (member : row ∈ (catalog.observe observation).rows) :
    (row.key = observation.key ∧ row.fields = observation.fields) ∨
      (row ∈ catalog.rows ∧ row.key ≠ observation.key) := by
  change row ∈ observeRows catalog.rows observation at member
  unfold observeRows at member
  split at member
  · obtain ⟨old, inside, rfl⟩ := List.mem_map.mp member
    by_cases same : old.key = observation.key
    · rw [if_pos same]
      exact Or.inl ⟨same, rfl⟩
    · rw [if_neg same]
      exact Or.inr ⟨inside, same⟩
  · rename_i absent
    rcases List.mem_append.mp member with inside | made
    · refine Or.inr ⟨inside, fun same => absent ?_⟩
      rw [← same]
      exact List.mem_map_of_mem inside
    · rw [List.mem_singleton] at made
      rw [made]
      exact Or.inl ⟨rfl, rfl⟩

/-- A row keeps its identifier and its listing. -/
theorem Catalog.observe_keeps (observation : CatalogObservation) (member : row ∈ catalog.rows) :
    ∃ next ∈ (catalog.observe observation).rows, next.id = row.id ∧ next.key = row.key := by
  show ∃ next ∈ observeRows catalog.rows observation, _
  unfold observeRows
  split
  · refine ⟨_, List.mem_map_of_mem member, ?_⟩
    split <;> exact ⟨rfl, rfl⟩
  · exact ⟨row, List.mem_append_left _ member, rfl, rfl⟩

theorem Catalog.observeAll_keeps (observations : List CatalogObservation)
    (member : row ∈ catalog.rows) :
    ∃ next ∈ (catalog.observeAll observations).rows, next.id = row.id ∧ next.key = row.key := by
  induction observations generalizing catalog row with
  | nil => exact ⟨row, member, rfl, rfl⟩
  | cons observation rest inductionHypothesis =>
    obtain ⟨next, inside, id, key⟩ := catalog.observe_keeps observation member
    obtain ⟨last, there, lastId, lastKey⟩ := inductionHypothesis inside
    exact ⟨last, there, lastId.trans id, lastKey.trans key⟩

/-- When every observation of a listing writes the same columns, its row holds them. -/
theorem Catalog.observeAll_fields {observations : List CatalogObservation}
    {key : String × String} {fields : CatalogFields}
    (before : ∀ row ∈ catalog.rows, row.key = key → row.fields = fields)
    (same : ∀ observation ∈ observations, observation.key = key → observation.fields = fields) :
    ∀ row ∈ (catalog.observeAll observations).rows, row.key = key → row.fields = fields := by
  induction observations generalizing catalog with
  | nil => exact before
  | cons observation rest inductionHypothesis =>
    obtain ⟨first, others⟩ := List.forall_mem_cons.mp same
    refine @inductionHypothesis (catalog.observe observation) ?_ others
    intro row member keyed
    rcases Catalog.mem_observe member with ⟨own, written⟩ | ⟨inside, -⟩
    · rw [written]
      exact first (own.symm.trans keyed)
    · exact before row inside keyed

/-- Rows with the same identifier are the same row. -/
theorem Catalog.eq_of_id {first second : ListingRow}
    (here : first ∈ catalog.rows) (there : second ∈ catalog.rows) (id : first.id = second.id) :
    first = second :=
  List.inj_on_of_nodup_map catalog.idsDistinct here there id

variable {listing : JobListing} {captured : CapturedRecord}

/-- An upsert observes the listing, and captures the identifier of its row. -/
theorem upsertScrapedJob_ok [TextTables] [ContentDigest] {catalog acquired : Catalog}
    (upserted : upsertScrapedJob catalog listing = .ok (captured, acquired)) :
    ∃ observation, listingObservation listing = .ok observation ∧
      acquired = catalog.observe observation ∧
      ∃ row ∈ acquired.rows, row.key = observation.key ∧ row.id = captured.scrapedJobId := by
  unfold upsertScrapedJob at upserted
  obtain ⟨observation, observed, rest⟩ := bind_ok_iff.mp upserted
  cases found : (catalog.observe observation).rowOf observation.key with
  | none =>
    simp only [found] at rest
    cases rest
  | some row =>
    simp only [found] at rest
    cases rest
    have keyed : row.key = observation.key := by simpa using List.find?_some found
    exact ⟨observation, observed, rfl, row, List.mem_of_find?_eq_some found, keyed, rfl⟩

theorem loadCapturedCatalogRecord_some
    (loaded : loadCapturedCatalogRecord catalog captured = some row) :
    row ∈ catalog.rows ∧ row.id = captured.scrapedJobId := by
  unfold loadCapturedCatalogRecord at loaded
  split at loaded
  · rename_i other found
    split at loaded
    · cases loaded
      exact ⟨List.mem_of_find?_eq_some found, by simpa using List.find?_some found⟩
    · cases loaded
  · cases loaded

/-- The row that is loaded for a captured listing is the row of that listing. -/
theorem loadCapturedCatalogRecord_key [TextTables] [ContentDigest] {catalog acquired : Catalog}
    {later : List CatalogObservation}
    (upserted : upsertScrapedJob catalog listing = .ok (captured, acquired))
    (own : listingObservation listing = .ok observation)
    (loaded : loadCapturedCatalogRecord (acquired.observeAll later) captured = some row) :
    acquired = catalog.observe observation ∧ row ∈ (acquired.observeAll later).rows ∧
      row.key = observation.key := by
  obtain ⟨other, observed, made, first, member, keyed, id⟩ := upsertScrapedJob_ok upserted
  obtain rfl := Except.ok.inj (observed.symm.trans own)
  obtain ⟨inside, rowId⟩ := loadCapturedCatalogRecord_some loaded
  obtain ⟨last, there, lastId, lastKey⟩ := acquired.observeAll_keeps later member
  have same : row = last :=
    Catalog.eq_of_id inside there (rowId.trans (id.symm.trans lastId.symm))
  refine ⟨made, inside, ?_⟩
  rw [same, lastKey, keyed]

/-! ### What a listing leaves in the catalog -/

theorem getD_noneWhenEmpty (text : String) : (noneWhenEmpty text).getD "" = text := by
  unfold noneWhenEmpty
  split
  · rename_i empty
    exact empty.symm
  · rfl

/-- The columns that hold the evidence, as an observation of a listing writes them. -/
theorem listingObservation_ok [TextTables] [ContentDigest]
    (own : listingObservation listing = .ok observation) :
    observation.fields.title = cleanHtmlTags listing.title ∧
      observation.fields.company = Text.orElse (extractCompanyName listing) "Unknown" ∧
      observation.fields.description =
        (if extractListingDescriptionText listing = "" then none
          else some (cleanHtmlTags (extractListingDescriptionText listing))) ∧
      (∃ location, extractListingLocationString listing = some location ∧
        observation.fields.location.getD "" = location) ∧
      observation.fields.workload.getD "" = extractListingWorkloadString listing := by
  unfold listingObservation at own
  obtain ⟨-, -, own⟩ := bind_ok_iff.mp own
  obtain ⟨externalUrl, -, own⟩ := bind_ok_iff.mp own
  obtain ⟨applicationUrl, -, own⟩ := bind_ok_iff.mp own
  cases located : extractListingLocationString listing with
  | none =>
    simp only [located] at own
    cases own
  | some location =>
    simp only [located] at own
    cases own
    exact ⟨rfl, rfl, rfl, ⟨location, rfl, getD_noneWhenEmpty _⟩, getD_noneWhenEmpty _⟩

/-- A workload with equal bounds is written as one number. -/
theorem single_ne_range (bound : Int) : s!"{bound}-{bound}%" ≠ s!"{bound}%" := by
  intro same
  have lengths := congrArg String.length same
  simp only [String.length_append] at lengths
  have dash : (toString "-").length = 1 := rfl
  omega

/-! ### The evidence of an analysis -/

section

variable [CaseTables] [ClauseGrammar]

/-- The stored row still says what the listing said: the name of the company object, or
"Unknown" for a listing without one; the city, which a listing without a location does not have;
the two bounds of the workload; and, without tags, the description and the title. -/
structure EvidenceKept (listing : JobListing) (row : ListingRow) : Prop where
  company :
    match listing.company with
    | some company => company.name.getD "" = row.fields.company
    | none => "Unknown" = row.fields.company
  location :
    match listing.location with
    | some location => location.city = row.fields.location.getD ""
    | none => "Unknown" = row.fields.location.getD ""
  workload :
    match listing.employment with
    | some employment =>
      s!"{employment.workloadMin}-{employment.workloadMax}%" = row.fields.workload.getD ""
    | none => "Unknown" = row.fields.workload.getD ""
  description : cleanHtmlTags (listing.descriptions.head?.getD "") =
    cleanHtmlTags (row.fields.description.getD "")
  title : cleanHtmlTags listing.title = cleanHtmlTags row.fields.title
  titleQuotes : titleQuotes listing.title = titleQuotes row.fields.title

/-- A listing that is stored as it is read: a company object has a name, there is a location, the
workload is a range, and cleaning the title and the description once is enough. -/
structure SelfEvident (listing : JobListing) : Prop where
  company : ∀ company, listing.company = some company → company.name.getD "" ≠ ""
  location : listing.location ≠ none
  workload : ∃ employment, listing.employment = some employment ∧
    employment.workloadMin ≠ employment.workloadMax
  description : cleanHtmlTags (listing.descriptions.head?.getD "") =
    cleanHtmlTags (cleanHtmlTags (listing.descriptions.head?.getD ""))
  title : cleanHtmlTags listing.title = cleanHtmlTags (cleanHtmlTags listing.title)
  titleQuotes : titleQuotes listing.title = titleQuotes (cleanHtmlTags listing.title)

/-- The two jobs give the same evidence exactly when the row says what the listing said. -/
theorem sameEvidence_iff (listing : JobListing) (row : ListingRow) :
    SameEvidence (buildAnalysisJobMetadata listing).jobFields row.jobFields ↔
      EvidenceKept listing row := by
  constructor
  all_goals
    rintro ⟨company, location, workload, description, title, quotes⟩
    refine ⟨?_, ?_, ?_, description, title, quotes⟩
    · cases named : listing.company <;>
        simpa [buildAnalysisJobMetadata, AnalysisJobMetadata.jobFields, ListingRow.jobFields,
          named] using company
    · cases located : listing.location <;>
        simpa [buildAnalysisJobMetadata, AnalysisJobMetadata.jobFields, ListingRow.jobFields,
          located] using location
    · cases employed : listing.employment <;>
        simpa [buildAnalysisJobMetadata, AnalysisJobMetadata.jobFields, ListingRow.jobFields,
          employed] using workload

/-- A row that holds the columns of its own listing says what the listing said exactly when the
listing is stored as it is read. -/
theorem evidenceKept_own [TextTables] [ContentDigest]
    (own : listingObservation listing = .ok observation) (written : row.fields = observation.fields) :
    EvidenceKept listing row ↔ SelfEvident listing := by
  obtain ⟨title, company, description, ⟨location, located, stored⟩, workload⟩ :=
    listingObservation_ok own
  rw [← written] at title company description stored workload
  have companies : (match listing.company with
      | some company => company.name.getD "" = row.fields.company
      | none => "Unknown" = row.fields.company) ↔
      ∀ company, listing.company = some company → company.name.getD "" ≠ "" := by
    rw [company]
    unfold extractCompanyName Text.orElse
    cases listing.company with
    | none => simp
    | some company =>
      by_cases empty : company.name.getD "" = ""
      · simp [empty]
      · simp [empty]
  have locations : (match listing.location with
      | some location => location.city = row.fields.location.getD ""
      | none => "Unknown" = row.fields.location.getD "") ↔ listing.location ≠ none := by
    rw [stored]
    unfold extractListingLocationString at located
    cases placed : listing.location with
    | none =>
      rw [placed] at located
      cases located
      simp
    | some place =>
      rw [placed] at located
      by_cases empty : place.city = ""
      · simp [empty] at located
      · simp only [empty, if_false, Option.some.injEq] at located
        simp [located]
  have workloads : (match listing.employment with
      | some employment =>
        s!"{employment.workloadMin}-{employment.workloadMax}%" = row.fields.workload.getD ""
      | none => "Unknown" = row.fields.workload.getD "") ↔
      ∃ employment, listing.employment = some employment ∧
        employment.workloadMin ≠ employment.workloadMax := by
    rw [workload]
    unfold extractListingWorkloadString
    cases listing.employment with
    | none => simp
    | some employment =>
      by_cases equal : employment.workloadMin = employment.workloadMax
      · simp only [equal, if_true, Option.some.injEq, exists_eq_left', ne_eq, not_true_eq_false,
          iff_false]
        exact single_ne_range _
      · simp [equal]
  have descriptions : cleanHtmlTags (row.fields.description.getD "") =
      cleanHtmlTags (cleanHtmlTags (listing.descriptions.head?.getD "")) := by
    rw [description]
    unfold extractListingDescriptionText
    split
    · rename_i empty
      rw [empty]
      rfl
    · rfl
  constructor
  · rintro ⟨here, there, worked, described, titled, quoted⟩
    exact ⟨companies.mp here, locations.mp there, workloads.mp worked,
      described.trans descriptions, titled.trans (congrArg cleanHtmlTags title),
      quoted.trans (congrArg titleQuotes title)⟩
  · rintro ⟨here, there, worked, described, titled, quoted⟩
    exact ⟨companies.mpr here, locations.mpr there, workloads.mpr worked,
      described.trans descriptions.symm, titled.trans (congrArg cleanHtmlTags title.symm),
      quoted.trans (congrArg titleQuotes title.symm)⟩

/-- The job document of an analysis and the one that is rebuilt when the analysis is stored are the
same, with the same fingerprints, exactly when the row that the run captured still says what the
listing said; and while only this listing's columns are written, exactly when the listing is
stored as it is read. -/
theorem analysisEvidence_rebuilt [TextTables] [ContentDigest] {Digest : Type}
    [Fingerprints Digest] [CollisionFree Digest] {catalog acquired : Catalog}
    {listing : JobListing} {captured : CapturedRecord} {later : List CatalogObservation}
    {row : ListingRow}
    (upserted : upsertScrapedJob catalog listing = .ok (captured, acquired))
    (loaded : loadCapturedCatalogRecord (acquired.observeAll later) captured = some row)
    (candidate : EvidenceDocument Digest) (rowIndex : Int) :
    ((jobEvidenceDocument (buildAnalysisJobMetadata listing).jobFields rowIndex :
          EvidenceDocument Digest) =
        jobEvidenceDocument row.jobFields rowIndex ↔ EvidenceKept listing row) ∧
      (matchInputFingerprint candidate
          (jobEvidenceDocument (buildAnalysisJobMetadata listing).jobFields rowIndex) =
        matchInputFingerprint candidate (jobEvidenceDocument row.jobFields rowIndex) ↔
          EvidenceKept listing row) ∧
      ∀ observation, listingObservation listing = .ok observation →
        (∀ other ∈ later, other.key = observation.key → other.fields = observation.fields) →
          (EvidenceKept listing row ↔ SelfEvident listing) := by
  refine ⟨?_, ?_, ?_⟩
  · rw [jobEvidenceDocument_eq_iff, sameEvidence_iff]
  · rw [matchInputFingerprint_eq_iff, sameEvidence_iff]
  · intro observation own same
    obtain ⟨made, inside, keyed⟩ := loadCapturedCatalogRecord_key upserted own loaded
    refine evidenceKept_own own ?_
    refine Catalog.observeAll_fields ?_ same row inside keyed
    intro first member keyed
    rw [made] at member
    rcases Catalog.mem_observe member with ⟨-, written⟩ | ⟨-, other⟩
    · exact written
    · exact absurd keyed other

end

section

attribute [local instance] TextTables.plain ContentDigest.listing CaseTables.ascii
  ClauseGrammar.plain

/-- A listing with a workload. -/
def nurseListing (workloadMin workloadMax : Int) : JobListing where
  id := "4711"
  source := "jobroom"
  title := "Nurse"
  descriptions := ["<p>Night shifts</p>"]
  externalUrl := some "https://jobs.example/4711"
  formUrl := none
  company := some ⟨some "Spital"⟩
  location := some ⟨"Bern"⟩
  employment := some ⟨workloadMin, workloadMax⟩

/-- The row of that listing, under its first revision. -/
def nurseRow (workload : String) : ListingRow where
  id := 1
  platform := "jobroom"
  platformJobId := "4711"
  fields := {
    title := "Nurse"
    company := "Spital"
    description := some "Night shifts"
    location := some "Bern"
    workload := some workload
    externalUrl := "https://jobs.example/4711"
    applicationUrl := none }
  contentRevision := 1
  contentFingerprint := some s!"Nurse|Spital|Bern|{workload}|<p>Night shifts</p>"

/-- What a run captures of that row. -/
def nurseCaptured (workload : String) : CapturedRecord where
  scrapedJobId := 1
  platform := "jobroom"
  platformId := "4711"
  contentRevision := 1
  contentFingerprint := some s!"Nurse|Spital|Bern|{workload}|<p>Night shifts</p>"

/-- What a run observes of that listing. -/
def nurseObservation (workload : String) : CatalogObservation where
  platform := "jobroom"
  platformJobId := "4711"
  fields := (nurseRow workload).fields
  contentFingerprint := s!"Nurse|Spital|Bern|{workload}|<p>Night shifts</p>"

/-- A part-time listing that is only observed again agrees with its row. -/
theorem analysisEvidence_rebuilt_partTime :
    EvidenceKept (nurseListing 80 100) (nurseRow "80-100%") ∧
      ((jobEvidenceDocument (buildAnalysisJobMetadata (nurseListing 80 100)).jobFields 0 :
          EvidenceDocument PayloadDigest) =
        jobEvidenceDocument (nurseRow "80-100%").jobFields 0) := by
  have kept : EvidenceKept (nurseListing 80 100) (nurseRow "80-100%") :=
    ⟨rfl, rfl, rfl, by decide, by decide, by decide⟩
  have upserted : upsertScrapedJob Catalog.empty (nurseListing 80 100) =
      .ok (nurseCaptured "80-100%", Catalog.empty.observe (nurseObservation "80-100%")) := rfl
  have loaded : loadCapturedCatalogRecord ((Catalog.empty.observe
      (nurseObservation "80-100%")).observeAll [nurseObservation "80-100%"])
        (nurseCaptured "80-100%") = some (nurseRow "80-100%") := rfl
  have rebuilt := analysisEvidence_rebuilt upserted loaded
    (candidateEvidenceDocument ⟨"", "", "", ""⟩ : EvidenceDocument PayloadDigest) 0
  exact ⟨kept, rebuilt.1.mpr kept⟩

set_option maxRecDepth 4000 in
/-- A full-time listing is analysed with the workload "100-100%" and stored with "100%". -/
theorem analysisEvidence_differs :
    ∃ captured acquired row, upsertScrapedJob Catalog.empty (nurseListing 100 100) =
        .ok (captured, acquired) ∧
      loadCapturedCatalogRecord acquired captured = some row ∧
      (jobEvidenceDocument (buildAnalysisJobMetadata (nurseListing 100 100)).jobFields 0 :
          EvidenceDocument PayloadDigest).sourceFingerprint ≠
        (jobEvidenceDocument row.jobFields 0).sourceFingerprint := by
  have upserted : upsertScrapedJob Catalog.empty (nurseListing 100 100) =
      .ok (nurseCaptured "100%", Catalog.empty.observe (nurseObservation "100%")) := rfl
  have loaded : loadCapturedCatalogRecord (Catalog.empty.observe (nurseObservation "100%"))
      (nurseCaptured "100%") = some (nurseRow "100%") := rfl
  refine ⟨_, _, _, upserted, loaded, ?_⟩
  intro same
  have workloads := (jobSource_inj (PayloadDigest.source.inj same)).2.2.2.2
  revert workloads
  decide

end

end CareerOS
