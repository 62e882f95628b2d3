/-
This file is how a restore checks and brings back the search records of a
backup: its search profiles, the listings of the shared catalog and the jobs
between them. Their ids are numbers of the database the backup was made from, so
a row keeps its id where that id is free and gets a new one otherwise; a listing
the catalog already has is not inserted again. What comes out is a map from the
archived ids to the ids in use.

Two archived listings never end up on one listing of the catalog, since the map
keeps the identity the provider gave a listing and ids of the catalog are unique.
-/

import CareerOS.Library.Grouping
import CareerOS.Library.Json
import CareerOS.Library.Outcome
import CareerOS.Library.Timestamp

namespace CareerOS

/-- The refusals of a restore, with their messages. -/
inductive ArchiveError
  | invalid (detail : String)
  | conflict (detail : String)
  /-- The `KeyError` of an id that no map has. -/
  | missingKey
  /-- The `IntegrityError` of a unique constraint. -/
  | integrity
  /-- The `OverflowError` of a time that has no UTC value. -/
  | overflow
  deriving DecidableEq

/-! ### The rows -/

/-- A row of `scraped_jobs`; the content is what `_shared_listing_content` reads of it. -/
structure ArchivedListing where
  id : Int
  platform : String
  platformJobId : String
  content : Dict String Json
  deriving DecidableEq

/-- The identity the provider gave a listing. -/
def ArchivedListing.key (row : ArchivedListing) : String × String := (row.platform, row.platformJobId)

/-- An archived row of `jobs`. -/
structure ArchivedJob where
  id : Int
  searchProfileId : Option Int
  scrapedJobId : Option Int
  deriving DecidableEq

/-- An archived row of `applications`. -/
structure ArchivedApplication where
  id : String
  jobId : Option Int
  scrapedJobId : Option Int
  updatedAt : Option Timestamp
  deriving DecidableEq

/-- The decoded tables the search relationships are about. -/
structure SearchTables where
  searchProfiles : List Int
  scrapedJobs : List ArchivedListing
  jobs : List ArchivedJob
  applications : List ArchivedApplication
  deriving DecidableEq

/-- `CURRENT_ARCHIVE_VERSION`. -/
def currentArchiveVersion : Nat := 9

/-! ### The checks -/

/-- `_assert_unique_archive_ids`. -/
def assertUniqueArchiveIds {Id : Type} [DecidableEq Id] (tableName : String) (ids : List Id) :
    Except ArchiveError Unit :=
  refuseWhen (¬ids.Nodup) (.invalid ("Archive " ++ tableName ++ " contains duplicate IDs"))

/-- `_integer_ids`. -/
def integerIds (tableName : String) (ids : List Int) : Except ArchiveError Unit :=
  refuseWhen (∃ id ∈ ids, id ≤ 0)
    (.invalid ("Archive " ++ tableName ++ " row has an invalid integer ID"))

/-- The listings carry different provider identities. -/
def checkListings (listingKeys : List (String × String)) :
    List ArchivedListing → Except ArchiveError Unit
  | [] => .ok ()
  | row :: rest => do
    refuseWhen (row.platform = "" ∨ row.platformJobId = "")
      (.invalid "Archive scraped listing is missing its provider identity")
    refuseWhen (row.key ∈ listingKeys)
      (.invalid "Archive contains duplicate scraped listing identities")
    checkListings (row.key :: listingKeys) rest

/-- The jobs belong to archived profiles and listings; the listing of each job is kept. -/
def checkJobs (profileIds scrapedJobIds : List Int) (jobScrapedJobIds : Dict Int Int) :
    List ArchivedJob → Except ArchiveError (Dict Int Int)
  | [] => .ok jobScrapedJobIds
  | row :: rest => do
    refuseWhen (∃ profileId ∈ row.searchProfileId, profileId ∉ profileIds)
      (.invalid "Archive job references a missing search profile")
    match row.scrapedJobId with
    | none => .error (.invalid "Archive job references a missing scraped listing")
    | some scrapedJobId =>
      refuseWhen (scrapedJobId ∉ scrapedJobIds)
        (.invalid "Archive job references a missing scraped listing")
      checkJobs profileIds scrapedJobIds (Dict.assign row.id scrapedJobId jobScrapedJobIds) rest

/-- The applications belong to archived jobs, and no two of them claim one listing. -/
def checkApplications (formatVersion : Nat) (scrapedJobIds jobIds : List Int)
    (jobScrapedJobIds : Dict Int Int) (claimedLogicalIds : List Int) :
    List ArchivedApplication → Except ArchiveError Unit
  | [] => .ok ()
  | row :: rest => do
    refuseWhen (∃ jobId ∈ row.jobId, jobId ∉ jobIds)
      (.invalid "Archive application references a missing job")
    match if formatVersion < 5 then none else row.scrapedJobId with
    | none =>
      checkApplications formatVersion scrapedJobIds jobIds jobScrapedJobIds claimedLogicalIds rest
    | some scrapedJobId =>
      refuseWhen (scrapedJobId ∉ scrapedJobIds)
        (.invalid "Archive application references a missing scraped listing")
      refuseWhen (∃ jobId ∈ row.jobId, Dict.lookup jobId jobScrapedJobIds ≠ some scrapedJobId)
        (.invalid "Archive application logical opportunity does not match its job")
      refuseWhen (scrapedJobId ∈ claimedLogicalIds)
        (.invalid "Archive contains duplicate application logical opportunities")
      checkApplications formatVersion scrapedJobIds jobIds jobScrapedJobIds
        (scrapedJobId :: claimedLogicalIds) rest

/-- `_validate_search_relationships`. -/
def validateSearchRelationships (formatVersion : Nat) (decoded : SearchTables) :
    Except ArchiveError Unit :=
  if formatVersion < 3 then .ok ()
  else do
    let scrapedJobIds := decoded.scrapedJobs.map ArchivedListing.id
    let jobIds := decoded.jobs.map ArchivedJob.id
    integerIds "search_profiles" decoded.searchProfiles
    integerIds "scraped_jobs" scrapedJobIds
    integerIds "jobs" jobIds
    checkListings [] decoded.scrapedJobs
    let jobScrapedJobIds ← checkJobs decoded.searchProfiles scrapedJobIds [] decoded.jobs
    checkApplications formatVersion scrapedJobIds jobIds jobScrapedJobIds [] decoded.applications

/-- The checks of `_decode_payload` that are about the search relationships. -/
def decodeSearchTables (formatVersion : Nat) (decoded : SearchTables) :
    Except ArchiveError Unit := do
  assertUniqueArchiveIds "search_profiles" decoded.searchProfiles
  assertUniqueArchiveIds "scraped_jobs" (decoded.scrapedJobs.map ArchivedListing.id)
  assertUniqueArchiveIds "jobs" (decoded.jobs.map ArchivedJob.id)
  assertUniqueArchiveIds "applications" (decoded.applications.map ArchivedApplication.id)
  validateSearchRelationships formatVersion decoded

/-! ### What the checks accept -/

theorem checkListings_ok {rows : List ArchivedListing} : ∀ {listingKeys : List (String × String)},
    checkListings listingKeys rows = .ok () →
      (rows.map ArchivedListing.key).Nodup ∧ ∀ row ∈ rows, row.key ∉ listingKeys := by
  induction rows with
  | nil => exact fun _ => ⟨List.nodup_nil, nofun⟩
  | cons row rest inductionHypothesis =>
    intro listingKeys accepted
    simp only [checkListings, bind_ok_iff, refuseWhen_ok_iff] at accepted
    obtain ⟨_, -, _, fresh, accepted⟩ := accepted
    obtain ⟨distinct, others⟩ := inductionHypothesis accepted
    rw [List.map_cons, List.nodup_cons, List.forall_mem_cons]
    refine ⟨⟨fun member => ?_, distinct⟩, fresh, fun other member seen =>
      others other member (List.mem_cons_of_mem _ seen)⟩
    obtain ⟨other, inside, same⟩ := List.mem_map.mp member
    exact others other inside (same ▸ List.mem_cons_self)

/-- Every accepted job has an archived listing, and the map holds it. -/
theorem checkJobs_ok {profileIds scrapedJobIds : List Int} {rows : List ArchivedJob} :
    ∀ {table result : Dict Int Int}, (rows.map ArchivedJob.id).Nodup →
      checkJobs profileIds scrapedJobIds table rows = .ok result →
      (∀ row ∈ rows, (∀ profileId ∈ row.searchProfileId, profileId ∈ profileIds) ∧
        ∃ scrapedJobId ∈ scrapedJobIds, row.scrapedJobId = some scrapedJobId ∧
          Dict.lookup row.id result = some scrapedJobId) ∧
      ∀ jobId ∉ rows.map ArchivedJob.id, Dict.lookup jobId result = Dict.lookup jobId table := by
  induction rows with
  | nil =>
    intro table result _ accepted
    cases accepted
    exact ⟨nofun, fun _ _ => rfl⟩
  | cons row rest inductionHypothesis =>
    intro table result distinct accepted
    obtain ⟨fresh, restDistinct⟩ := List.nodup_cons.mp distinct
    cases listed : row.scrapedJobId with
    | none =>
      simp only [checkJobs, listed, bind_ok_iff] at accepted
      obtain ⟨_, _, impossible⟩ := accepted
      cases impossible
    | some scrapedJobId =>
      simp only [checkJobs, listed, bind_ok_iff, refuseWhen_ok_iff, not_not] at accepted
      obtain ⟨_, profiled, _, known, accepted⟩ := accepted
      obtain ⟨here, elsewhere⟩ := inductionHypothesis restDistinct accepted
      refine ⟨List.forall_mem_cons.mpr ⟨⟨fun profileId member => ?_, scrapedJobId, known, listed,
        ?_⟩, here⟩, fun jobId outside => ?_⟩
      · exact Classical.not_not.mp fun missing => profiled ⟨profileId, member, missing⟩
      · rw [elsewhere _ fresh, Dict.lookup_assign_self]
      · rw [List.map_cons, List.mem_cons, not_or] at outside
        rw [elsewhere _ outside.2, Dict.lookup_assign_of_ne outside.1]

/-- What is accepted of one application. -/
def ApplicationAccepted (scrapedJobIds jobIds : List Int) (jobScrapedJobIds : Dict Int Int)
    (row : ArchivedApplication) : Prop :=
  (∀ jobId ∈ row.jobId, jobId ∈ jobIds) ∧
    ∀ scrapedJobId ∈ row.scrapedJobId, scrapedJobId ∈ scrapedJobIds ∧
      ∀ jobId ∈ row.jobId, Dict.lookup jobId jobScrapedJobIds = some scrapedJobId

/-- Of two applications that name a listing, each names one of its own. -/
def ClaimsApart (first second : ArchivedApplication) : Prop :=
  first.scrapedJobId ≠ none → first.scrapedJobId ≠ second.scrapedJobId

theorem ClaimsApart.symm {first second : ArchivedApplication}
    (apart : ClaimsApart first second) : ClaimsApart second first :=
  fun named same => apart (same ▸ named) same.symm

/-- Accepted applications that name a listing name different ones. -/
theorem checkApplications_ok {formatVersion : Nat} {scrapedJobIds jobIds : List Int}
    {jobScrapedJobIds : Dict Int Int} (explicit : 5 ≤ formatVersion)
    {rows : List ArchivedApplication} : ∀ {claimed : List Int},
      checkApplications formatVersion scrapedJobIds jobIds jobScrapedJobIds claimed rows = .ok () →
      (∀ row ∈ rows, ApplicationAccepted scrapedJobIds jobIds jobScrapedJobIds row) ∧
      (∀ row ∈ rows, ∀ scrapedJobId ∈ row.scrapedJobId, scrapedJobId ∉ claimed) ∧
      rows.Pairwise ClaimsApart := by
  induction rows with
  | nil => exact fun _ => ⟨nofun, nofun, List.Pairwise.nil⟩
  | cons row rest inductionHypothesis =>
    intro claimed accepted
    have current : ¬formatVersion < 5 := Nat.not_lt.mpr explicit
    cases named : row.scrapedJobId with
    | none =>
      simp only [checkApplications, named, if_neg current, bind_ok_iff, refuseWhen_ok_iff]
        at accepted
      obtain ⟨_, jobbed, accepted⟩ := accepted
      obtain ⟨each, unclaimed, pairwise⟩ := inductionHypothesis accepted
      refine ⟨List.forall_mem_cons.mpr ⟨⟨fun jobId member => ?_, ?_⟩, each⟩,
        List.forall_mem_cons.mpr ⟨?_, unclaimed⟩, List.pairwise_cons.mpr ⟨?_, pairwise⟩⟩
      · exact Classical.not_not.mp fun missing => jobbed ⟨jobId, member, missing⟩
      · rw [named]
        exact nofun
      · rw [named]
        exact nofun
      · exact fun other _ explicitHere => absurd named explicitHere
    | some scrapedJobId =>
      simp only [checkApplications, named, if_neg current, bind_ok_iff, refuseWhen_ok_iff]
        at accepted
      obtain ⟨_, jobbed, _, known, _, matching, _, fresh, accepted⟩ := accepted
      obtain ⟨each, unclaimed, pairwise⟩ := inductionHypothesis accepted
      refine ⟨List.forall_mem_cons.mpr ⟨⟨fun jobId member => ?_, fun other same => ?_⟩, each⟩,
        List.forall_mem_cons.mpr ⟨fun other same => ?_, fun other member logical inside seen =>
          unclaimed other member logical inside (List.mem_cons_of_mem _ seen)⟩,
        List.pairwise_cons.mpr ⟨fun other member _ same => ?_, pairwise⟩⟩
      · exact Classical.not_not.mp fun missing => jobbed ⟨jobId, member, missing⟩
      · rw [named] at same
        cases same
        refine ⟨Classical.not_not.mp known, fun jobId member => ?_⟩
        exact Classical.not_not.mp fun differs => matching ⟨jobId, member, differs⟩
      · rw [named] at same
        cases same
        exact fresh
      · exact unclaimed other member scrapedJobId (same ▸ named) List.mem_cons_self

/-- The search records of an accepted archive of the current version. -/
structure SearchRelationships (decoded : SearchTables) : Prop where
  listings : (decoded.scrapedJobs.map ArchivedListing.id).Nodup
  keys : (decoded.scrapedJobs.map ArchivedListing.key).Nodup
  jobIds : (decoded.jobs.map ArchivedJob.id).Nodup
  applicationIds : (decoded.applications.map ArchivedApplication.id).Nodup
  jobs : ∀ row ∈ decoded.jobs, (∀ profileId ∈ row.searchProfileId,
      profileId ∈ decoded.searchProfiles) ∧
    ∃ scrapedJobId ∈ decoded.scrapedJobs.map ArchivedListing.id, row.scrapedJobId = some scrapedJobId
  applications : ∀ row ∈ decoded.applications,
    (∀ jobId ∈ row.jobId, jobId ∈ decoded.jobs.map ArchivedJob.id) ∧
      ∀ scrapedJobId ∈ row.scrapedJobId, scrapedJobId ∈ decoded.scrapedJobs.map ArchivedListing.id ∧
        ∀ jobId ∈ row.jobId, ∀ job ∈ decoded.jobs, job.id = jobId →
          job.scrapedJobId = some scrapedJobId
  claims : decoded.applications.Pairwise ClaimsApart

theorem decodeSearchTables_ok {decoded : SearchTables}
    (accepted : decodeSearchTables currentArchiveVersion decoded = .ok ()) :
    SearchRelationships decoded := by
  have current : ¬currentArchiveVersion < 3 := by decide
  simp only [decodeSearchTables, validateSearchRelationships, if_neg current, bind_ok_iff,
    assertUniqueArchiveIds, integerIds, refuseWhen_ok_iff, not_not] at accepted
  obtain ⟨_, -, _, listings, _, jobIds, _, applicationIds, _, -, _, -, _, -, _, listed,
    jobScrapedJobIds, jobs, applications⟩ := accepted
  obtain ⟨keys, -⟩ := checkListings_ok listed
  obtain ⟨eachJob, -⟩ := checkJobs_ok jobIds jobs
  obtain ⟨eachApplication, -, claims⟩ := checkApplications_ok (by decide) applications
  refine ⟨listings, keys, jobIds, applicationIds, fun row member => ?_, fun row member => ?_,
    claims⟩
  · obtain ⟨profiled, scrapedJobId, known, listed, -⟩ := eachJob row member
    exact ⟨profiled, scrapedJobId, known, listed⟩
  · obtain ⟨jobbed, explicit⟩ := eachApplication row member
    refine ⟨jobbed, fun scrapedJobId named => ⟨(explicit scrapedJobId named).1, ?_⟩⟩
    rintro jobId inside job jobMember rfl
    obtain ⟨-, listing, -, listed, kept⟩ := eachJob job jobMember
    rw [listed, ← kept]
    exact (explicit scrapedJobId named).2 job.id inside

/-! ### Bringing the rows back -/

/-- A row of `jobs`, as far as its unique constraint reads it. -/
structure StoredJob where
  id : Int
  userId : Nat
  searchProfileId : Option Int
  scrapedJobId : Int
  deriving DecidableEq

/-- The tables of the database that search records go to. -/
structure SearchCatalog where
  profileIds : List Int
  listings : List ArchivedListing
  jobs : List StoredJob
  /-- The ids of the listings are a primary key. -/
  distinct : (listings.map ArchivedListing.id).Nodup

/-- The maps from archived ids to restored ones. -/
structure RestoredIds where
  jobIds : Dict Int Int
  jobScrapedJobIds : Dict Int Int
  scrapedJobIds : Dict Int Int
  deriving DecidableEq

/-- The id the database gives a row that comes without one. -/
def nextId (ids : List Int) : Int := ids.foldl max 0 + 1

/-- The id `_add_remappable_row` inserts a row with. -/
def placeId (archivedId : Int) (ids : List Int) : Int :=
  if archivedId ∈ ids then nextId ids else archivedId

/-- A row that is inserted under an id. -/
def ArchivedListing.withId (row : ArchivedListing) (id : Int) : ArchivedListing :=
  { row with id := id }

/-- The search profiles of `_restore_search_records`. -/
def restoreProfiles (profileIds : List Int) (profileIdMap : Dict Int Int) :
    List Int → Dict Int Int
  | [] => profileIdMap
  | archivedId :: rest =>
    let id := placeId archivedId profileIds
    restoreProfiles (profileIds ++ [id]) (Dict.assign archivedId id profileIdMap) rest

/-- The listings of `_restore_search_records`. -/
def restoreListings (stored : List ArchivedListing) (scrapedJobIdMap : Dict Int Int) :
    List ArchivedListing → Except ArchiveError (List ArchivedListing × Dict Int Int)
  | [] => .ok (stored, scrapedJobIdMap)
  | row :: rest =>
    match stored.find? fun existing => existing.key = row.key with
    | some existing => do
      refuseWhen (existing.content ≠ row.content)
        (.conflict "A shared scraped listing already exists with different public content")
      restoreListings stored (Dict.assign row.id existing.id scrapedJobIdMap) rest
    | none =>
      let id := placeId row.id (stored.map ArchivedListing.id)
      restoreListings (stored ++ [row.withId id]) (Dict.assign row.id id scrapedJobIdMap) rest

/-- The profile a job is restored with. -/
def restoredProfile (profileIdMap : Dict Int Int) (row : ArchivedJob) :
    Except ArchiveError (Option Int) :=
  match row.searchProfileId with
  | none => .ok none
  | some profileId =>
    match Dict.lookup profileId profileIdMap with
    | none => .error .missingKey
    | some id => .ok (some id)

/-- The listing a job is restored with. -/
def restoredListing (scrapedJobIdMap : Dict Int Int) (row : ArchivedJob) :
    Except ArchiveError Int :=
  match row.scrapedJobId.bind fun archivedId => Dict.lookup archivedId scrapedJobIdMap with
  | none => .error .missingKey
  | some id => .ok id

/-- `uq_job_user_scraped_profile`, where no two null profiles are equal. -/
def StoredJob.clashes (first second : StoredJob) : Prop :=
  first.userId = second.userId ∧ first.scrapedJobId = second.scrapedJobId ∧
    first.searchProfileId ≠ none ∧ first.searchProfileId = second.searchProfileId

instance (first second : StoredJob) : Decidable (first.clashes second) := by
  unfold StoredJob.clashes
  infer_instance

/-- The jobs of `_restore_search_records`. -/
def restoreJobs (userId : Nat) (profileIdMap : Dict Int Int) (stored : List StoredJob)
    (ids : RestoredIds) : List ArchivedJob → Except ArchiveError RestoredIds
  | [] => .ok ids
  | row :: rest => do
    let profileId ← restoredProfile profileIdMap row
    let scrapedJobId ← restoredListing ids.scrapedJobIds row
    let job : StoredJob :=
      { id := placeId row.id (stored.map StoredJob.id)
        userId := userId
        searchProfileId := profileId
        scrapedJobId := scrapedJobId }
    refuseWhen (∃ other ∈ stored, job.clashes other) .integrity
    restoreJobs userId profileIdMap (stored ++ [job])
      { ids with
        jobIds := Dict.assign row.id job.id ids.jobIds
        jobScrapedJobIds := Dict.assign row.id scrapedJobId ids.jobScrapedJobIds } rest

/-- `_restore_search_records`. -/
def restoreSearchRecords (catalog : SearchCatalog) (userId : Nat) (decoded : SearchTables) :
    Except ArchiveError RestoredIds := do
  let profileIdMap := restoreProfiles catalog.profileIds [] decoded.searchProfiles
  let (_, scrapedJobIdMap) ← restoreListings catalog.listings [] decoded.scrapedJobs
  restoreJobs userId profileIdMap catalog.jobs
    { jobIds := [], jobScrapedJobIds := [], scrapedJobIds := scrapedJobIdMap } decoded.jobs

/-! ### What the maps hold -/

theorem nextId_not_mem (ids : List Int) : nextId ids ∉ ids := by
  have bound : ∀ (rest : List Int) (start : Int), start ≤ rest.foldl max start ∧
      ∀ id ∈ rest, id ≤ rest.foldl max start := by
    intro rest
    induction rest with
    | nil => exact fun start => ⟨le_rfl, nofun⟩
    | cons first rest inductionHypothesis =>
      intro start
      obtain ⟨above, others⟩ := inductionHypothesis (max start first)
      exact ⟨(le_max_left _ _).trans above,
        List.forall_mem_cons.mpr ⟨(le_max_right _ _).trans above, others⟩⟩
  intro member
  have := (bound ids 0).2 _ member
  unfold nextId at this
  omega

theorem placeId_not_mem (archivedId : Int) (ids : List Int) : placeId archivedId ids ∉ ids := by
  unfold placeId
  split
  · exact nextId_not_mem ids
  · assumption

/-- Every archived listing is found under its restored id with the identity it had, and ids
of the catalog stay different. -/
theorem restoreListings_ok {rows : List ArchivedListing} :
    ∀ {stored stored' : List ArchivedListing} {table table' : Dict Int Int},
      (rows.map ArchivedListing.id).Nodup → (stored.map ArchivedListing.id).Nodup →
      restoreListings stored table rows = .ok (stored', table') →
      (stored'.map ArchivedListing.id).Nodup ∧ (∀ row ∈ stored, row ∈ stored') ∧
      (∀ row ∈ rows, ∃ placed ∈ stored', placed.key = row.key ∧
        Dict.lookup row.id table' = some placed.id) ∧
      ∀ id ∉ rows.map ArchivedListing.id, Dict.lookup id table' = Dict.lookup id table := by
  induction rows with
  | nil =>
    intro stored stored' table table' _ unique restored
    cases restored
    exact ⟨unique, fun _ member => member, nofun, fun _ _ => rfl⟩
  | cons row rest inductionHypothesis =>
    intro stored stored' table table' distinct unique restored
    obtain ⟨fresh, restDistinct⟩ := List.nodup_cons.mp distinct
    unfold restoreListings at restored
    cases found : stored.find? fun existing => existing.key = row.key with
    | some existing =>
      simp only [found, bind_ok_iff, refuseWhen_ok_iff] at restored
      obtain ⟨_, -, restored⟩ := restored
      obtain ⟨unique', kept, here, elsewhere⟩ := inductionHypothesis restDistinct unique restored
      refine ⟨unique', kept, List.forall_mem_cons.mpr ⟨⟨existing,
        kept existing (List.mem_of_find?_eq_some found), ?_, ?_⟩, here⟩, fun id outside => ?_⟩
      · simpa using List.find?_some found
      · rw [elsewhere _ fresh, Dict.lookup_assign_self]
      · rw [List.map_cons, List.mem_cons, not_or] at outside
        rw [elsewhere _ outside.2, Dict.lookup_assign_of_ne outside.1]
    | none =>
      simp only [found] at restored
      have free := placeId_not_mem row.id (stored.map ArchivedListing.id)
      have extended : ((stored ++ [row.withId (placeId row.id
          (stored.map ArchivedListing.id))]).map ArchivedListing.id).Nodup := by
        rw [List.map_append, List.map_singleton]
        exact List.Nodup.append unique (List.nodup_singleton _)
          (List.disjoint_singleton.mpr free)
      obtain ⟨unique', kept, here, elsewhere⟩ := inductionHypothesis restDistinct extended restored
      refine ⟨unique', fun other member => kept other (List.mem_append_left _ member),
        List.forall_mem_cons.mpr ⟨⟨_, kept _ (List.mem_append_right _ (List.mem_singleton_self _)),
          rfl, ?_⟩, here⟩, fun id outside => ?_⟩
      · rw [elsewhere _ fresh, Dict.lookup_assign_self]
        rfl
      · rw [List.map_cons, List.mem_cons, not_or] at outside
        rw [elsewhere _ outside.2, Dict.lookup_assign_of_ne outside.1]

theorem restoredListing_ok {table : Dict Int Int} {row : ArchivedJob} {id : Int}
    (restored : restoredListing table row = .ok id) :
    (row.scrapedJobId.bind fun archivedId => Dict.lookup archivedId table) = some id := by
  unfold restoredListing at restored
  split at restored
  · cases restored
  · rename_i found
    cases restored
    exact found

/-- A restored job belongs to the restored row of the listing it belonged to. -/
theorem restoreJobs_ok {userId : Nat} {profileIdMap : Dict Int Int} {rows : List ArchivedJob} :
    ∀ {stored : List StoredJob} {ids ids' : RestoredIds}, (rows.map ArchivedJob.id).Nodup →
      restoreJobs userId profileIdMap stored ids rows = .ok ids' →
      ids'.scrapedJobIds = ids.scrapedJobIds ∧
      (∀ row ∈ rows, ∃ id, Dict.lookup row.id ids'.jobScrapedJobIds = some id ∧
        (row.scrapedJobId.bind fun archivedId => Dict.lookup archivedId ids.scrapedJobIds) =
          some id) ∧
      ∀ jobId ∉ rows.map ArchivedJob.id,
        Dict.lookup jobId ids'.jobScrapedJobIds = Dict.lookup jobId ids.jobScrapedJobIds := by
  induction rows with
  | nil =>
    intro stored ids ids' _ restored
    cases restored
    exact ⟨rfl, nofun, fun _ _ => rfl⟩
  | cons row rest inductionHypothesis =>
    intro stored ids ids' distinct restored
    obtain ⟨fresh, restDistinct⟩ := List.nodup_cons.mp distinct
    simp only [restoreJobs, bind_ok_iff] at restored
    obtain ⟨profileId, -, scrapedJobId, listed, _, -, restored⟩ := restored
    obtain ⟨same, here, elsewhere⟩ := inductionHypothesis restDistinct restored
    refine ⟨same, List.forall_mem_cons.mpr ⟨⟨scrapedJobId, ?_, restoredListing_ok listed⟩, here⟩,
      fun jobId outside => ?_⟩
    · rw [elsewhere _ fresh]
      exact Dict.lookup_assign_self _ _ _
    · rw [List.map_cons, List.mem_cons, not_or] at outside
      rw [elsewhere _ outside.2]
      exact Dict.lookup_assign_of_ne outside.1 _ _

/-- The maps of a restore lead every archived listing to a listing of its own, and every job
to the listing it belonged to. -/
structure RestoredListings (decoded : SearchTables) (ids : RestoredIds) : Prop where
  listed : ∀ listing ∈ decoded.scrapedJobs.map ArchivedListing.id,
    ∃ id, Dict.lookup listing ids.scrapedJobIds = some id
  injective : ∀ first ∈ decoded.scrapedJobs.map ArchivedListing.id,
    ∀ second ∈ decoded.scrapedJobs.map ArchivedListing.id,
      Dict.lookup first ids.scrapedJobIds = Dict.lookup second ids.scrapedJobIds → first = second
  jobs : ∀ row ∈ decoded.jobs, Dict.lookup row.id ids.jobScrapedJobIds =
    row.scrapedJobId.bind fun archivedId => Dict.lookup archivedId ids.scrapedJobIds

theorem restoreSearchRecords_ok {catalog : SearchCatalog} {userId : Nat} {decoded : SearchTables}
    {ids : RestoredIds} (related : SearchRelationships decoded)
    (restored : restoreSearchRecords catalog userId decoded = .ok ids) :
    RestoredListings decoded ids := by
  simp only [restoreSearchRecords, bind_ok_iff] at restored
  obtain ⟨⟨stored, table⟩, listings, jobs⟩ := restored
  obtain ⟨unique, -, placed, -⟩ := restoreListings_ok related.listings catalog.distinct listings
  obtain ⟨same, each, -⟩ := restoreJobs_ok related.jobIds jobs
  rw [show table = ids.scrapedJobIds from same.symm] at placed each
  refine ⟨fun listing member => ?_, fun first firstMember second secondMember equal => ?_,
    fun row member => ?_⟩
  · obtain ⟨row, inside, rfl⟩ := List.mem_map.mp member
    obtain ⟨found, -, -, read⟩ := placed row inside
    exact ⟨found.id, read⟩
  · obtain ⟨row, inside, rfl⟩ := List.mem_map.mp firstMember
    obtain ⟨other, otherInside, rfl⟩ := List.mem_map.mp secondMember
    obtain ⟨found, foundInside, key, read⟩ := placed row inside
    obtain ⟨otherFound, otherFoundInside, otherKey, otherRead⟩ := placed other otherInside
    rw [read, otherRead, Option.some.injEq] at equal
    have sameFound : found = otherFound :=
      List.inj_on_of_nodup_map unique foundInside otherFoundInside equal
    have sameKey : row.key = other.key := by rw [← key, ← otherKey, sameFound]
    rw [List.inj_on_of_nodup_map related.keys inside otherInside sameKey]
  · obtain ⟨id, read, listed⟩ := each row member
    exact read.trans listed.symm

end CareerOS
