/-
This file is which application of a backup gets the scraped listing it is about.
Only one application of an owner can have a listing, and a backup can hold
several that lead to it: at most one that names the listing itself, and older
ones that only lead to it by their job. The restore gives the listing to the one
that was updated last, the smallest id deciding between equal times.

The map is computed from ids of the database, but which application owns a
listing is a matter of the archive alone: it depends neither on the order of its
rows nor on the ids the database hands out. An application that names its
listing keeps it unless one that does not name it was updated later.
-/

import CareerOS.Portability.SearchRecords

namespace CareerOS

/-! ### The map of the restore -/

/-- The listing an application leads to, by its own id or by that of its job. -/
def logicalId (ids : RestoredIds) (row : ArchivedApplication) : Except ArchiveError (Option Int) :=
  match row.scrapedJobId with
  | some archivedId =>
    match Dict.lookup archivedId ids.scrapedJobIds with
    | some id => .ok (some id)
    | none => .error .missingKey
  | none => .ok (row.jobId.bind fun jobId => Dict.lookup jobId ids.jobScrapedJobIds)

/-- `aware_utc(row.get("updated_at")) or minimum_timestamp`. -/
def updatedKey (row : ArchivedApplication) : Option DateTime :=
  match row.updatedAt with
  | none => some DateTime.min
  | some value => awareUtc value

/-- A row with its logical id. -/
def withLogicalId (ids : RestoredIds) (row : ArchivedApplication) :
    Except ArchiveError (Option Int × ArchivedApplication) :=
  (logicalId ids row).map fun logical => (logical, row)

/-- A row with the time it is sorted by. -/
def withUpdatedKey (row : ArchivedApplication) :
    Except ArchiveError (DateTime × ArchivedApplication) :=
  match updatedKey row with
  | some time => .ok (time, row)
  | none => .error .overflow

/-- The first row of a group once it is sorted, with the listing of the group. -/
def groupOwner (group : Int × List (Option Int × ArchivedApplication)) :
    Except ArchiveError (String × Option Int) := do
  let keyed ← (group.2.map Prod.snd).mapM withUpdatedKey
  match Ranking.ranked Prod.fst (fun row => row.2.id) keyed with
  | first :: _ => .ok (first.2.id, some group.1)
  | [] => .error .missingKey

/-- `_application_logical_identity_map`. -/
def applicationLogicalIdentityMap (ids : RestoredIds) (applications : List ArchivedApplication) :
    Except ArchiveError (Dict String (Option Int)) := do
  let rows ← applications.mapM (withLogicalId ids)
  let owners ← (Dict.groupFrom Prod.fst [] rows).mapM groupOwner
  .ok (Dict.assignAll (applications.foldl (fun table row => Dict.assign row.id none table) [])
    owners)

/-! ### What the map holds -/

/-- The time an application is sorted by. -/
def sortTime (row : ArchivedApplication) : DateTime := (updatedKey row).getD DateTime.min

/-- One application was updated after another one, or at the same time with a smaller id. -/
def UpdatedLater (first second : ArchivedApplication) : Prop :=
  Ranking.Ahead sortTime ArchivedApplication.id first second

theorem UpdatedLater.not_symm {first second : ArchivedApplication}
    (later : UpdatedLater first second) : ¬UpdatedLater second first :=
  Ranking.Ahead.not_symm later

variable {row : ArchivedApplication}

theorem withUpdatedKey_ok {keyed : DateTime × ArchivedApplication}
    (sorted : withUpdatedKey row = .ok keyed) : keyed = (sortTime row, row) := by
  unfold withUpdatedKey at sorted
  unfold sortTime
  cases time : updatedKey row with
  | none =>
    rw [time] at sorted
    cases sorted
  | some moment =>
    rw [time] at sorted
    cases sorted
    rfl

variable {ids : RestoredIds}

theorem withLogicalId_ok {found : Option Int × ArchivedApplication} :
    withLogicalId ids row = .ok found ↔ logicalId ids row = .ok found.1 ∧ row = found.2 := by
  unfold withLogicalId
  rw [map_ok_iff]
  constructor
  · rintro ⟨logical, read, rfl⟩
    exact ⟨read, rfl⟩
  · rintro ⟨read, rfl⟩
    exact ⟨_, read, rfl⟩

variable {logical : Int}

/-- The owner of a group is the one of its rows that was updated last. -/
theorem groupOwner_ok {rows : List (Option Int × ArchivedApplication)} {owner : String × Option Int}
    (named : ∀ first ∈ rows, ∀ second ∈ rows, first.2.id = second.2.id → first.2 = second.2)
    (owned : groupOwner (logical, rows) = .ok owner) :
    ∃ first ∈ rows, owner = (first.2.id, some logical) ∧
      ∀ other ∈ rows, other.2 = first.2 ∨ UpdatedLater first.2 other.2 := by
  simp only [groupOwner, bind_ok_iff] at owned
  obtain ⟨keyed, sorted, owned⟩ := owned
  have keyedOf : ∀ {entry : DateTime × ArchivedApplication}, entry ∈ keyed ↔
      ∃ row ∈ rows, withUpdatedKey row.2 = .ok entry := by
    intro entry
    rw [mem_of_mapM_ok sorted]
    constructor
    · rintro ⟨_, member, stepped⟩
      obtain ⟨row, inside, rfl⟩ := List.mem_map.mp member
      exact ⟨row, inside, stepped⟩
    · rintro ⟨row, inside, stepped⟩
      exact ⟨row.2, List.mem_map_of_mem inside, stepped⟩
  split at owned
  · rename_i first rest ranked
    cases owned
    obtain ⟨here, ahead⟩ := Ranking.ahead_of_head (fun entry member other otherMember same => by
      obtain ⟨row, inside, stepped⟩ := keyedOf.mp member
      obtain ⟨second, secondInside, secondStepped⟩ := keyedOf.mp otherMember
      have entryOf := withUpdatedKey_ok stepped
      have otherOf := withUpdatedKey_ok secondStepped
      subst entryOf otherOf
      show (sortTime row.2, row.2) = (sortTime second.2, second.2)
      rw [named row inside second secondInside same]) ranked
    obtain ⟨row, inside, stepped⟩ := keyedOf.mp here
    have firstOf := withUpdatedKey_ok stepped
    subst firstOf
    refine ⟨row, inside, rfl, fun other otherInside => ?_⟩
    obtain ⟨entries, success⟩ := (mapM_ok_iff (rows.map Prod.snd)).mp ⟨keyed, sorted⟩ other.2
      (List.mem_map_of_mem otherInside)
    have otherOf := withUpdatedKey_ok success
    subst otherOf
    rcases ahead _ (keyedOf.mpr ⟨other, otherInside, success⟩) with same | later
    · exact Or.inl (Prod.mk.inj same).2
    · exact Or.inr later
  · cases owned

/-- The application the map gives a listing of the database to. -/
def OwnsLogicalId (ids : RestoredIds) (applications : List ArchivedApplication)
    (row : ArchivedApplication) (logical : Int) : Prop :=
  logicalId ids row = .ok (some logical) ∧
    ∀ other ∈ applications, logicalId ids other = .ok (some logical) →
      other = row ∨ UpdatedLater row other

theorem lookup_nones {applications : List ArchivedApplication} {id : String} :
    ∀ {table : Dict String (Option Int)}, Dict.lookup id table ≠ some (some logical) →
      Dict.lookup id (applications.foldl (fun table row => Dict.assign row.id none table) table) ≠
        some (some logical) := by
  induction applications with
  | nil => exact fun absent => absent
  | cons row rest inductionHypothesis =>
    intro table absent
    refine inductionHypothesis ?_
    by_cases same : id = row.id
    · subst same
      rw [Dict.lookup_assign_self]
      nofun
    · rw [Dict.lookup_assign_of_ne same]
      exact absent

/-- The map gives a listing to the application that leads to it and was updated last. -/
theorem lookup_applicationLogicalIdentityMap
    {applications : List ArchivedApplication} {identities : Dict String (Option Int)}
    (distinct : (applications.map ArchivedApplication.id).Nodup)
    (mapped : applicationLogicalIdentityMap ids applications = .ok identities)
    (member : row ∈ applications) :
    Dict.lookup row.id identities = some (some logical) ↔
      OwnsLogicalId ids applications row logical := by
  simp only [applicationLogicalIdentityMap, bind_ok_iff, Except.ok.injEq] at mapped
  obtain ⟨rows, listed, owners, owned, rfl⟩ := mapped
  have rowsOf : ∀ {found : Option Int} {other : ArchivedApplication}, (found, other) ∈ rows ↔
      other ∈ applications ∧ logicalId ids other = .ok found := by
    intro found other
    rw [mem_of_mapM_ok listed]
    simp only [withLogicalId_ok, exists_eq_right_right]
  have named : ∀ first ∈ rows, ∀ second ∈ rows, first.2.id = second.2.id →
      first.2 = second.2 := fun first firstMember second secondMember same =>
    List.inj_on_of_nodup_map distinct (rowsOf.mp firstMember).1 (rowsOf.mp secondMember).1 same
  -- an item written by the loop names the owner of its group
  have ownersOf : ∀ {id : String} {found : Option Int}, (id, found) ∈ owners →
      ∃ other ∈ applications, ∃ listing, id = other.id ∧ found = some listing ∧
        OwnsLogicalId ids applications other listing := by
    intro id found inside
    obtain ⟨⟨listing, group⟩, grouped, stepped⟩ := (mem_of_mapM_ok owned).mp inside
    obtain ⟨rfl, -⟩ := Dict.mem_groupFrom_nil.mp grouped
    obtain ⟨first, firstInside, same, ahead⟩ := groupOwner_ok (fun first firstMember second
      secondMember => named first (Dict.mem_having.mp firstMember).1 second
        (Dict.mem_having.mp secondMember).1) stepped
    obtain ⟨firstRow, firstLogical⟩ := Dict.mem_having.mp firstInside
    obtain ⟨found', other⟩ := first
    cases firstLogical
    cases same
    obtain ⟨inApplications, read⟩ := rowsOf.mp firstRow
    exact ⟨other, inApplications, listing, rfl, rfl, read, fun third thirdMember thirdRead =>
      ahead (some listing, third) (Dict.mem_having.mpr ⟨rowsOf.mpr ⟨thirdMember, thirdRead⟩, rfl⟩)⟩
  have only : ∀ {found : Option Int} {listing : Int}, logicalId ids row = .ok (some listing) →
      (row.id, found) ∈ owners → found = some listing := by
    intro found listing read inside
    obtain ⟨other, otherMember, otherListing, sameId, rfl, owner⟩ := ownersOf inside
    rw [List.inj_on_of_nodup_map distinct member otherMember sameId, owner.1] at read
    exact Except.ok.inj read
  constructor
  · intro read
    by_cases written : row.id ∈ owners.map Prod.fst
    · obtain ⟨⟨_, found⟩, inside, same⟩ := List.mem_map.mp written
      cases same
      obtain ⟨other, otherMember, listing, sameId, rfl, owner⟩ := ownersOf inside
      have sameRow := List.inj_on_of_nodup_map distinct member otherMember sameId
      subst sameRow
      rw [Dict.lookup_assignAll_of_mem owners _ inside fun _ => only owner.1] at read
      cases read
      exact owner
    · rw [Dict.lookup_assignAll_of_not_mem owners _ written] at read
      exact absurd read (lookup_nones nofun)
  · intro owner
    have here : (some logical, row) ∈ Dict.having Prod.fst logical rows :=
      Dict.mem_having.mpr ⟨rowsOf.mpr ⟨member, owner.1⟩, rfl⟩
    have grouped : (logical, Dict.having Prod.fst logical rows) ∈ Dict.groupFrom Prod.fst [] rows :=
      Dict.mem_groupFrom_nil.mpr ⟨rfl, List.ne_nil_of_mem here⟩
    obtain ⟨item, stepped⟩ := (mapM_ok_iff _).mp ⟨owners, owned⟩ _ grouped
    obtain ⟨first, firstInside, same, ahead⟩ := groupOwner_ok (fun first firstMember second
      secondMember => named first (Dict.mem_having.mp firstMember).1 second
        (Dict.mem_having.mp secondMember).1) stepped
    obtain ⟨firstRow, firstLogical⟩ := Dict.mem_having.mp firstInside
    obtain ⟨found, other⟩ := first
    cases firstLogical
    obtain ⟨otherMember, otherRead⟩ := rowsOf.mp firstRow
    have sameRow : other = row := by
      rcases owner.2 other otherMember otherRead with same | later
      · exact same
      · rcases ahead _ here with same | earlier
        · exact same.symm
        · exact absurd later earlier.not_symm
    subst sameRow
    have inside : (other.id, some logical) ∈ owners :=
      (mem_of_mapM_ok owned).mpr ⟨_, grouped, same ▸ stepped⟩
    exact Dict.lookup_assignAll_of_mem owners _ inside fun _ => only owner.1

/-! ### Which listing an archived application leads to -/

/-- An archived application leads to the listing it names, or to that of its job. -/
def LeadsTo (decoded : SearchTables) (row : ArchivedApplication) (listing : Int) : Prop :=
  row.scrapedJobId = some listing ∨ (row.scrapedJobId = none ∧
    ∃ job ∈ decoded.jobs, row.jobId = some job.id ∧ job.scrapedJobId = some listing)

variable {decoded : SearchTables}

theorem LeadsTo.listed (related : SearchRelationships decoded)
    (member : row ∈ decoded.applications) {listing : Int} (leads : LeadsTo decoded row listing) :
    listing ∈ decoded.scrapedJobs.map ArchivedListing.id := by
  rcases leads with named | ⟨-, job, inside, -, listed⟩
  · exact ((related.applications row member).2 listing named).1
  · obtain ⟨-, known, isKnown, same⟩ := related.jobs job inside
    rw [listed, Option.some.injEq] at same
    exact same ▸ isKnown

/-- The id of the database an application leads to is that of its archived listing. -/
theorem logicalId_some_iff
    (related : SearchRelationships decoded) (restored : RestoredListings decoded ids)
    (member : row ∈ decoded.applications) :
    logicalId ids row = .ok (some logical) ↔ ∃ listing, LeadsTo decoded row listing ∧
      Dict.lookup listing ids.scrapedJobIds = some logical := by
  cases named : row.scrapedJobId with
  | some archivedId =>
    have leads : ∀ listing, LeadsTo decoded row listing ↔ archivedId = listing := by
      intro listing
      simp only [LeadsTo, named, Option.some.injEq, reduceCtorEq, false_and, or_false]
    simp only [logicalId, named, leads, exists_eq_left']
    cases Dict.lookup archivedId ids.scrapedJobIds with
    | none => simp
    | some id => simp
  | none =>
    simp only [logicalId, named, LeadsTo, reduceCtorEq, false_or, true_and, Except.ok.injEq]
    constructor
    · intro read
      obtain ⟨jobId, jobbed, read⟩ := Option.bind_eq_some_iff.mp read
      obtain ⟨job, inside, rfl⟩ := List.mem_map.mp
        ((related.applications row member).1 jobId jobbed)
      rw [restored.jobs job inside] at read
      obtain ⟨listing, listed, found⟩ := Option.bind_eq_some_iff.mp read
      exact ⟨listing, ⟨job, inside, jobbed, listed⟩, found⟩
    · rintro ⟨listing, ⟨job, inside, jobbed, listed⟩, found⟩
      rw [jobbed, Option.bind_some, restored.jobs job inside, listed, Option.bind_some, found]

theorem logicalId_ok
    (related : SearchRelationships decoded) (restored : RestoredListings decoded ids)
    (member : row ∈ decoded.applications) :
    ∃ found, logicalId ids row = .ok found := by
  unfold logicalId
  split
  · rename_i archivedId named
    obtain ⟨id, found⟩ := restored.listed archivedId
      ((related.applications row member).2 archivedId named).1
    rw [found]
    exact ⟨_, rfl⟩
  · exact ⟨_, rfl⟩

/-- Every listing is given away when every application has a time to sort by. -/
theorem applicationLogicalIdentityMap_ok
    (related : SearchRelationships decoded) (restored : RestoredListings decoded ids)
    (timed : ∀ row ∈ decoded.applications, updatedKey row ≠ none) :
    ∃ identities, applicationLogicalIdentityMap ids decoded.applications = .ok identities := by
  obtain ⟨rows, listed⟩ : ∃ rows, decoded.applications.mapM (withLogicalId ids) = .ok rows :=
    (mapM_ok_iff _).mpr fun row member => by
      obtain ⟨found, read⟩ := logicalId_ok related restored member
      exact ⟨(found, row), withLogicalId_ok.mpr ⟨read, rfl⟩⟩
  obtain ⟨owners, owned⟩ : ∃ owners,
      (Dict.groupFrom Prod.fst [] rows).mapM groupOwner = .ok owners :=
    (mapM_ok_iff _).mpr fun group grouped => by
      obtain ⟨logical, members⟩ := group
      obtain ⟨rfl, filled⟩ := Dict.mem_groupFrom_nil.mp grouped
      obtain ⟨keyed, sorted⟩ : ∃ keyed,
          ((Dict.having Prod.fst logical rows).map Prod.snd).mapM withUpdatedKey = .ok keyed :=
        (mapM_ok_iff _).mpr fun row member => by
        obtain ⟨⟨found, other⟩, inside, rfl⟩ := List.mem_map.mp member
        obtain ⟨source, isSource, stepped⟩ :=
          (mem_of_mapM_ok listed).mp (Dict.mem_having.mp inside).1
        obtain ⟨-, rfl⟩ := withLogicalId_ok.mp stepped
        obtain ⟨moment, time⟩ := Option.ne_none_iff_exists'.mp (timed _ isSource)
        exact ⟨(moment, source), by rw [withUpdatedKey, time]⟩
      obtain ⟨first, here⟩ := List.exists_mem_of_ne_nil _ filled
      obtain ⟨entry, stepped⟩ := (mapM_ok_iff _).mp ⟨keyed, sorted⟩ first.2
        (List.mem_map_of_mem here)
      have present : entry ∈ Ranking.ranked Prod.fst (fun row => row.2.id) keyed :=
        Ranking.mem_ranked.mpr ((mem_of_mapM_ok sorted).mpr
          ⟨first.2, List.mem_map_of_mem here, stepped⟩)
      cases ranked : Ranking.ranked Prod.fst (fun row => row.2.id) keyed with
      | nil =>
        rw [ranked] at present
        cases present
      | cons winner rest =>
        exact ⟨_, bind_ok_iff.mpr ⟨keyed, sorted, by rw [ranked]⟩⟩
  exact ⟨_, bind_ok_iff.mpr ⟨rows, listed, bind_ok_iff.mpr ⟨owners, owned, rfl⟩⟩⟩

/-! ### Ownership in the archive -/

/-- The application of an archive that owns a listing. -/
def OwnsListing (decoded : SearchTables) (row : ArchivedApplication) (listing : Int) : Prop :=
  LeadsTo decoded row listing ∧
    ∀ other ∈ decoded.applications, LeadsTo decoded other listing →
      other = row ∨ UpdatedLater row other

/-- The map assigns an archived listing to an application. -/
def Assigned (ids : RestoredIds) (identities : Dict String (Option Int))
    (row : ArchivedApplication) (listing : Int) : Prop :=
  ∃ logical, Dict.lookup listing ids.scrapedJobIds = some logical ∧
    Dict.lookup row.id identities = some (some logical)

/-- What the map assigns is what the archive says. -/
theorem assigned_iff {identities : Dict String (Option Int)} (related : SearchRelationships decoded)
    (restored : RestoredListings decoded ids)
    (mapped : applicationLogicalIdentityMap ids decoded.applications = .ok identities)
    (member : row ∈ decoded.applications) {listing : Int}
    (listed : listing ∈ decoded.scrapedJobs.map ArchivedListing.id) :
    Assigned ids identities row listing ↔ OwnsListing decoded row listing := by
  obtain ⟨logical, found⟩ := restored.listed listing listed
  have leads : ∀ other ∈ decoded.applications,
      logicalId ids other = .ok (some logical) ↔ LeadsTo decoded other listing := by
    intro other otherMember
    rw [logicalId_some_iff related restored otherMember]
    constructor
    · rintro ⟨otherListing, leads, same⟩
      rw [restored.injective listing listed otherListing (leads.listed related otherMember)
        (found.trans same.symm)]
      exact leads
    · exact fun leads => ⟨listing, leads, found⟩
  have read : Assigned ids identities row listing ↔
      Dict.lookup row.id identities = some (some logical) := by
    simp only [Assigned, found, Option.some.injEq, exists_eq_left']
  rw [read, lookup_applicationLogicalIdentityMap related.applicationIds mapped member,
    OwnsLogicalId, OwnsListing, leads row member]
  refine and_congr_right fun _ => forall₂_congr fun other otherMember => ?_
  rw [leads other otherMember]

/-- Different applications that name a listing name different ones. -/
theorem SearchRelationships.claims_apart
    (related : SearchRelationships decoded) {first second : ArchivedApplication}
    (firstMember : first ∈ decoded.applications) (secondMember : second ∈ decoded.applications)
    (different : first ≠ second) : ClaimsApart first second := by
  have symmetric : Std.Symm ClaimsApart := ⟨fun _ _ apart => apart.symm⟩
  exact related.claims.forall firstMember secondMember different

/-- An application that names its listing owns it unless one that does not name it was
updated later. -/
theorem ownsListing_explicit_iff (related : SearchRelationships decoded)
    (member : row ∈ decoded.applications) {listing : Int}
    (named : row.scrapedJobId = some listing) :
    OwnsListing decoded row listing ↔ ∀ other ∈ decoded.applications,
      other.scrapedJobId = none → LeadsTo decoded other listing → UpdatedLater row other := by
  constructor
  · rintro ⟨-, ahead⟩ other inside unnamed leads
    rcases ahead other inside leads with rfl | later
    · rw [named] at unnamed
      cases unnamed
    · exact later
  · refine fun ahead => ⟨Or.inl named, fun other inside leads => ?_⟩
    cases otherNamed : other.scrapedJobId with
    | none => exact Or.inr (ahead other inside otherNamed leads)
    | some otherListing =>
      rcases leads with same | ⟨unnamed, -⟩
      · refine Or.inl (not_not.mp fun different => ?_)
        have apart := related.claims_apart inside member different
        exact apart (same ▸ Option.some_ne_none listing) (same.trans named.symm)
      · rw [unnamed] at otherNamed
        cases otherNamed

/-- The same rows in another order. -/
structure Shuffled (decoded shuffled : SearchTables) : Prop where
  searchProfiles : decoded.searchProfiles.Perm shuffled.searchProfiles
  scrapedJobs : decoded.scrapedJobs.Perm shuffled.scrapedJobs
  jobs : decoded.jobs.Perm shuffled.jobs
  applications : decoded.applications.Perm shuffled.applications

theorem SearchRelationships.shuffled {decoded shuffled : SearchTables}
    (related : SearchRelationships decoded) (same : Shuffled decoded shuffled) :
    SearchRelationships shuffled where
  listings := (same.scrapedJobs.map _).nodup_iff.mp related.listings
  keys := (same.scrapedJobs.map _).nodup_iff.mp related.keys
  jobIds := (same.jobs.map _).nodup_iff.mp related.jobIds
  applicationIds := (same.applications.map _).nodup_iff.mp related.applicationIds
  jobs := fun row member => by
    obtain ⟨profiled, listing, known, listed⟩ := related.jobs row (same.jobs.mem_iff.mpr member)
    exact ⟨fun profileId inside => same.searchProfiles.mem_iff.mp (profiled profileId inside),
      listing, (same.scrapedJobs.map _).mem_iff.mp known, listed⟩
  applications := fun row member => by
    obtain ⟨jobbed, named⟩ := related.applications row (same.applications.mem_iff.mpr member)
    refine ⟨fun jobId inside => (same.jobs.map _).mem_iff.mp (jobbed jobId inside),
      fun listing isNamed => ⟨(same.scrapedJobs.map _).mem_iff.mp (named listing isNamed).1,
        fun jobId inside job jobMember => ?_⟩⟩
    exact (named listing isNamed).2 jobId inside job (same.jobs.mem_iff.mpr jobMember)
  claims := (same.applications.pairwise_iff ClaimsApart.symm).mp related.claims

/-- Ownership does not depend on the order of the rows. -/
theorem OwnsListing.shuffled {decoded shuffled : SearchTables} (same : Shuffled decoded shuffled)
    (row : ArchivedApplication) (listing : Int) :
    OwnsListing decoded row listing ↔ OwnsListing shuffled row listing := by
  simp only [OwnsListing, LeadsTo, same.jobs.mem_iff, same.applications.mem_iff]

/-! ### The restored identities -/

/-- A restored archive gives every listing to one application at most, whatever the order of
its rows: to the one updated last of those that lead to it. An application that names its
listing keeps it exactly when none that leads there by its job alone was updated later. -/
theorem logicalIdentities_restored {decoded : SearchTables}
    (accepted : decodeSearchTables currentArchiveVersion decoded = .ok ())
    {catalog : SearchCatalog} {userId : Nat} {ids : RestoredIds}
    (restored : restoreSearchRecords catalog userId decoded = .ok ids) :
    ((∀ row ∈ decoded.applications, updatedKey row ≠ none) → ∃ identities,
      applicationLogicalIdentityMap ids decoded.applications = .ok identities) ∧
    ∀ identities, applicationLogicalIdentityMap ids decoded.applications = .ok identities →
      (∀ first ∈ decoded.applications, ∀ second ∈ decoded.applications, ∀ logical,
        Dict.lookup first.id identities = some (some logical) →
        Dict.lookup second.id identities = some (some logical) → first = second) ∧
      (∀ shuffled, Shuffled decoded shuffled → ∀ otherCatalog otherUserId otherIds,
        restoreSearchRecords otherCatalog otherUserId shuffled = .ok otherIds →
        ∀ otherIdentities,
          applicationLogicalIdentityMap otherIds shuffled.applications = .ok otherIdentities →
          ∀ row ∈ decoded.applications,
            ∀ listing ∈ decoded.scrapedJobs.map ArchivedListing.id,
              Assigned ids identities row listing ↔
                Assigned otherIds otherIdentities row listing) ∧
      (∀ row ∈ decoded.applications, ∀ listing, row.scrapedJobId = some listing →
        (Assigned ids identities row listing ↔ ∀ other ∈ decoded.applications,
          other.scrapedJobId = none → LeadsTo decoded other listing →
            UpdatedLater row other)) := by
  have related := decodeSearchTables_ok accepted
  have here := restoreSearchRecords_ok related restored
  refine ⟨applicationLogicalIdentityMap_ok related here, fun identities mapped =>
    ⟨?_, ?_, fun row member listing named => ?_⟩⟩
  · intro first firstMember second secondMember logical firstRead secondRead
    rw [lookup_applicationLogicalIdentityMap related.applicationIds mapped firstMember]
      at firstRead
    rw [lookup_applicationLogicalIdentityMap related.applicationIds mapped secondMember]
      at secondRead
    rcases firstRead.2 second secondMember secondRead.1 with same | later
    · exact same.symm
    · rcases secondRead.2 first firstMember firstRead.1 with same | earlier
      · exact same
      · exact absurd earlier later.not_symm
  · intro shuffled same otherCatalog otherUserId otherIds otherRestored otherIdentities
      otherMapped row member listing listed
    have otherRelated := related.shuffled same
    rw [assigned_iff related here mapped member listed,
      assigned_iff otherRelated (restoreSearchRecords_ok otherRelated otherRestored) otherMapped
        (same.applications.mem_iff.mp member) ((same.scrapedJobs.map _).mem_iff.mp listed)]
    exact OwnsListing.shuffled same row listing
  · have listed := ((related.applications row member).2 listing named).1
    rw [assigned_iff related here mapped member listed,
      ownsListing_explicit_iff related member named]

/-- Two applications of one listing: one names it, the other one was updated later. -/
def competingApplications : SearchTables where
  searchProfiles := []
  scrapedJobs := [⟨7, "jobroom", "a-1", []⟩]
  jobs := [⟨3, none, some 7⟩]
  applications :=
    [⟨"named", none, some 7, some (.utc ⟨2024, 5, 1, 9, 0, 0, 0, by decide⟩)⟩,
      ⟨"legacy", some 3, none, some (.utc ⟨2024, 5, 2, 9, 0, 0, 0, by decide⟩)⟩]

theorem logicalIdentities_restored_competing :
    decodeSearchTables currentArchiveVersion competingApplications = .ok () ∧
      ∃ ids, restoreSearchRecords ⟨[], [], [], List.nodup_nil⟩ 1 competingApplications = .ok ids ∧
        ∃ identities, applicationLogicalIdentityMap ids competingApplications.applications =
          .ok identities := by
  have accepted : decodeSearchTables currentArchiveVersion competingApplications = .ok () := by
    decide
  have restored : restoreSearchRecords ⟨[], [], [], List.nodup_nil⟩ 1 competingApplications =
      .ok ⟨[(3, 3)], [(3, 7)], [(7, 7)]⟩ := by decide
  exact ⟨accepted, _, restored, (logicalIdentities_restored accepted restored).1 (by decide)⟩

/-- An application can lose the listing it names. -/
theorem logicalIdentities_not_kept :
    ¬∀ (decoded : SearchTables) (catalog : SearchCatalog) (userId : Nat) (ids : RestoredIds)
      (identities : Dict String (Option Int)),
      decodeSearchTables currentArchiveVersion decoded = .ok () →
      restoreSearchRecords catalog userId decoded = .ok ids →
      applicationLogicalIdentityMap ids decoded.applications = .ok identities →
      ∀ row ∈ decoded.applications, ∀ listing, row.scrapedJobId = some listing →
        Assigned ids identities row listing := by
  intro kept
  obtain ⟨logical, -, read⟩ := kept competingApplications ⟨[], [], [], List.nodup_nil⟩ 1
    ⟨[(3, 3)], [(3, 7)], [(7, 7)]⟩ [("named", none), ("legacy", some 7)] (by decide) (by decide)
    (by decide) _ (List.mem_cons_self) 7 rfl
  cases read

end CareerOS
