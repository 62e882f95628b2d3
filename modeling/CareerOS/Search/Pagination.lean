/-
This file is the page loop of a search and what it loses. A provider is asked for one
page after another until a page is empty, the pages are counted out, or as many
listings are there as the provider counts; the collection then takes the listings of
a provider that did not fail.

The three counts do not agree. A provider that is configured without a total counts
the listings so far, so that the loop ends after the first page; Adecco takes what its
filters drop on a page off the total of the whole search; and a page of which nothing
maps to a listing is empty. And the listings before a failing page are collected with
its error, and dropped for it. The results say exactly when nothing is lost.
-/

import CareerOS.Library.Paging
import CareerOS.Providers.JobProviders
import CareerOS.Services.ProfileUpdates

namespace CareerOS

namespace JobProviders

open Paging

/-! ### The loop -/

variable {page : Nat}

section

variable {Listing : Type}

/-- Does the loop break after a page, with the listings so far? -/
def breaksAfter (stopped : Nat → Bool) (page : Nat) (response : JobSearchResponse Listing)
    (providerJobs : List Listing) : Bool :=
  response.items.isEmpty ||
    (response.totalPages ≠ 0 && response.totalPages - 1 ≤ page) ||
    (0 ≤ response.totalCount && response.totalCount ≤ providerJobs.length) ||
    stopped page

/-- `search_provider`, with the pages after which the run is found stopped. -/
def searchProvider (search : Nat → Except ProviderFailure (JobSearchResponse Listing))
    (stopped : Nat → Bool) (fuel : Nat) : Reading Listing ProviderFailure :=
  Paging.read search JobSearchResponse.items (breaksAfter stopped) fuel 0 []

/-- What the collection of the results takes of a provider. -/
def foundJobs (result : Reading Listing ProviderFailure) : List Listing :=
  if result.fault.isSome then [] else result.taken

/-- The run is never stopped. -/
def unstopped (_ : Nat) : Bool := false

/-- What a search of so many pages should do: hand on the listings of all pages when all are
served, hand on those of the pages before a failing one, end, and ask for each page once. -/
structure LosesNothing (search : Nat → Except ProviderFailure (JobSearchResponse Listing))
    (pages fuel : Nat) (listings : Nat → List Listing) : Prop where
  complete : (∀ page < pages, ¬Fails search page) →
    foundJobs (searchProvider search unstopped fuel) = (List.range pages).flatMap listings
  kept : (searchProvider search unstopped fuel).fault.isSome →
    foundJobs (searchProvider search unstopped fuel) =
      (searchProvider search unstopped fuel).taken
  once : ∀ stopped, (searchProvider search stopped fuel).ended = true ∧
    (searchProvider search stopped fuel).requested.Nodup ∧
    (searchProvider search stopped fuel).requested.length ≤ pages

/-- When it does so: no page with listings comes after one that counts as the last, and no page
but the first fails before such a one. -/
structure NothingAfterLast (search : Nat → Except ProviderFailure (JobSearchResponse Listing))
    (pages : Nat) (listings : Nat → List Listing) (isLast : Nat → Prop) : Prop where
  later : (∀ page < pages, ¬Fails search page) → ∀ earlier later, earlier < later →
    later < pages → isLast earlier → listings later = []
  early : ∀ page, 0 < page → page < pages → Fails search page →
    ∃ earlier < page, Fails search earlier ∨ isLast earlier

theorem breaksAfter_iff {response : JobSearchResponse Listing} {jobs : List Listing} :
    breaksAfter unstopped page response jobs = true ↔ response.items = [] ∨
      (response.totalPages ≠ 0 ∧ response.totalPages - 1 ≤ page) ∨
        (0 ≤ response.totalCount ∧ response.totalCount ≤ jobs.length) := by
  unfold breaksAfter unstopped
  simp only [Bool.or_false, Bool.or_eq_true, Bool.and_eq_true, decide_eq_true_eq,
    List.isEmpty_iff, or_assoc]

variable {search : Nat → Except ProviderFailure (JobSearchResponse Listing)}
variable {listings : Nat → List Listing} {isLast : Nat → Prop} {bound fuel : Nat}

/-- A run that is stopped in between breaks at the same pages, and where it is stopped. -/
theorem rules_stopped
    (rules : Rules search JobSearchResponse.items (breaksAfter unstopped) bound isLast)
    (stopped : Nat → Bool) : Rules search JobSearchResponse.items (breaksAfter stopped) bound
      fun page => isLast page ∨ stopped page = true := by
  have split : ∀ page response (jobs : List Listing), breaksAfter stopped page response jobs =
      (breaksAfter unstopped page response jobs || stopped page) := by
    intro page response jobs
    unfold breaksAfter unstopped
    rw [Bool.or_false]
  intro page within reached response served
  rw [split, Bool.or_eq_true]
  refine or_congr_left (rules page within (fun earlier before => ?_) response served)
  obtain ⟨reply, isReply, goes⟩ := reached earlier before
  rw [split, Bool.or_eq_false_iff] at goes
  exact ⟨reply, isReply, goes.1⟩

/-- A search loses nothing exactly when nothing comes after its last page, for whatever pages
count as the last. -/
theorem losesNothing_iff
    (rules : Rules search JobSearchResponse.items (breaksAfter unstopped) bound isLast)
    (ends : Fails search bound ∨ isLast bound)
    (items : ∀ page ≤ bound, ¬Fails search page →
      itemsAt search JobSearchResponse.items page = listings page)
    (solid : ∀ page, ¬Fails search page →
      itemsAt search JobSearchResponse.items page = [] → isLast page)
    (enough : bound < fuel) : LosesNothing search (bound + 1) fuel listings ↔
      NothingAfterLast search (bound + 1) listings isLast := by
  have lost := lost_iff rules ends enough solid
  have found : (searchProvider search unstopped fuel).fault.isSome →
      foundJobs (searchProvider search unstopped fuel) = [] := fun failed => if_pos failed
  have whole : (∀ page ≤ bound, ¬Fails search page) →
      upTo search JobSearchResponse.items (bound + 1) = (List.range (bound + 1)).flatMap listings :=
    fun served => List.flatMap_congr fun page member =>
      items page (Nat.le_of_lt_succ (List.mem_range.mp member))
        (served page (Nat.le_of_lt_succ (List.mem_range.mp member)))
  have collected : (∀ page ≤ bound, ¬Fails search page) →
      foundJobs (searchProvider search unstopped fuel) =
        (searchProvider search unstopped fuel).taken := by
    refine fun served => if_neg fun failed => ?_
    obtain ⟨page, within, fails, -⟩ := (fault_iff rules ends enough).mp failed
    exact served page within fails
  constructor
  · rintro ⟨complete, kept, -⟩
    constructor
    · intro served earlier later before within last
      have all : ∀ page ≤ bound, ¬Fails search page :=
        fun page inside => served page (Nat.lt_succ_of_le inside)
      have taken := (collected all).symm.trans ((complete served).trans (whole all).symm)
      rw [← items later (Nat.le_of_lt_succ within) (served later within)]
      exact (complete_iff rules ends enough all).mp taken earlier later before
        (Nat.le_of_lt_succ within) last
    · intro page positive within fails
      refine lost.mp (fun failed => ?_) page positive (Nat.le_of_lt_succ within) fails
      exact (kept failed).symm.trans (found failed)
  · rintro ⟨later, early⟩
    refine ⟨fun served => ?_, fun failed => ?_, fun stopped => ?_⟩
    · have all : ∀ page ≤ bound, ¬Fails search page :=
        fun page inside => served page (Nat.lt_succ_of_le inside)
      refine (collected all).trans (Eq.trans ?_ (whole all))
      refine (complete_iff rules ends enough all).mpr fun earlier next before within last => ?_
      exact (items next within (all next within)).trans
        (later served earlier next before (Nat.lt_succ_of_le within) last)
    · refine (found failed).trans (Eq.symm (lost.mpr (fun page positive within fails => ?_) failed))
      exact early page positive (Nat.lt_succ_of_le within) fails
    · exact read_requested (rules_stopped rules stopped) (ends.imp id Or.inl) enough

end

/-! ### Pages of a list -/

/-- A page of a list. -/
def pageOf {Item : Type} (items : List Item) (size page : Nat) : List Item :=
  (items.drop (page * size)).take size

theorem length_pageOf_le {Item : Type} (items : List Item) (size page : Nat) :
    (pageOf items size page).length ≤ size := List.length_take_le size _

theorem pagesFor_le_iff {size : Nat} (positive : 1 ≤ size) (total pages : Nat) :
    pagesFor total size ≤ pages ↔ total ≤ pages * size := by
  unfold pagesFor
  rw [Nat.div_le_iff_le_mul_add_pred positive, Nat.mul_comm size pages]
  omega

section

variable {Listing : Type} {search : Nat → Except ProviderFailure (JobSearchResponse Listing)}

/-- The listings of so many pages are at most those that fit on them. -/
theorem length_upTo_le
    {size : Nat} (small : ∀ page, (itemsAt search JobSearchResponse.items page).length ≤ size)
    (count : Nat) : (upTo search JobSearchResponse.items count).length ≤ count * size := by
  induction count with
  | zero => exact Nat.zero_le _
  | succ count inductionHypothesis =>
    rw [upTo_succ, List.length_append, Nat.succ_mul]
    exact Nat.add_le_add inductionHypothesis (small count)

theorem itemsAt_of_ok
    {response : JobSearchResponse Listing} (served : search page = .ok response) :
    itemsAt search JobSearchResponse.items page = response.items := by
  unfold itemsAt
  rw [served]

theorem exists_ok_of_not_fails
    (served : ¬Fails search page) : ∃ response, search page = .ok response := by
  cases made : search page with
  | error fault => exact absurd ⟨fault, made⟩ served
  | ok response => exact ⟨response, rfl⟩

end

/-! ### A provider that is configured -/

section

variable {Node : Type} [HtmlReader Node] [ListingTables] [DecimalDigits]

/-- A remote list is served in pages, with its length as the total where one is declared. -/
structure ServedInPages (configuration : ProviderConfiguration)
    (replies : Nat → Option ProviderReply) (items : List (RawItem Node)) (declares : Bool) :
    Prop where
  replyItems : ∀ page reply, replies page = some reply →
    rawItems configuration reply = some (pageOf items configuration.pageSize page)
  replyTotal : ∀ page reply total, replies page = some reply →
    declaredTotal configuration reply = some total →
      total = if declares then some items.length else none

/-- The listing of an item that maps to one. -/
def mappedListing (configuration : ProviderConfiguration) (language : String)
    (item : RawItem Node) : Option JobListing :=
  (readItem configuration language item).join

/-- The listings of a page of a remote list. -/
def mappedPage (configuration : ProviderConfiguration) (language : String)
    (items : List (RawItem Node)) (page : Nat) : List JobListing :=
  (pageOf items configuration.pageSize page).filterMap (mappedListing configuration language)

theorem readItems_some {configuration : ProviderConfiguration} {language : String}
    {items : List (RawItem Node)} {listings : List JobListing}
    (read : readItems configuration language items = some listings) :
    listings = items.filterMap (mappedListing configuration language) := by
  induction items generalizing listings with
  | nil =>
    cases read
    rfl
  | cons item rest inductionHypothesis =>
    unfold readItems at read
    simp only [Option.bind_eq_bind, Option.bind_eq_some_iff, Option.pure_def,
      Option.some.injEq] at read
    obtain ⟨listing, here, others, later, rfl⟩ := read
    rw [inductionHypothesis later, List.filterMap_cons]
    unfold mappedListing
    rw [here]
    cases listing <;> rfl

variable {configuration : ProviderConfiguration} {language : String}
variable {replies : Nat → Option ProviderReply} {items : List (RawItem Node)} {declares : Bool}

variable {response : JobSearchResponse JobListing}

/-- What a page that is served comes to. -/
theorem declarativeSearch_ok
    (served : ServedInPages configuration replies items declares)
    (within : page < configuration.maxPages)
    (made : declarativeSearch Node configuration language replies page = .ok response) :
    response.items = mappedPage configuration language items page ∧
      response.totalCount = (if declares then items.length
        else page * configuration.pageSize + response.items.length : Nat) ∧
      response.totalPages = (max 1 (if declares then
          min configuration.maxPages (pagesFor items.length configuration.pageSize)
        else if response.items.length < configuration.pageSize then page + 1
          else configuration.maxPages) : Nat) := by
  unfold declarativeSearch at made
  rw [if_neg (Nat.not_le_of_lt within)] at made
  split at made
  · cases made
  · rename_i reply isReply
    split at made
    · cases made
    · rename_i listings total parsed
      obtain rfl := Except.ok.inj made
      unfold parseReply at parsed
      simp only [Option.bind_eq_bind, Option.bind_eq_some_iff, Option.pure_def,
        Option.some.injEq] at parsed
      obtain ⟨raw, isRaw, others, read, declared, isDeclared, same⟩ := parsed
      obtain ⟨rfl, rfl⟩ := Prod.mk.inj same
      obtain rfl := Option.some.inj (isRaw.symm.trans (served.replyItems page reply isReply))
      have short : (pageOf items configuration.pageSize page).take configuration.pageSize =
          pageOf items configuration.pageSize page :=
        List.take_of_length_le (length_pageOf_le items _ page)
      rw [short] at read
      refine ⟨readItems_some read, ?_, ?_⟩
      all_goals
        rw [served.replyTotal page reply declared isReply isDeclared]
        cases declares <;> rfl

theorem length_mappedPage_le (configuration : ProviderConfiguration) (language : String)
    (items : List (RawItem Node)) (page : Nat) :
    (mappedPage configuration language items page).length ≤ configuration.pageSize :=
  (List.length_filterMap_le _ _).trans (length_pageOf_le items _ page)

/-- What counts as the last page of a provider that is configured: the last that it may ask for,
any when no total is declared, the last of the list, and one of which nothing is mapped. -/
def CountsAsLast (configuration : ProviderConfiguration) (language : String)
    (items : List (RawItem Node)) (declares : Bool) (page : Nat) : Prop :=
  configuration.maxPages ≤ page + 1 ∨ declares = false ∨
    items.length ≤ (page + 1) * configuration.pageSize ∨
      mappedPage configuration language items page = []

theorem declarativeSearch_after (after : configuration.maxPages ≤ page) :
    itemsAt (declarativeSearch Node configuration language replies) JobSearchResponse.items page =
      [] := by
  unfold itemsAt declarativeSearch
  rw [if_pos after]

theorem length_itemsAt_declarative (served : ServedInPages configuration replies items declares)
    (page : Nat) : (itemsAt (declarativeSearch Node configuration language replies)
      JobSearchResponse.items page).length ≤ configuration.pageSize := by
  rcases Nat.lt_or_ge page configuration.maxPages with within | after
  · cases made : declarativeSearch Node configuration language replies page with
    | error fault =>
      unfold itemsAt
      rw [made]
      exact Nat.zero_le _
    | ok response =>
      rw [itemsAt_of_ok made, (declarativeSearch_ok served within made).1]
      exact length_mappedPage_le configuration language items page
  · rw [declarativeSearch_after after]
    exact Nat.zero_le _

/-- Without a total the loop breaks after the first page. -/
theorem breaksAfter_first (served : ServedInPages configuration replies items false)
    (made : declarativeSearch Node configuration language replies 0 = .ok response) :
    breaksAfter unstopped 0 response (upTo (declarativeSearch Node configuration language replies)
      JobSearchResponse.items 1) = true := by
  obtain ⟨-, count, -⟩ := declarativeSearch_ok served configuration.maxPages_bounds.1 made
  have taken : upTo (declarativeSearch Node configuration language replies)
      JobSearchResponse.items 1 = response.items := by
    rw [upTo_succ, itemsAt_of_ok made]
    exact List.nil_append _
  rw [if_neg (by decide), Nat.zero_mul, Nat.zero_add] at count
  refine breaksAfter_iff.mpr (Or.inr (Or.inr ?_))
  rw [taken, count]
  exact ⟨Int.natCast_nonneg _, le_refl _⟩

/-- The loop breaks after the pages that count as the last. -/
theorem rules_declarative (served : ServedInPages configuration replies items declares) :
    Rules (declarativeSearch Node configuration language replies) JobSearchResponse.items
      (breaksAfter unstopped) (configuration.maxPages - 1)
      (CountsAsLast configuration language items declares) := by
  intro page within reached response made
  have inside : page < configuration.maxPages :=
    Nat.lt_of_le_of_lt within (Nat.sub_lt configuration.maxPages_bounds.1 Nat.one_pos)
  obtain ⟨mapped, count, pages⟩ := declarativeSearch_ok served inside made
  cases declares with
  | false =>
    refine iff_of_true ?_ (Or.inr (Or.inl rfl))
    rcases Nat.eq_zero_or_pos page with rfl | positive
    · exact breaksAfter_first served made
    · obtain ⟨reply, isReply, goes⟩ := reached 0 positive
      rw [breaksAfter_first served isReply] at goes
      cases goes
  | true =>
    rw [if_pos rfl] at count pages
    have small : ∀ number, (itemsAt (declarativeSearch Node configuration language replies)
        JobSearchResponse.items number).length ≤ configuration.pageSize :=
      length_itemsAt_declarative served
    have fits := length_upTo_le small (page + 1)
    have paged := pagesFor_le_iff configuration.pageSize_bounds.1 items.length (page + 1)
    rw [breaksAfter_iff, mapped, count, pages]
    unfold CountsAsLast
    constructor
    · rintro (empty | ⟨-, last⟩ | ⟨-, enough⟩)
      · exact Or.inr (Or.inr (Or.inr empty))
      · have least : min configuration.maxPages (pagesFor items.length configuration.pageSize) ≤
            page + 1 := by omega
        rcases min_le_iff.mp least with most | whole
        · exact Or.inl most
        · exact Or.inr (Or.inr (Or.inl (paged.mp whole)))
      · exact Or.inr (Or.inr (Or.inl ((Int.ofNat_le.mp enough).trans fits)))
    · have last : min configuration.maxPages (pagesFor items.length configuration.pageSize) ≤
          page + 1 → ((max 1 (min configuration.maxPages
            (pagesFor items.length configuration.pageSize)) : Nat) : Int) ≠ 0 ∧
            ((max 1 (min configuration.maxPages
              (pagesFor items.length configuration.pageSize)) : Nat) : Int) - 1 ≤ page := by
        intro least
        omega
      rintro (most | impossible | whole | empty)
      · exact Or.inr (Or.inl (last (min_le_of_left_le most)))
      · cases impossible
      · exact Or.inr (Or.inl (last (min_le_of_right_le (paged.mpr whole))))
      · exact Or.inl empty

/-- A configured provider loses nothing exactly when nothing comes after its last page. -/
theorem losesNothing_declarative (served : ServedInPages configuration replies items declares)
    {fuel : Nat} (enough : configuration.maxPages ≤ fuel) :
    LosesNothing (declarativeSearch Node configuration language replies) configuration.maxPages
        fuel (mappedPage configuration language items) ↔
      NothingAfterLast (declarativeSearch Node configuration language replies)
        configuration.maxPages (mappedPage configuration language items)
        (CountsAsLast configuration language items declares) := by
  have whole : configuration.maxPages - 1 + 1 = configuration.maxPages :=
    Nat.sub_add_cancel configuration.maxPages_bounds.1
  have mapped : ∀ page < configuration.maxPages,
      ¬Fails (declarativeSearch Node configuration language replies) page →
        itemsAt (declarativeSearch Node configuration language replies) JobSearchResponse.items
          page = mappedPage configuration language items page := by
    intro page within fine
    obtain ⟨response, made⟩ := exists_ok_of_not_fails fine
    rw [itemsAt_of_ok made]
    exact (declarativeSearch_ok served within made).1
  have rules : Rules (declarativeSearch Node configuration language replies) _ _ _ _ :=
    rules_declarative served
  have general := losesNothing_iff rules (Or.inr (Or.inl whole.ge))
    (fun page within fine => mapped page (Nat.lt_of_le_of_lt within (by omega)) fine)
    (fun page fine empty => by
      rcases Nat.lt_or_ge page configuration.maxPages with within | after
      · exact Or.inr (Or.inr (Or.inr ((mapped page within fine).symm.trans empty)))
      · exact Or.inl (Nat.le_succ_of_le after))
    (show configuration.maxPages - 1 < fuel by omega)
  rwa [whole] at general

/-- No response counts more pages than may be asked for, nor none. -/
theorem totalPages_declarative
    (made : declarativeSearch Node configuration language replies page = .ok response)
    (within : page < configuration.maxPages) :
    1 ≤ response.totalPages ∧ response.totalPages ≤ configuration.maxPages := by
  have positive := configuration.maxPages_bounds.1
  unfold declarativeSearch at made
  rw [if_neg (Nat.not_le_of_lt within)] at made
  split at made
  · cases made
  · split at made
    · cases made
    · rename_i total parsed
      obtain rfl := Except.ok.inj made
      dsimp only
      refine ⟨Int.ofNat_le.mpr (le_max_left 1 _), Int.ofNat_le.mpr (max_le positive ?_)⟩
      cases total with
      | some total => exact min_le_left _ _
      | none =>
        dsimp only
        split
        · exact within
        · exact le_refl _

/-- Whatever the replies are, the loop of a configured provider ends within its pages. -/
theorem searchProvider_declarative_ends (stopped : Nat → Bool) {fuel : Nat}
    (enough : configuration.maxPages ≤ fuel) :
    (searchProvider (declarativeSearch Node configuration language replies) stopped fuel).ended =
        true ∧
      (searchProvider (declarativeSearch Node configuration language replies) stopped
        fuel).requested.length ≤ configuration.maxPages := by
  have positive := configuration.maxPages_bounds.1
  have rules : Rules (declarativeSearch Node configuration language replies)
      JobSearchResponse.items (breaksAfter unstopped) (configuration.maxPages - 1) _ :=
    rules_stopsAt _
  have last : StopsAt (declarativeSearch Node configuration language replies)
      JobSearchResponse.items (breaksAfter unstopped) (configuration.maxPages - 1) := by
    intro response made
    obtain ⟨least, most⟩ := totalPages_declarative made (Nat.sub_lt positive Nat.one_pos)
    exact breaksAfter_iff.mpr (Or.inr (Or.inl ⟨by omega, by omega⟩))
  obtain ⟨ended, -, few⟩ := read_requested (rules_stopped rules stopped)
    (Or.inr (Or.inl last)) (show configuration.maxPages - 1 < fuel by omega)
  exact ⟨ended, few.trans (Nat.sub_add_cancel positive).le⟩

end

/-! ### Adecco -/

section

open SearchProfiles

variable {Rest : Type} [AdeccoTables Rest] [SettingTables]

/-- A remote list is served in pages of ten, with its length as the total where one is declared. -/
structure ServedByAdecco (Rest : Type) [AdeccoTables Rest] (summaries : Nat → Option Json)
    (items : List (Dict String Json)) (declares : Bool) : Prop where
  summary : ∀ page summary, summaries page = some summary → ∃ fields, summary = .obj fields ∧
    (Dict.lookup "jobs" fields).bind lightJobs = some (pageOf items 10 page) ∧
    ∀ total, summaryTotal Rest fields (pageOf items 10 page).length = some total →
      total = if declares then (items.length : Int) else (pageOf items 10 page).length

/-- The listing of an item that maps to one and passes the filters of the request. -/
def adeccoListing (request : JobSearchRequest) (details : Json → Option Json)
    (light : Dict String Json) : Option (AdeccoListing Rest) :=
  let jobId := (Dict.lookup "jobId" light).getD .null
  if isFalsy jobId then none
  else (transformJobData light (details jobId)).filter fun listing =>
    passesFilters request listing.employment

/-- The listings of a page of a remote list. -/
def adeccoPage (request : JobSearchRequest) (details : Json → Option Json)
    (items : List (Dict String Json)) (page : Nat) : List (AdeccoListing Rest) :=
  (pageOf items 10 page).filterMap (adeccoListing request details)

/-- Is an item dropped by the filters, before or after its details are fetched? -/
def isFiltered (Rest : Type) [AdeccoTables Rest] (request : JobSearchRequest)
    (details : Json → Option Json) (light : Dict String Json) : Bool :=
  match (processJob request details light : Processed Rest) with
  | .nothing => false
  | .skipped => true
  | .hydrated listing => !passesFilters request listing.employment

/-- The employment of a listing does not depend on its details. -/
theorem employment_transformJobData {light : Dict String Json} {detail other : Option Json}
    {listing otherListing : AdeccoListing Rest}
    (made : transformJobData light detail = some listing)
    (isOther : transformJobData light other = some otherListing) :
    listing.employment = otherListing.employment := by
  unfold transformJobData at made isOther
  dsimp only at made isOther
  split at made
  · cases made
  · rename_i solid
    rw [if_neg solid] at isOther
    simp only [Option.bind_eq_bind, Option.bind_eq_some_iff, Option.pure_def,
      Option.some.injEq] at made isOther
    obtain ⟨employment, isEmployment, rest, -, rfl⟩ := made
    obtain ⟨otherEmployment, isOtherEmployment, otherRest, -, rfl⟩ := isOther
    exact Option.some.inj (isEmployment.symm.trans isOtherEmployment)

/-- What is kept of an item is its listing, where it passes the filters. -/
theorem adeccoListing_eq (request : JobSearchRequest) (details : Json → Option Json)
    (light : Dict String Json) : (adeccoListing request details light : Option (AdeccoListing Rest)) =
      (processJob request details light : Processed Rest).listing.filter fun listing =>
        passesFilters request listing.employment := by
  unfold adeccoListing processJob
  dsimp only
  split
  · rfl
  · split
    · rename_i skips
      rw [Bool.and_eq_true, Bool.not_eq_true'] at skips
      -- The filters drop it with its details too, for they see the same employment.
      unfold passesLightFilters at skips
      split at skips
      · cases skips.2
      · rename_i preview isPreview
        show Option.filter _ _ = none
        rw [Option.filter_eq_none_iff]
        intro listing made passes
        rw [employment_transformJobData made isPreview, skips.2] at passes
        cases passes
    · split
      · rename_i none
        rw [none]
        rfl
      · rename_i listing some
        rw [some]
        rfl

/-- How many items of a page the filters drop. -/
def filteredOf (Rest : Type) [AdeccoTables Rest] (request : JobSearchRequest)
    (details : Json → Option Json) (items : List (Dict String Json)) (page : Nat) : Nat :=
  (pageOf items 10 page).countP (isFiltered Rest request details)

/-- The items that are skipped and those that are filtered with their details are the filtered
ones. -/
theorem countP_isFiltered (request : JobSearchRequest) (details : Json → Option Json)
    (jobs : List (Dict String Json)) :
    let results : List (Processed Rest) := jobs.map (processJob request details)
    let hydrated := results.filterMap Processed.listing
    jobs.countP (isFiltered Rest request details) = results.countP Processed.isSkipped +
      (hydrated.length -
        (hydrated.filter fun listing => passesFilters request listing.employment).length) := by
  dsimp only
  induction jobs with
  | nil => rfl
  | cons light rest inductionHypothesis =>
    have fewer := List.length_filter_le
      (fun listing : AdeccoListing Rest => passesFilters request listing.employment)
      ((rest.map (processJob request details)).filterMap Processed.listing)
    rw [List.countP_cons, List.map_cons, List.countP_cons, List.filterMap_cons,
      inductionHypothesis]
    unfold isFiltered
    cases (processJob request details light : Processed Rest) with
    | nothing => rfl
    | skipped =>
      simp only [Processed.isSkipped, Processed.listing, if_true]
      omega
    | hydrated listing =>
      simp only [Processed.isSkipped, Processed.listing, List.filter_cons]
      by_cases passes : passesFilters request listing.employment = true
      · simp only [passes, Bool.not_true, Bool.false_eq_true, if_false, if_true, List.length_cons]
        omega
      · simp only [passes, Bool.not_false, Bool.false_eq_true, if_false, if_true,
          List.length_cons]
        omega

omit [AdeccoTables Rest] [SettingTables] in
theorem reducedTotal_eq {total : Int} (nonneg : 0 ≤ total) (dropped : Nat) :
    reducedTotal total dropped = max 0 (total - dropped) := by
  unfold reducedTotal
  split
  · omega
  · rfl

variable {request : JobSearchRequest} {summaries : Nat → Option Json}
variable {details : Json → Option Json} {items : List (Dict String Json)} {declares : Bool}

/-- What a page that is served comes to. -/
theorem adeccoSearch_ok (served : ServedByAdecco Rest summaries items declares)
    {response : JobSearchResponse (AdeccoListing Rest)}
    (made : adeccoSearch Rest request summaries details page = .ok response) :
    response.items = adeccoPage request details items page ∧
      response.totalCount =
        max 0 ((if declares then (items.length : Int) else (pageOf items 10 page).length) -
          filteredOf Rest request details items page) ∧
      response.totalPages = (response.totalCount + 9) / 10 := by
  unfold adeccoSearch at made
  split at made
  · rename_i fields isSummary
    obtain ⟨others, same, isJobs, isTotal⟩ := served.summary page _ isSummary
    obtain rfl := Json.obj.inj same
    rw [isJobs] at made
    dsimp only at made
    split at made
    · cases made
    · rename_i total found
      obtain rfl := Except.ok.inj made
      have counted := isTotal total found
      have nonneg : 0 ≤ total := by
        rw [counted]
        split <;> exact Int.natCast_nonneg _
      refine ⟨?_, ?_, rfl⟩
      · unfold adeccoPage
        dsimp only
        rw [List.filter_filterMap, List.filterMap_map]
        exact List.filterMap_congr fun light _ =>
          (adeccoListing_eq request details light).symm
      · dsimp only
        unfold filteredOf
        rw [countP_isFiltered, ← counted, reducedTotal_eq nonneg,
          reducedTotal_eq (le_max_left 0 _)]
        omega
  · cases made
  · cases made

/-- What counts as the last page of Adecco: any when no total is declared, one that ends the list
without as many items as the filters drop on it, and one of which nothing is kept. -/
def CountsAsLastOfAdecco (Rest : Type) [AdeccoTables Rest] (request : JobSearchRequest)
    (details : Json → Option Json) (items : List (Dict String Json)) (declares : Bool)
    (page : Nat) : Prop :=
  declares = false ∨ items.length ≤ (page + 1) * 10 + filteredOf Rest request details items page ∨
    (adeccoPage request details items page : List (AdeccoListing Rest)) = []

theorem length_adeccoPage_le (page : Nat) :
    (adeccoPage request details items page : List (AdeccoListing Rest)).length ≤ 10 :=
  (List.length_filterMap_le _ _).trans (length_pageOf_le items 10 page)

theorem length_itemsAt_adecco (served : ServedByAdecco Rest summaries items declares)
    (page : Nat) : (itemsAt (adeccoSearch Rest request summaries details)
      JobSearchResponse.items page).length ≤ 10 := by
  cases made : adeccoSearch Rest request summaries details page with
  | error fault =>
    unfold itemsAt
    rw [made]
    exact Nat.zero_le _
  | ok response =>
    rw [itemsAt_of_ok made, (adeccoSearch_ok served made).1]
    exact length_adeccoPage_le page

/-- The loop breaks after the pages that count as the last. -/
theorem rules_adecco (served : ServedByAdecco Rest summaries items declares) (bound : Nat) :
    Rules (adeccoSearch Rest request summaries details) JobSearchResponse.items
      (breaksAfter unstopped) bound
      (CountsAsLastOfAdecco Rest request details items declares) := by
  intro page _ _ response made
  obtain ⟨kept, count, pages⟩ := adeccoSearch_ok served made
  have each : ∀ number, (itemsAt (adeccoSearch Rest request summaries details)
      JobSearchResponse.items number).length ≤ 10 := length_itemsAt_adecco served
  have fits := length_upTo_le each (page + 1)
  have small := length_pageOf_le items 10 page
  rw [breaksAfter_iff, pages, kept]
  unfold CountsAsLastOfAdecco
  have last : (response.totalCount ≤ (page + 1) * 10) ↔
      (declares = false ∨
        items.length ≤ (page + 1) * 10 + filteredOf Rest request details items page) := by
    rw [count]
    cases declares with
    | false =>
      rw [if_neg (by decide)]
      exact iff_of_true (by omega) (Or.inl rfl)
    | true =>
      rw [if_pos rfl]
      constructor
      · intro least
        exact Or.inr (by omega)
      · rintro (impossible | least)
        · cases impossible
        · omega
  have nonneg : 0 ≤ response.totalCount := by
    rw [count]
    exact le_max_left 0 _
  constructor
  · rintro (empty | ⟨-, counted⟩ | ⟨-, enough⟩)
    · exact Or.inr (Or.inr empty)
    · exact (last.mp (by omega)).imp id Or.inl
    · exact (last.mp (by omega)).imp id Or.inl
  · intro ends
    rcases or_assoc.mpr ends with least | empty
    · have counted := last.mpr least
      by_cases none : response.totalCount = 0
      · exact Or.inr (Or.inr ⟨nonneg, by omega⟩)
      · exact Or.inr (Or.inl ⟨by omega, by omega⟩)
    · exact Or.inl empty

/-- Adecco loses nothing exactly when nothing comes after its last page. -/
theorem losesNothing_adecco (served : ServedByAdecco Rest summaries items declares) {fuel : Nat}
    (enough : max 1 (pagesFor items.length 10) ≤ fuel) :
    LosesNothing (adeccoSearch Rest request summaries details)
        (max 1 (pagesFor items.length 10)) fuel (adeccoPage request details items) ↔
      NothingAfterLast (adeccoSearch Rest request summaries details)
        (max 1 (pagesFor items.length 10)) (adeccoPage request details items)
        (CountsAsLastOfAdecco Rest request details items declares) := by
  have whole : max 1 (pagesFor items.length 10) - 1 + 1 = max 1 (pagesFor items.length 10) :=
    Nat.sub_add_cancel (le_max_left 1 _)
  have within : items.length ≤ (max 1 (pagesFor items.length 10) - 1 + 1) * 10 := by
    rw [whole]
    exact (pagesFor_le_iff (by decide) _ _).mp (le_max_right 1 _)
  have kept : ∀ page, ¬Fails (adeccoSearch Rest request summaries details) page →
      itemsAt (adeccoSearch Rest request summaries details) JobSearchResponse.items
        page = adeccoPage request details items page := by
    intro page fine
    obtain ⟨response, made⟩ := exists_ok_of_not_fails fine
    rw [itemsAt_of_ok made]
    exact (adeccoSearch_ok served made).1
  have rules : Rules (adeccoSearch Rest request summaries details) _ _
      (max 1 (pagesFor items.length 10) - 1) _ := rules_adecco served _
  have general := losesNothing_iff rules
    (Or.inr (Or.inr (Or.inl (Nat.le_add_right_of_le within))))
    (fun page _ fine => kept page fine)
    (fun page fine empty => Or.inr (Or.inr ((kept page fine).symm.trans empty)))
    (show max 1 (pagesFor items.length 10) - 1 < fuel by omega)
  rwa [whole] at general

end

/-! ### Both -/

/-- The search of a configured provider and that of Adecco lose nothing exactly when nothing comes
after their last pages, and a configured provider is asked for no more pages than it may be,
whatever it replies. -/
theorem pagination_losesNothing_iff (Node Rest : Type) [HtmlReader Node] [ListingTables]
    [DecimalDigits] [AdeccoTables Rest] [SearchProfiles.SettingTables] :
    (∀ configuration language replies (items : List (RawItem Node)) declares fuel,
      ServedInPages configuration replies items declares → configuration.maxPages ≤ fuel →
        (LosesNothing (declarativeSearch Node configuration language replies)
            configuration.maxPages fuel (mappedPage configuration language items) ↔
          NothingAfterLast (declarativeSearch Node configuration language replies)
            configuration.maxPages (mappedPage configuration language items)
            (CountsAsLast configuration language items declares))) ∧
    (∀ request summaries details items declares fuel,
      ServedByAdecco Rest summaries items declares → max 1 (pagesFor items.length 10) ≤ fuel →
        (LosesNothing (adeccoSearch Rest request summaries details)
            (max 1 (pagesFor items.length 10)) fuel (adeccoPage request details items) ↔
          NothingAfterLast (adeccoSearch Rest request summaries details)
            (max 1 (pagesFor items.length 10)) (adeccoPage request details items)
            (CountsAsLastOfAdecco Rest request details items declares))) ∧
    ∀ configuration language replies stopped fuel, configuration.maxPages ≤ fuel →
      (searchProvider (declarativeSearch Node configuration language replies) stopped
          fuel).ended = true ∧
        (searchProvider (declarativeSearch Node configuration language replies) stopped
          fuel).requested.length ≤ configuration.maxPages :=
  ⟨fun _ _ _ _ _ _ served enough => losesNothing_declarative served enough,
    fun _ _ _ _ _ _ served enough => losesNothing_adecco served enough,
    fun _ _ _ stopped _ enough => searchProvider_declarative_ends stopped enough⟩

/-! ### A list of two pages -/

section

open SearchProfiles

/-- No HTML. -/
@[reducible] def HtmlReader.none : HtmlReader Empty where
  selectAll := fun _ _ _ => some []
  selectOne := nofun
  attrs := nofun
  textContent := nofun

/-- Listings without addresses. -/
@[reducible] def ListingTables.plain : ListingTables where
  safeUrl := fun _ _ => some none
  applicationEmail := fun _ => none
  parseDatetime := fun _ => none
  upper := fun text => String.ofList (text.toList.map Char.toUpper)

/-- Listings without hours. -/
@[reducible] def AdeccoTables.plain : AdeccoTables Unit where
  hours := fun _ _ => some none
  rest := fun _ _ => some ()
  wholeFloat := fun _ => none

attribute [local instance] HtmlReader.none ListingTables.plain AdeccoTables.plain
  DecimalDigits.ascii SettingTables.ascii

theorem twoPages_bounds : 1 ≤ 2 ∧ 2 ≤ 20 := by decide

/-- A board of jobs that shows one on a page, and may have a total. -/
def jobBoard (totalPath : Option String) : ProviderConfiguration where
  key := "board"
  baseUrl := "https://board.example"
  adapterKind := .json
  maxPages := 2
  maxPages_bounds := twoPages_bounds
  pageSize := 1
  pageSize_bounds := by decide
  extraction :=
    { itemsPath := some "jobs", itemSelector := none, totalPath
      fields := [("id", ⟨"id", none, none⟩), ("title", ⟨"title", none, none⟩)] }
  html_totalPath := nofun

/-- A job of the board. -/
def boardJob (id : String) : Json := .obj [("id", .str id), ("title", .str "welder")]

/-- The jobs of the board. -/
def boardJobs : List (RawItem Empty) := [.json (boardJob "1"), .json (boardJob "2")]

/-- The replies of the board. -/
def boardReplies : Nat → Option ProviderReply
  | 0 => some ⟨some (.obj [("jobs", .arr [boardJob "1"]), ("total", .int 2)]), ""⟩
  | 1 => some ⟨some (.obj [("jobs", .arr [boardJob "2"]), ("total", .int 2)]), ""⟩
  | _ + 2 => none

theorem servedInPages_board (totalPath : Option String)
    (isTotal : totalPath = some "total" ∨ totalPath = none) :
    ServedInPages (jobBoard totalPath) boardReplies boardJobs totalPath.isSome := by
  constructor
  · rintro (_ | _ | page) reply served
    · obtain rfl := Option.some.inj served
      rcases isTotal with rfl | rfl <;> decide +kernel
    · obtain rfl := Option.some.inj served
      rcases isTotal with rfl | rfl <;> decide +kernel
    · cases served
  · rintro (_ | _ | page) reply total served declared
    · obtain rfl := Option.some.inj served
      refine Option.some.inj (declared.symm.trans ?_)
      rcases isTotal with rfl | rfl <;> decide +kernel
    · obtain rfl := Option.some.inj served
      refine Option.some.inj (declared.symm.trans ?_)
      rcases isTotal with rfl | rfl <;> decide +kernel
    · cases served

/-- A request for permanent jobs. -/
def permanentJobs : JobSearchRequest where
  query := "welder"
  location := ""
  communalCodes := []
  keywords := []
  professionCodes := []
  workloadMin := 0
  workloadMax := 100
  contractType := .permanent
  postedWithinDays := none
  radiusSearch := none
  workForms := []
  language := "en"
  pageSize := 10
  sort := .dateDesc

/-- A permanent job and one that is not. -/
def adeccoJobs : List (Dict String Json) :=
  [[("jobId", .str "1"), ("contractTypeId", .str "PERM")],
    [("jobId", .str "2"), ("contractTypeId", .str "TEMP")]]

/-- The reply of Adecco. -/
def adeccoReply (_ : Nat) : Option Json :=
  some (.obj [("jobs", .arr (adeccoJobs.map .obj)), ("pagination", .obj [("total", .int 2)])])

theorem servedByAdecco_jobs : ServedByAdecco Unit (fun page => if page = 0 then adeccoReply page
    else none) adeccoJobs true := by
  constructor
  rintro (_ | page) summary served
  · obtain rfl := Option.some.inj served
    exact ⟨_, rfl, by decide +kernel,
      fun total counted => Option.some.inj (counted.symm.trans (by decide +kernel))⟩
  · cases served

/-- The board with a total loses nothing, nor does Adecco, and the board without one is asked for
no more than its two pages. -/
theorem pagination_losesNothing_board :
    LosesNothing (declarativeSearch Empty (jobBoard (some "total")) "en" boardReplies) 2 2
        (mappedPage (jobBoard (some "total")) "en" boardJobs) ∧
      LosesNothing (adeccoSearch Unit permanentJobs (fun page => if page = 0 then adeccoReply page
        else none) fun _ => none) 1 1 (adeccoPage permanentJobs (fun _ => none) adeccoJobs) ∧
      (searchProvider (declarativeSearch Empty (jobBoard none) "en" boardReplies) unstopped
        2).ended = true := by
  obtain ⟨declarative, adecco, ends⟩ := pagination_losesNothing_iff Empty Unit
  refine ⟨(declarative _ _ _ _ _ _ (servedInPages_board _ (Or.inl rfl)) (le_refl 2)).mpr ⟨?_, ?_⟩,
    (adecco _ _ _ _ _ _ servedByAdecco_jobs (le_refl 1)).mpr ⟨?_, ?_⟩,
    (ends _ _ _ _ _ (le_refl 2)).1⟩
  · intro _ earlier later before within last
    have within : later < 2 := within
    obtain rfl : earlier = 0 := by omega
    have shown : (mappedPage (jobBoard (some "total")) "en" boardJobs 0).length = 1 := by
      decide +kernel
    rcases last with impossible | impossible | impossible | impossible
    · exact absurd impossible (by decide)
    · cases impossible
    · exact absurd impossible (by decide)
    · rw [impossible] at shown
      cases shown
  · rintro page positive within ⟨fault, fails⟩
    have within : page < 2 := within
    obtain rfl : page = 1 := by omega
    have served : (declarativeSearch Empty (jobBoard (some "total")) "en" boardReplies
        1).toOption.isSome = true := by decide +kernel
    rw [fails] at served
    cases served
  · intro _ earlier later before within
    exact absurd (Nat.lt_of_le_of_lt (Nat.zero_le earlier) before) (Nat.not_lt.mpr
      (Nat.le_of_lt_succ within))
  · intro page positive within
    exact absurd positive (Nat.not_lt.mpr (Nat.le_of_lt_succ within))

/-- The board without a total shows a job on each of two pages, and only the first is found. -/
theorem pagination_loses_board :
    ¬LosesNothing (declarativeSearch Empty (jobBoard none) "en" boardReplies) 2 2
      (mappedPage (jobBoard none) "en" boardJobs) := by
  intro claimed
  have served : ∀ page < 2, ¬Fails (declarativeSearch Empty (jobBoard none) "en" boardReplies)
      page := by
    rintro page within ⟨fault, fails⟩
    have fine : ∀ number < 2, (declarativeSearch Empty (jobBoard none) "en" boardReplies
        number).toOption.isSome = true := by decide +kernel
    have isFine := fine page within
    rw [fails] at isFine
    cases isFine
  have found : (foundJobs (searchProvider (declarativeSearch Empty (jobBoard none) "en"
      boardReplies) unstopped 2)).map JobListing.id = ["1"] := by decide +kernel
  have mapped : ((List.range 2).flatMap (mappedPage (jobBoard none) "en" boardJobs)).map
      JobListing.id = ["1", "2"] := by decide +kernel
  rw [claimed.complete served, mapped] at found
  exact absurd found (by decide)

end

end JobProviders

end CareerOS
