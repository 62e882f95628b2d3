/-
This file is the loop that takes the duplicates out of the listings of a search.
It starts from the saved jobs of the profile and decides each listing by the
marks recorded so far; a listing that is kept leaves its marks, one that is
dropped leaves none. The saved jobs come as plain tuples, on which no attribute is
found, so that their marks are never there; and the marks of the run are recorded
as the history's too.
-/

import CareerOS.Library.Repeats
import CareerOS.Search.ListingMarks

namespace CareerOS

/-- The columns that `get_profile_job_identifiers` selects. -/
structure SavedListing where
  platform : Option String
  platformJobId : Option String
  externalUrl : Option String
  title : Option String
  company : Option String

/-- What `getattr` finds on the tuple of a row. -/
def SavedListing.tupleAttributes (_ : SavedListing) : ListingAttributes := .none

/-- A listing that was kept, with its `_applied_elsewhere`. -/
structure UniqueJob where
  listing : ListingAttributes
  appliedElsewhere : Bool

/-- The names in the loop of `_deduplicate`. -/
structure Deduplication where
  runState : RunDedupState
  profileHistory : ProfileHistory
  runtimeDuplicates : Nat
  historyDuplicates : Nat
  uniqueJobs : List UniqueJob

section

variable [ListingTexts]

/-- `profile_history`. -/
def profileHistory (rows : List ListingAttributes) : Except String ProfileHistory := do
  let urls ← rows.mapM listingUrlToken
  let strong := (rows.zip urls).filter fun (row, url) =>
    (listingIdentityKey row).isSome || url != ""
  return {
    existingKeys := rows.filterMap listingIdentityKey
    existingUrls := urls.filter (· != "")
    existingFuzzyKeys := (rows.map listingFuzzyKey).filter (· != "")
    existingFuzzyKeysStrong :=
      (strong.map fun (row, _) => listingFuzzyKey row).filter (· != "") }

/-- `getattr(listing, "source", None) or getattr(listing, "platform", "unknown")`. -/
def platformOf (listing : ListingAttributes) : Option String :=
  attributeOr listing.source (some (listing.platform.getD (some "unknown")))

/-- The pair that the listing is looked for under among the scraped jobs, if it is. -/
def requestedPair (listing : ListingAttributes) : Option (String × String) :=
  let platform := (platformOf listing).getD ""
  let id := attributeOr (some (listing.id.getD (some "")))
    (some (some ((listing.platformJobId.getD (some "")).getD "None")))
  if platform ≠ "" ∧ id.getD "" ≠ "" then some (platform, id.getD "") else none

/-- Is the listing one of the scraped jobs that were applied to in another profile? -/
def isAppliedElsewhere (applied : List (String × String)) (listings : List ListingAttributes)
    (listing : ListingAttributes) : Bool :=
  let platformId := normalizeListingIdentifier
    (attributeOr (some (listing.id.getD (some ""))) (some (listing.platformJobId.getD (some ""))))
  (platformOf listing).any fun platform =>
    applied.contains (platform, platformId) &&
      (listings.filterMap requestedPair).contains (platform, platformId)

namespace Deduplication

def new (history : ProfileHistory) : Deduplication := ⟨.new, history, 0, 0, []⟩

/-- `_duplicate_reason` of a listing with these marks. -/
def reason (state : Deduplication) (keys : DedupKeys) : Option DuplicateReason :=
  duplicateReason keys state.runState state.profileHistory

/-- The loop's body for a listing with these marks. -/
def decideWith (appliedElsewhere : ListingAttributes → Bool) (state : Deduplication)
    (listing : ListingAttributes) (keys : DedupKeys) : Deduplication :=
  match state.reason keys with
  | some .runtime => { state with runtimeDuplicates := state.runtimeDuplicates + 1 }
  | some .history => { state with historyDuplicates := state.historyDuplicates + 1 }
  | none => { state with
      runState := state.runState.record keys
      profileHistory := state.profileHistory.record keys
      uniqueJobs := state.uniqueJobs ++ [⟨listing, appliedElsewhere listing⟩] }

/-- The loop's body. -/
def visit (appliedElsewhere : ListingAttributes → Bool) (state : Deduplication)
    (listing : ListingAttributes) : Except String Deduplication := do
  let keys ← dedupKeys listing
  return state.decideWith appliedElsewhere listing keys

/-- `_duplicate_total`. -/
def duplicates (state : Deduplication) : Nat := state.runtimeDuplicates + state.historyDuplicates

end Deduplication

/-- The loop of `_deduplicate`, to its end. -/
def deduplicated (saved : List SavedListing) (applied : List (String × String))
    (listings : List ListingAttributes) : Except String Deduplication := do
  let history ← profileHistory (saved.map SavedListing.tupleAttributes)
  listings.foldlM (Deduplication.visit (isAppliedElsewhere applied listings)) (.new history)

/-- `_deduplicate`. -/
def deduplicate (saved : List SavedListing) (applied : List (String × String))
    (listings : List ListingAttributes) : Except String (List UniqueJob × Nat) := do
  let state ← deduplicated saved applied listings
  return (state.uniqueJobs, state.duplicates)

end

/-! ### Duplicates -/

namespace DedupKeys

def SharesKey (first second : DedupKeys) : Prop := first.key ≠ none ∧ first.key = second.key

def SharesUrl (first second : DedupKeys) : Prop := first.url ≠ "" ∧ first.url = second.url

def SharesWords (first second : DedupKeys) : Prop := first.fuzzy ≠ "" ∧ first.fuzzy = second.fuzzy

def SharesText (first second : DedupKeys) : Prop :=
  first.descFp ≠ none ∧ first.descFp = second.descFp

/-- A listing is the duplicate of another by its key, its address or its text, and by its words
when it has neither key nor address. -/
def Repeats (keys earlier : DedupKeys) : Prop :=
  keys.SharesKey earlier ∨ keys.SharesUrl earlier ∨ keys.SharesText earlier ∨
    (keys.hasAnchor = false ∧ keys.SharesWords earlier)

instance (keys earlier : DedupKeys) : Decidable (keys.Repeats earlier) := by
  unfold Repeats SharesKey SharesUrl SharesText SharesWords
  infer_instance

end DedupKeys

/-! ### What the marks say -/

/-- The marks of the run and of the history are those of the listings that were kept. -/
structure MarksRecorded (kept : List DedupKeys) (run : RunDedupState) (history : ProfileHistory) :
    Prop where
  keys : ∀ key, key ∈ run.seenIdentityKeys ↔ ∃ earlier ∈ kept, earlier.key = some key
  urls : ∀ url, url ∈ run.seenUrlTokens ↔ url ≠ "" ∧ ∃ earlier ∈ kept, earlier.url = url
  words : ∀ fuzzy, fuzzy ∈ run.seenFuzzyKeysAny ↔
    fuzzy ≠ "" ∧ ∃ earlier ∈ kept, earlier.fuzzy = fuzzy
  texts : ∀ text, text ∈ run.seenDescFingerprints ↔ ∃ earlier ∈ kept, earlier.descFp = some text
  sameKeys : history.existingKeys = run.seenIdentityKeys
  sameUrls : history.existingUrls = run.seenUrlTokens
  sameWords : history.existingFuzzyKeys = run.seenFuzzyKeysAny

theorem mem_addMark (mark text : String) (marks : List String) :
    mark ∈ addMark text marks ↔ (mark ≠ "" ∧ mark = text) ∨ mark ∈ marks := by
  unfold addMark
  by_cases empty : text = ""
  · rw [if_pos empty, empty]
    exact ⟨.inr, fun either => either.resolve_left fun both => both.1 both.2⟩
  · rw [if_neg empty, List.mem_cons]
    constructor
    · rintro (rfl | inside)
      · exact .inl ⟨empty, rfl⟩
      · exact .inr inside
    · rintro (⟨-, rfl⟩ | inside)
      · exact .inl rfl
      · exact .inr inside

theorem MarksRecorded.new : MarksRecorded [] .new ⟨[], [], [], []⟩ where
  keys _ := by simp [RunDedupState.new]
  urls _ := by simp [RunDedupState.new]
  words _ := by simp [RunDedupState.new]
  texts _ := by simp [RunDedupState.new]
  sameKeys := rfl
  sameUrls := rfl
  sameWords := rfl

theorem MarksRecorded.record {kept : List DedupKeys} {run : RunDedupState}
    {history : ProfileHistory} (recorded : MarksRecorded kept run history) (keys : DedupKeys) :
    MarksRecorded (kept ++ [keys]) (run.record keys) (history.record keys) where
  keys key := by
    rw [RunDedupState.record, List.mem_append, recorded.keys, Option.mem_toList]
    simp only [List.mem_append, List.mem_singleton, or_and_right, exists_or, exists_eq_left]
    exact Or.comm
  urls url := by
    rw [RunDedupState.record, mem_addMark, recorded.urls]
    simp only [List.mem_append, List.mem_singleton, or_and_right, exists_or, exists_eq_left,
      and_or_left]
    rw [Or.comm, eq_comm (a := url)]
  words fuzzy := by
    rw [RunDedupState.record, mem_addMark, recorded.words]
    simp only [List.mem_append, List.mem_singleton, or_and_right, exists_or, exists_eq_left,
      and_or_left]
    rw [Or.comm, eq_comm (a := fuzzy)]
  texts text := by
    rw [RunDedupState.record, List.mem_append, recorded.texts, Option.mem_toList]
    simp only [List.mem_append, List.mem_singleton, or_and_right, exists_or, exists_eq_left]
    exact Or.comm
  sameKeys := by rw [ProfileHistory.record, RunDedupState.record, recorded.sameKeys]
  sameUrls := by rw [ProfileHistory.record, RunDedupState.record, recorded.sameUrls]
  sameWords := by rw [ProfileHistory.record, RunDedupState.record, recorded.sameWords]

section

variable {kept : List DedupKeys} {run : RunDedupState} {history : ProfileHistory}

theorem MarksRecorded.any_key (recorded : MarksRecorded kept run history) (keys : DedupKeys) :
    keys.key.any run.seenIdentityKeys.contains = true ↔
      ∃ earlier ∈ kept, keys.SharesKey earlier := by
  unfold DedupKeys.SharesKey
  cases keys.key with
  | none => simp
  | some key =>
    rw [Option.any_some, List.contains_iff_mem, recorded.keys]
    simp [eq_comm]

theorem MarksRecorded.any_text (recorded : MarksRecorded kept run history) (keys : DedupKeys) :
    keys.descFp.any run.seenDescFingerprints.contains = true ↔
      ∃ earlier ∈ kept, keys.SharesText earlier := by
  unfold DedupKeys.SharesText
  cases keys.descFp with
  | none => simp
  | some text =>
    rw [Option.any_some, List.contains_iff_mem, recorded.texts]
    simp [eq_comm]

theorem MarksRecorded.any_url (recorded : MarksRecorded kept run history) (keys : DedupKeys) :
    (keys.url != "" && run.seenUrlTokens.contains keys.url) = true ↔
      ∃ earlier ∈ kept, keys.SharesUrl earlier := by
  unfold DedupKeys.SharesUrl
  rw [Bool.and_eq_true, bne_iff_ne, List.contains_iff_mem, recorded.urls]
  constructor
  · rintro ⟨solid, -, earlier, member, same⟩
    exact ⟨earlier, member, solid, same.symm⟩
  · rintro ⟨earlier, member, solid, same⟩
    exact ⟨solid, solid, earlier, member, same.symm⟩

theorem MarksRecorded.any_words (recorded : MarksRecorded kept run history) {keys : DedupKeys}
    (solid : keys.fuzzy ≠ "") : run.seenFuzzyKeysAny.contains keys.fuzzy = true ↔
      ∃ earlier ∈ kept, keys.SharesWords earlier := by
  unfold DedupKeys.SharesWords
  rw [List.contains_iff_mem, recorded.words]
  constructor
  · rintro ⟨-, earlier, member, same⟩
    exact ⟨earlier, member, solid, same.symm⟩
  · rintro ⟨earlier, member, -, same⟩
    exact ⟨solid, earlier, member, same.symm⟩

/-- What only looks at a text that the run has seen is decided before. -/
theorem strongFuzzyReason_eq_none {keys : DedupKeys}
    (unseen : keys.descFp.any run.seenDescFingerprints.contains = false) :
    strongFuzzyReason keys run history = none := by
  unfold strongFuzzyReason
  rw [unseen, Bool.and_false]
  rfl

/-- Does the run know the listing by its key, its address or its text? -/
def knownStrongly (keys : DedupKeys) (run : RunDedupState) : Bool :=
  keys.key.any run.seenIdentityKeys.contains ||
    (keys.url != "" && run.seenUrlTokens.contains keys.url) ||
      keys.descFp.any run.seenDescFingerprints.contains

/-- Does the run know the words of a listing without key and address? -/
def knownWeakly (keys : DedupKeys) (run : RunDedupState) : Bool :=
  keys.fuzzy != "" && !keys.hasAnchor && run.seenFuzzyKeysAny.contains keys.fuzzy

/-- As the history knows what the run knows, words alone are never found in the run first. -/
theorem MarksRecorded.reason_eq (recorded : MarksRecorded kept run history) (keys : DedupKeys) :
    duplicateReason keys run history =
      if knownStrongly keys run = true then some .runtime
      else if knownWeakly keys run = true then some .history else none := by
  unfold duplicateReason knownStrongly
  rw [recorded.sameKeys, recorded.sameUrls]
  by_cases byKey : keys.key.any run.seenIdentityKeys.contains = true
  · rw [if_pos byKey, byKey]
    rfl
  rw [if_neg byKey, if_neg byKey, Bool.eq_false_iff.mpr byKey, Bool.false_or]
  by_cases byUrl : (keys.url != "" && run.seenUrlTokens.contains keys.url) = true
  · rw [if_pos byUrl, byUrl]
    rfl
  rw [if_neg byUrl, if_neg byUrl, Bool.eq_false_iff.mpr byUrl, Bool.false_or]
  by_cases byText : keys.descFp.any run.seenDescFingerprints.contains = true
  · rw [if_pos byText, if_pos byText]
  rw [if_neg byText, if_neg byText]
  unfold fuzzyReason knownWeakly
  by_cases empty : keys.fuzzy = ""
  · rw [if_pos empty, empty]
    rfl
  rw [if_neg empty, recorded.sameWords, bne_iff_ne.mpr empty, Bool.true_and]
  by_cases byWords : (!keys.hasAnchor && run.seenFuzzyKeysAny.contains keys.fuzzy) = true
  · rw [if_pos byWords, if_pos byWords]
  rw [if_neg byWords, if_neg byWords, if_neg byWords,
    strongFuzzyReason_eq_none (Bool.eq_false_iff.mpr byText)]

theorem MarksRecorded.knownStrongly_iff (recorded : MarksRecorded kept run history)
    (keys : DedupKeys) :
    knownStrongly keys run = true ↔ ∃ earlier ∈ kept,
      keys.SharesKey earlier ∨ keys.SharesUrl earlier ∨ keys.SharesText earlier := by
  unfold knownStrongly
  rw [Bool.or_eq_true, Bool.or_eq_true, recorded.any_key, recorded.any_url, recorded.any_text]
  simp only [and_or_left, exists_or, or_assoc]

theorem MarksRecorded.knownWeakly_iff (recorded : MarksRecorded kept run history)
    (keys : DedupKeys) :
    knownWeakly keys run = true ↔
      keys.hasAnchor = false ∧ ∃ earlier ∈ kept, keys.SharesWords earlier := by
  unfold knownWeakly
  by_cases empty : keys.fuzzy = ""
  · rw [empty]
    exact ⟨nofun, fun ⟨_, _, _, shared⟩ => absurd empty shared.1⟩
  · rw [bne_iff_ne.mpr empty, Bool.true_and, Bool.and_eq_true, Bool.not_eq_true',
      recorded.any_words empty]

/-- A listing is kept exactly if it repeats none that was kept. -/
theorem MarksRecorded.reason_eq_none_iff (recorded : MarksRecorded kept run history)
    (keys : DedupKeys) :
    duplicateReason keys run history = none ↔ ∀ earlier ∈ kept, ¬keys.Repeats earlier := by
  rw [recorded.reason_eq]
  constructor
  · intro none earlier member repeated
    split_ifs at none with strong weak
    rcases repeated with shared | shared | shared | ⟨unanchored, shared⟩
    · exact strong ((recorded.knownStrongly_iff keys).mpr ⟨earlier, member, .inl shared⟩)
    · exact strong ((recorded.knownStrongly_iff keys).mpr ⟨earlier, member, .inr (.inl shared)⟩)
    · exact strong ((recorded.knownStrongly_iff keys).mpr ⟨earlier, member, .inr (.inr shared)⟩)
    · exact weak ((recorded.knownWeakly_iff keys).mpr ⟨unanchored, earlier, member, shared⟩)
  · intro apart
    rw [if_neg, if_neg]
    · intro weak
      obtain ⟨unanchored, earlier, member, shared⟩ := (recorded.knownWeakly_iff keys).mp weak
      exact apart earlier member (.inr (.inr (.inr ⟨unanchored, shared⟩)))
    · intro strong
      obtain ⟨earlier, member, shared⟩ := (recorded.knownStrongly_iff keys).mp strong
      exact apart earlier member (shared.imp_right fun either => either.imp_right .inl)

/-- A listing is dropped for the history exactly if its words alone repeat those of one that was
kept. -/
theorem MarksRecorded.reason_eq_history_iff (recorded : MarksRecorded kept run history)
    (keys : DedupKeys) :
    duplicateReason keys run history = some .history ↔
      keys.hasAnchor = false ∧ (∃ earlier ∈ kept, keys.SharesWords earlier) ∧
        ∀ earlier ∈ kept, ¬keys.SharesText earlier := by
  rw [recorded.reason_eq]
  constructor
  · intro known
    split_ifs at known with strong weak
    · cases known
    obtain ⟨unanchored, shared⟩ := (recorded.knownWeakly_iff keys).mp weak
    refine ⟨unanchored, shared, fun earlier member same => strong ?_⟩
    exact (recorded.knownStrongly_iff keys).mpr ⟨earlier, member, .inr (.inr same)⟩
  · rintro ⟨unanchored, shared, apart⟩
    rw [if_neg, if_pos ((recorded.knownWeakly_iff keys).mpr ⟨unanchored, shared⟩)]
    intro strong
    obtain ⟨earlier, member, byKey | byUrl | byText⟩ := (recorded.knownStrongly_iff keys).mp strong
    · rw [DedupKeys.hasAnchor, Option.isSome_iff_ne_none.mpr byKey.1] at unanchored
      cases unanchored
    · rw [DedupKeys.hasAnchor, bne_iff_ne.mpr byUrl.1, Bool.or_true] at unanchored
      cases unanchored
    · exact apart earlier member byText

end

/-! ### The run of the loop -/

section

variable [ListingTexts]

/-- The listing is the duplicate of an earlier one. -/
def RepeatsListing (listing earlier : ListingAttributes) : Prop :=
  (marksOf listing).Repeats (marksOf earlier)

instance : DecidableRel RepeatsListing := fun listing earlier =>
  inferInstanceAs (Decidable ((marksOf listing).Repeats (marksOf earlier)))

/-- The attributes that the marks of a saved job would be read off. -/
def SavedListing.attributes (saved : SavedListing) : ListingAttributes :=
  { ListingAttributes.none with
    platform := some saved.platform
    platformJobId := some saved.platformJobId
    externalUrl := some saved.externalUrl
    title := some saved.title
    company := some (saved.company.map .text) }

/-- The listing is the duplicate of a saved job. -/
def RepeatsSaved (saved : List SavedListing) (listing : ListingAttributes) : Prop :=
  ∃ row ∈ saved, (marksOf listing).Repeats (marksOf row.attributes)

/-- The marks of the saved jobs are not there. -/
theorem profileHistory_tuples (saved : List SavedListing) :
    profileHistory (saved.map SavedListing.tupleAttributes) = .ok ⟨[], [], [], []⟩ := by
  have rows : saved.map SavedListing.tupleAttributes = List.replicate saved.length .none :=
    List.map_const'
  have urls (count : Nat) : (List.replicate count ListingAttributes.none).mapM listingUrlToken =
      .ok (List.replicate count "") := by
    induction count with
    | zero => rfl
    | succ count inductionHypothesis =>
      rw [List.replicate_succ, List.mapM_cons, inductionHypothesis]
      rfl
  unfold profileHistory
  rw [rows, urls]
  simp [pure, Except.pure, bind, Except.bind, listingIdentityKey_none, listingFuzzyKey_none,
    List.filterMap_replicate]

namespace Deduplication

variable (appliedElsewhere : ListingAttributes → Bool)

/-- The loop's body for a listing whose address can be read. -/
def decideOn (state : Deduplication) (listing : ListingAttributes) : Deduplication :=
  state.decideWith appliedElsewhere listing (marksOf listing)

/-- What the loop has when it has seen these listings, on an empty history. -/
def after (listings : List ListingAttributes) : Deduplication :=
  listings.foldl (decideOn appliedElsewhere) (.new ⟨[], [], [], []⟩)

/-- What the loop finds for each listing, in order. -/
def decisions (state : Deduplication) :
    List ListingAttributes → List (ListingAttributes × Option DuplicateReason)
  | [] => []
  | listing :: rest =>
    (listing, state.reason (marksOf listing)) ::
      decisions (state.decideOn appliedElsewhere listing) rest

theorem visit_ok_iff (state next : Deduplication) (listing : ListingAttributes) :
    state.visit appliedElsewhere listing = .ok next ↔
      AddressRead listing ∧ next = state.decideOn appliedElsewhere listing := by
  unfold visit decideOn
  rw [bind_ok_iff]
  constructor
  · rintro ⟨keys, read, same⟩
    have addressRead := addressRead_of_dedupKeys read
    rw [dedupKeys_of_addressRead addressRead] at read
    rw [← Except.ok.inj read] at same
    exact ⟨addressRead, (Except.ok.inj same).symm⟩
  · rintro ⟨addressRead, rfl⟩
    exact ⟨_, dedupKeys_of_addressRead addressRead, rfl⟩

theorem foldlM_visit_ok_iff (listings : List ListingAttributes) :
    ∀ state final : Deduplication,
      listings.foldlM (visit appliedElsewhere) state = .ok final ↔
        (∀ listing ∈ listings, AddressRead listing) ∧
          final = listings.foldl (decideOn appliedElsewhere) state := by
  induction listings with
  | nil =>
    intro state final
    rw [List.foldlM_nil, List.foldl_nil, pure_ok_iff]
    exact ⟨fun same => ⟨fun _ inside => absurd inside List.not_mem_nil, same.symm⟩,
      fun same => same.2.symm⟩
  | cons listing rest inductionHypothesis =>
    intro state final
    rw [List.foldlM_cons, bind_ok_iff, List.forall_mem_cons, List.foldl_cons]
    constructor
    · rintro ⟨next, visited, finished⟩
      obtain ⟨read, rfl⟩ := (visit_ok_iff appliedElsewhere state next listing).mp visited
      obtain ⟨restRead, same⟩ := (inductionHypothesis _ final).mp finished
      exact ⟨⟨read, restRead⟩, same⟩
    · rintro ⟨⟨read, restRead⟩, same⟩
      exact ⟨_, (visit_ok_iff appliedElsewhere state _ listing).mpr ⟨read, rfl⟩,
        (inductionHypothesis _ final).mpr ⟨restRead, same⟩⟩

theorem deduplicated_ok_iff (saved : List SavedListing) (applied : List (String × String))
    (listings : List ListingAttributes) (final : Deduplication) :
    deduplicated saved applied listings = .ok final ↔
      (∀ listing ∈ listings, AddressRead listing) ∧
        final = after (isAppliedElsewhere applied listings) listings := by
  unfold deduplicated
  rw [profileHistory_tuples]
  exact foldlM_visit_ok_iff _ listings _ final

/-- The marks that the loop has are those of the listings that repeat none that was kept. -/
theorem after_spec (listings : List ListingAttributes) :
    MarksRecorded ((Repeats.keptOf RepeatsListing listings).map marksOf)
        (after appliedElsewhere listings).runState
        (after appliedElsewhere listings).profileHistory ∧
      (after appliedElsewhere listings).uniqueJobs.map UniqueJob.listing =
        Repeats.keptOf RepeatsListing listings ∧
      listings.length = (after appliedElsewhere listings).uniqueJobs.length +
        (after appliedElsewhere listings).duplicates := by
  induction listings using List.reverseRecOn with
  | nil => exact ⟨MarksRecorded.new, rfl, rfl⟩
  | append_singleton listings listing inductionHypothesis =>
    obtain ⟨recorded, unique, counted⟩ := inductionHypothesis
    have stepped : after appliedElsewhere (listings ++ [listing]) =
        (after appliedElsewhere listings).decideOn appliedElsewhere listing := by
      rw [after, List.foldl_append]
      rfl
    have kept : (after appliedElsewhere listings).reason (marksOf listing) = none ↔
        ¬∃ earlier ∈ Repeats.keptOf RepeatsListing listings, RepeatsListing listing earlier := by
      refine (recorded.reason_eq_none_iff (marksOf listing)).trans ?_
      rw [List.forall_mem_map]
      exact ⟨fun apart ⟨earlier, member, again⟩ => apart earlier member again,
        fun apart earlier member again => apart ⟨earlier, member, again⟩⟩
    rw [stepped, Repeats.keptOf_concat, List.length_append, List.length_singleton, counted]
    unfold Repeats.keep decideOn decideWith
    cases found : (after appliedElsewhere listings).reason (marksOf listing) with
    | none =>
      rw [if_neg (kept.mp found), List.map_append, List.map_append, unique, List.length_append,
        List.length_singleton]
      refine ⟨recorded.record (marksOf listing), rfl, ?_⟩
      exact Nat.add_right_comm _ _ _
    | some reason =>
      rw [if_pos (not_not.mp (mt kept.mpr (found ▸ nofun)))]
      cases reason with
      | runtime =>
        refine ⟨recorded, unique, ?_⟩
        dsimp only [duplicates]
        omega
      | history =>
        refine ⟨recorded, unique, ?_⟩
        dsimp only [duplicates]
        omega

theorem reason_after_eq_none_iff (before : List ListingAttributes) (listing : ListingAttributes) :
    (after appliedElsewhere before).reason (marksOf listing) = none ↔
      ∀ kept ∈ Repeats.keptOf RepeatsListing before, ¬RepeatsListing listing kept := by
  refine ((after_spec appliedElsewhere before).1.reason_eq_none_iff (marksOf listing)).trans ?_
  rw [List.forall_mem_map]
  exact Iff.rfl

theorem reason_after_eq_history_iff (before : List ListingAttributes)
    (listing : ListingAttributes) :
    (after appliedElsewhere before).reason (marksOf listing) = some .history ↔
      (marksOf listing).hasAnchor = false ∧
        (∃ kept ∈ Repeats.keptOf RepeatsListing before,
          (marksOf listing).SharesWords (marksOf kept)) ∧
        ∀ kept ∈ Repeats.keptOf RepeatsListing before,
          ¬(marksOf listing).SharesText (marksOf kept) := by
  refine ((after_spec appliedElsewhere before).1.reason_eq_history_iff (marksOf listing)).trans ?_
  rw [List.forall_mem_map]
  simp only [List.mem_map, exists_exists_and_eq_and]

theorem visited_decisions (listings : List ListingAttributes) : ∀ state : Deduplication,
    (decisions appliedElsewhere state listings).map Prod.fst = listings := by
  induction listings with
  | nil => exact fun _ => rfl
  | cons first rest inductionHypothesis =>
    exact fun state => congrArg (first :: ·) (inductionHypothesis _)

/-- A decision is made by what the loop has of the listings before. -/
theorem decisions_split {listings : List ListingAttributes}
    {front back : List (ListingAttributes × Option DuplicateReason)} {listing : ListingAttributes}
    {reason : Option DuplicateReason} :
    ∀ {state : Deduplication},
      decisions appliedElsewhere state listings = front ++ (listing, reason) :: back →
        listings = front.map Prod.fst ++ listing :: back.map Prod.fst ∧
          reason = ((front.map Prod.fst).foldl (decideOn appliedElsewhere) state).reason
            (marksOf listing) := by
  induction front generalizing listings with
  | nil =>
    intro state split
    cases listings with
    | nil => cases split
    | cons first rest =>
      obtain ⟨here, later⟩ := List.cons.inj split
      obtain ⟨rfl, rfl⟩ := Prod.mk.inj here
      rw [← later, visited_decisions]
      exact ⟨rfl, rfl⟩
  | cons decision front inductionHypothesis =>
    intro state split
    cases listings with
    | nil => cases split
    | cons first rest =>
      obtain ⟨rfl, later⟩ := List.cons.inj split
      obtain ⟨places, decided⟩ := inductionHypothesis later
      exact ⟨congrArg (first :: ·) places, decided⟩

/-- Each place of the list is decided. -/
theorem decisions_append (listing : ListingAttributes) (rest before : List ListingAttributes) :
    ∀ state : Deduplication, ∃ front back,
      decisions appliedElsewhere state (before ++ listing :: rest) =
        front ++ (listing, ((before.foldl (decideOn appliedElsewhere) state).reason
          (marksOf listing))) :: back ∧ front.map Prod.fst = before := by
  induction before with
  | nil => exact fun state => ⟨[], _, rfl, rfl⟩
  | cons first before inductionHypothesis =>
    intro state
    obtain ⟨front, back, split, places⟩ :=
      inductionHypothesis (state.decideOn appliedElsewhere first)
    refine ⟨(first, state.reason (marksOf first)) :: front, back, ?_, congrArg (first :: ·) places⟩
    rw [List.cons_append, decisions, split]
    rfl

/-- The counters are those of the decisions. -/
theorem foldl_counts (listings : List ListingAttributes) : ∀ state : Deduplication,
    let final := listings.foldl (decideOn appliedElsewhere) state
    let decided := decisions appliedElsewhere state listings
    final.uniqueJobs.map UniqueJob.listing = state.uniqueJobs.map UniqueJob.listing ++
        (decided.filter fun decision => decision.2.isNone).map Prod.fst ∧
      final.runtimeDuplicates = state.runtimeDuplicates +
        decided.countP (fun decision => decision.2 = some .runtime) ∧
      final.historyDuplicates = state.historyDuplicates +
        decided.countP (fun decision => decision.2 = some .history) := by
  induction listings with
  | nil => exact fun state => ⟨(List.append_nil _).symm, rfl, rfl⟩
  | cons listing rest inductionHypothesis =>
    intro state
    obtain ⟨unique, runtime, history⟩ :=
      inductionHypothesis (state.decideOn appliedElsewhere listing)
    dsimp only
    rw [List.foldl_cons, unique, runtime, history, decisions, List.countP_cons, List.countP_cons,
      List.filter_cons]
    unfold decideOn decideWith
    cases state.reason (marksOf listing) with
    | none => simp
    | some reason =>
      cases reason with
      | runtime =>
        simp
        omega
      | history =>
        simp
        omega

end Deduplication

/-! ### What the loop is for -/

open Deduplication

/-- A listing is kept exactly if it repeats neither an earlier listing nor a saved job, a dropped
one is counted for the history only if it repeats a saved job, no two that are kept share a key, an
address or a text, and the counters add up. -/
structure DeduplicatesRightly (saved : List SavedListing) (listings : List ListingAttributes)
    (decided : List (ListingAttributes × Option DuplicateReason)) (state : Deduplication) :
    Prop where
  visited : decided.map Prod.fst = listings
  kept : ∀ front listing reason back, decided = front ++ (listing, reason) :: back →
    (reason = none ↔ (∀ earlier ∈ front.map Prod.fst, ¬RepeatsListing listing earlier) ∧
      ¬RepeatsSaved saved listing)
  inHistory : ∀ listing, (listing, some .history) ∈ decided → RepeatsSaved saved listing
  inRun : ∀ front listing back, decided = front ++ (listing, some .runtime) :: back →
    ∃ earlier ∈ front.map Prod.fst, RepeatsListing listing earlier
  uniqueJobs : state.uniqueJobs.map UniqueJob.listing =
    (decided.filter fun decision => decision.2.isNone).map Prod.fst
  runtime : state.runtimeDuplicates = decided.countP fun decision => decision.2 = some .runtime
  history : state.historyDuplicates = decided.countP fun decision => decision.2 = some .history
  apart : state.uniqueJobs.Pairwise fun first second =>
    ¬((marksOf second.listing).SharesKey (marksOf first.listing) ∨
      (marksOf second.listing).SharesUrl (marksOf first.listing) ∨
      (marksOf second.listing).SharesText (marksOf first.listing))
  found : listings.length =
    state.uniqueJobs.length + state.runtimeDuplicates + state.historyDuplicates

/-- Every address can be read, every repetition repeats a listing that repeats none before it, and
when only the words of such a listing are repeated, without key and address, a saved job has them
too. -/
structure Deduplicable (saved : List SavedListing) (listings : List ListingAttributes) : Prop where
  read : ∀ listing ∈ listings, AddressRead listing
  rooted : Repeats.Rooted RepeatsListing (RepeatsSaved saved) listings
  words : ∀ before listing after, listings = before ++ listing :: after →
    (marksOf listing).hasAnchor = false →
    (∃ first, Repeats.IsFirst RepeatsListing before first ∧
      (marksOf listing).SharesWords (marksOf first)) →
    (∀ first, Repeats.IsFirst RepeatsListing before first →
      ¬(marksOf listing).SharesText (marksOf first)) →
    RepeatsSaved saved listing

section

variable {appliedElsewhere : ListingAttributes → Bool} {saved : List SavedListing}
  {listings : List ListingAttributes}

/-- The listings that are kept are those that repeat nothing exactly if they are rooted. -/
theorem kept_iff_rooted :
    (∀ front listing reason back,
      decisions appliedElsewhere (.new ⟨[], [], [], []⟩) listings =
        front ++ (listing, reason) :: back →
      (reason = none ↔ (∀ earlier ∈ front.map Prod.fst, ¬RepeatsListing listing earlier) ∧
        ¬RepeatsSaved saved listing)) ↔
      Repeats.Rooted RepeatsListing (RepeatsSaved saved) listings := by
  rw [← Repeats.keeps_exactly_iff]
  constructor
  · intro kept before listing rest split
    obtain ⟨front, back, decided, rfl⟩ := decisions_append appliedElsewhere listing rest before
      (.new ⟨[], [], [], []⟩)
    rw [← split] at decided
    rw [← kept front listing _ back decided]
    exact (reason_after_eq_none_iff appliedElsewhere _ listing).symm
  · intro kept front listing reason back split
    obtain ⟨places, rfl⟩ := decisions_split appliedElsewhere split
    rw [← kept _ listing _ places]
    exact reason_after_eq_none_iff appliedElsewhere _ listing

/-- A listing that is dropped for the history has no key and no address, and repeats only the words
of first listings. -/
theorem history_iff (rooted : Repeats.Rooted RepeatsListing (RepeatsSaved saved) listings)
    {before rest : List ListingAttributes} {listing : ListingAttributes}
    (split : listings = before ++ listing :: rest) :
    (after appliedElsewhere before).reason (marksOf listing) = some .history ↔
      (marksOf listing).hasAnchor = false ∧
        (∃ first, Repeats.IsFirst RepeatsListing before first ∧
          (marksOf listing).SharesWords (marksOf first)) ∧
        ∀ first, Repeats.IsFirst RepeatsListing before first →
          ¬(marksOf listing).SharesText (marksOf first) := by
  have firsts (first : ListingAttributes) :
      first ∈ Repeats.keptOf RepeatsListing before ↔ Repeats.IsFirst RepeatsListing before first :=
    ⟨rooted.isFirst RepeatsListing split, fun isFirst => isFirst.mem_keptOf RepeatsListing⟩
  rw [reason_after_eq_history_iff]
  simp only [firsts]

/-- What does not repeat an earlier listing shares no key, address and text with it. -/
theorem apart_keptOf :
    (Repeats.keptOf RepeatsListing listings).Pairwise fun first second =>
      ¬((marksOf second).SharesKey (marksOf first) ∨ (marksOf second).SharesUrl (marksOf first) ∨
        (marksOf second).SharesText (marksOf first)) := by
  refine (Repeats.pairwise_keptOf RepeatsListing listings).imp fun apart shared => apart ?_
  exact shared.imp_right fun either => either.imp_right .inl

end

/-- The loop is right about a search exactly if its listings are deduplicable. -/
theorem deduplicates_rightly_iff (saved : List SavedListing) (applied : List (String × String))
    (listings : List ListingAttributes) :
    (∃ history state, profileHistory (saved.map SavedListing.tupleAttributes) = .ok history ∧
      deduplicated saved applied listings = .ok state ∧
      DeduplicatesRightly saved listings
        (decisions (isAppliedElsewhere applied listings) (.new history) listings) state) ↔
      Deduplicable saved listings := by
  constructor
  · rintro ⟨history, state, loaded, finished, right⟩
    obtain ⟨read, -⟩ := (deduplicated_ok_iff saved applied listings state).mp finished
    rw [profileHistory_tuples] at loaded
    obtain rfl := Except.ok.inj loaded
    have rooted := kept_iff_rooted.mp right.kept
    refine ⟨read, rooted, fun before listing rest split weak shared unshared => ?_⟩
    obtain ⟨front, back, decided, rfl⟩ := decisions_append
      (isAppliedElsewhere applied listings) listing rest before (.new ⟨[], [], [], []⟩)
    rw [← split] at decided
    refine right.inHistory listing ?_
    rw [decided, ← (history_iff rooted split).mpr ⟨weak, shared, unshared⟩]
    exact List.mem_append_right _ List.mem_cons_self
  · intro deduplicable
    obtain ⟨recorded, unique, counted⟩ := after_spec (isAppliedElsewhere applied listings) listings
    obtain ⟨kept, runtime, history⟩ := foldl_counts (isAppliedElsewhere applied listings) listings
      (.new ⟨[], [], [], []⟩)
    refine ⟨_, _, profileHistory_tuples saved,
      (deduplicated_ok_iff saved applied listings _).mpr ⟨deduplicable.read, rfl⟩, ?_⟩
    exact {
      visited := visited_decisions _ listings _
      kept := kept_iff_rooted.mpr deduplicable.rooted
      inHistory := by
        intro listing member
        obtain ⟨front, back, decided⟩ := List.mem_iff_append.mp member
        obtain ⟨split, found⟩ := decisions_split _ decided
        obtain ⟨weak, shared, unshared⟩ := (history_iff deduplicable.rooted split).mp found.symm
        exact deduplicable.words _ listing _ split weak shared unshared
      inRun := by
        intro front listing back decided
        obtain ⟨split, found⟩ := decisions_split _ decided
        have dropped : ¬∀ kept ∈ Repeats.keptOf RepeatsListing (front.map Prod.fst),
            ¬RepeatsListing listing kept := by
          intro apart
          have none := (reason_after_eq_none_iff (isAppliedElsewhere applied listings) _
            listing).mpr apart
          cases found.trans none
        obtain ⟨earlier, dropped⟩ := not_forall.mp dropped
        obtain ⟨member, again⟩ := Classical.not_imp.mp dropped
        exact ⟨earlier, Repeats.keptOf_subset _ _ member, not_not.mp again⟩
      uniqueJobs := kept
      runtime := runtime.trans (Nat.zero_add _)
      history := history.trans (Nat.zero_add _)
      apart := List.pairwise_map.mp (unique ▸ apart_keptOf)
      found := counted.trans (Nat.add_assoc _ _ _).symm }

end

/-! ### A saved job that is found again -/

/-- The tables on lower-case ASCII text without an address. -/
@[reducible] def ListingTexts.plain : ListingTexts where
  toTextTables := TextTables.plain
  toWordTables := WordTables.ascii
  lower_empty := rfl
  parseQsl _ := []
  urlencode _ := ""
  sha256 := id

section

attribute [local instance] ListingTexts.plain

/-- A job of the profile's history. -/
def savedNurse : SavedListing := ⟨some "job_room", some "4711", none, some "nurse", some "clinic"⟩

/-- The same job, as the search finds it. -/
def foundNurse : ListingAttributes :=
  { ListingAttributes.none with
    source := some (some "job_room")
    id := some (some "4711")
    externalUrl := some none
    title := some (some "nurse")
    company := some (some (.named (some "clinic"))) }

/-- The saved job is kept as a new one. -/
theorem deduplicate_keeps_saved :
    ¬∀ (saved : List SavedListing) (applied : List (String × String))
      (listings : List ListingAttributes),
      ∃ history state, profileHistory (saved.map SavedListing.tupleAttributes) = .ok history ∧
        deduplicated saved applied listings = .ok state ∧
        DeduplicatesRightly saved listings
          (Deduplication.decisions (isAppliedElsewhere applied listings) (.new history) listings)
          state := by
  intro claimed
  obtain ⟨history, state, loaded, -, right⟩ := claimed [savedNurse] [] [foundNurse]
  rw [profileHistory_tuples] at loaded
  obtain rfl := Except.ok.inj loaded
  have keptAsNew := (right.kept [] foundNurse none [] rfl).mp rfl
  refine keptAsNew.2 ⟨savedNurse, List.mem_cons_self, .inl ⟨?_, ?_⟩⟩
  · decide +kernel
  · decide +kernel

end

end CareerOS
