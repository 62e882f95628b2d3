/-
This file says when the saved searches stay executable: a planned search of a stored
profile has a request that the request model takes, with the range of work that the
results are filtered by. The queries of the planner are always short enough, and what
the schemas check of a number holds of every stored profile. Four things they do not
check, so the condition of each step of the owner is just these: the length of the
place, the position of the coordinates, the order of two ranges of work that come from
different updates, and that a workload filter, which the filter of the results never
sees, asks for no range.
-/

import CareerOS.Library.Outcome
import CareerOS.Services.ProfileUpdates
import CareerOS.Services.SearchRequests

namespace CareerOS

namespace SearchProfiles

open Text

/-! ### The planned queries -/

theorem length_normalizeWhitespace_le (letters : List Char) :
    (normalizeWhitespace letters).length ≤ letters.length :=
  (length_collapseFrom_le isSpace ' ' false _).trans (length_trim_le isSpace letters)

theorem length_cleanPhrase_le (maximum : Nat) (letters : List Char) :
    (cleanPhrase maximum letters).length ≤ min maximum letters.length := by
  have short : (trim isPhraseMark (collapse isSpace ' ' letters)).length ≤ letters.length :=
    (length_trim_le _ _).trans (length_collapseFrom_le isSpace ' ' false letters)
  refine (length_rdropWhile_le isSpace _).trans ?_
  rw [List.length_take]
  exact min_le_min_left maximum short

variable {setting : String → Json} {search : SearchItem}

section

variable [QueryTables]

theorem length_removeNoise_le (skip : Nat) (inWord : Bool) (letters : List Char) :
    (removeNoise skip inWord letters).length ≤ letters.length := by
  induction letters generalizing skip inWord with
  | nil =>
    cases skip <;> exact Nat.le_refl 0
  | cons letter rest inductionHypothesis =>
    cases skip with
    | succ skip => exact Nat.le_succ_of_le (inductionHypothesis skip _)
    | zero =>
      unfold removeNoise
      split
      · exact Nat.succ_le_succ (inductionHypothesis 0 _)
      · exact Nat.succ_le_succ (inductionHypothesis _ _)

/-- No query is longer in its canonical form. -/
theorem length_canonicalizeQueryText_le (query : String) :
    (canonicalizeQueryText query).length ≤ query.length := by
  unfold canonicalizeQueryText
  rw [String.length_ofList]
  refine (length_normalizeWhitespace_le _).trans ?_
  rw [cleanQuery, List.length_map]
  refine (length_removeNoise_le 0 false _).trans ?_
  rw [List.length_map]
  exact length_normalizeWhitespace_le _

omit [QueryTables] in
theorem length_roleCandidates {role : String} {candidate : List Char}
    (member : candidate ∈ roleCandidates role) : candidate.length ≤ 1000 := by
  unfold roleCandidates at member
  dsimp only at member
  split at member
  · exact absurd member List.not_mem_nil
  · split at member
    · rw [List.mem_singleton.mp member]
      refine (length_rdropWhile_le isSpace _).trans ?_
      rw [List.length_take]
      exact (min_le_left 120 _).trans (by decide)
    · rename_i some
      obtain ⟨part, -, rfl⟩ := List.mem_map.mp (List.mem_filter.mp member).1
      exact ((length_cleanPhrase_le 120 part).trans (min_le_left 120 _)).trans (by decide)

/-- The words of a fragment that are asked for are not longer than the fragment. -/
theorem length_fragmentKeyword {fragment keyword : List Char}
    (asked : fragmentKeyword fragment = some keyword) : keyword.length ≤ fragment.length := by
  unfold fragmentKeyword at asked
  dsimp only at asked
  split at asked
  · rename_i counted
    obtain rfl := Option.some.inj asked
    have shorter := ((List.filter_sublist (l := strategyWords fragment) (p := fun word =>
      decide (QueryTables.casefold (String.ofList word) ∉ strategyStopwords))).trans
        List.filter_sublist).map fun word : List Char => word.length + 1
    have whole := sum_length_runsFrom (fun letter =>
      WordTables.isWord letter || ['+', '#', '.', '-'].contains letter) [] fragment
    have some : ((strategyWords fragment).filter fun word =>
        QueryTables.casefold (String.ofList word) ∉ strategyStopwords) ≠ [] := fun empty => by
      rw [empty] at counted
      exact absurd counted.1 (by decide)
    have joined := Text.length_intercalate ' ' some
    have least := shorter.sum_le_sum fun _ _ => Nat.zero_le _
    rw [List.length_nil, Nat.zero_add] at whole
    exact Nat.succ_le_succ_iff.mp (joined.le.trans (least.trans whole))
  · cases asked

theorem length_keywordCandidates {strategy : String} {candidate : List Char}
    (member : candidate ∈ keywordCandidates strategy) : candidate.length ≤ 1000 := by
  have cleaned := (length_cleanPhrase_le 1000 strategy.toList).trans (min_le_left 1000 _)
  rcases List.mem_append.mp (List.mem_filter.mp member).1 with quoted | fragment
  · obtain ⟨phrase, -, rfl⟩ := List.mem_map.mp quoted
    exact ((length_cleanPhrase_le 80 phrase).trans (min_le_left 80 _)).trans (by decide)
  · obtain ⟨part, isPart, asked⟩ := List.mem_filterMap.mp fragment
    have inside := length_le_of_mem_runsFrom isPart
    rw [List.length_nil, Nat.zero_add] at inside
    exact (length_fragmentKeyword asked).trans (inside.trans cleaned)

/-- The loop of the planner takes normal forms of candidates. -/
theorem mem_selectQueries {limits : PlanLimits} {selection : Selection}
    {candidates : List SearchItem} (member : search ∈ selectQueries limits selection candidates) :
    search ∈ selection.taken ∨
      ∃ candidate ∈ candidates, normalizeSearchItem candidate = some search := by
  induction candidates generalizing selection with
  | nil => exact Or.inl member
  | cons first rest inductionHypothesis =>
    have later : ∀ {selection}, search ∈ selectQueries limits selection rest →
        search ∈ selection.taken ∨
          ∃ candidate ∈ first :: rest, normalizeSearchItem candidate = some search :=
      fun inside => (inductionHypothesis inside).imp id fun ⟨candidate, isCandidate, normal⟩ =>
        ⟨candidate, List.mem_cons_of_mem _ isCandidate, normal⟩
    unfold selectQueries at member
    split at member
    · exact later member
    · rename_i normalized normal
      dsimp only at member
      have taken : search ∈ selection.taken ++ [normalized] →
          search ∈ selection.taken ∨
            ∃ candidate ∈ first :: rest, normalizeSearchItem candidate = some search := by
        intro inside
        refine (List.mem_append.mp inside).imp id fun last => ?_
        rw [List.mem_singleton.mp last]
        exact ⟨first, List.mem_cons_self, normal⟩
      split at member
      · exact later member
      · split at member
        · exact taken member
        · rcases later member with inside | found
          · exact taken inside
          · exact Or.inr found

theorem mem_uniqueSearches {seen : List String} {searches : List SearchItem}
    (member : search ∈ uniqueSearches seen searches) :
    ∃ candidate ∈ searches, normalizeSearchItem candidate = some search := by
  induction searches generalizing seen with
  | nil => exact absurd member List.not_mem_nil
  | cons first rest inductionHypothesis =>
    have later : ∀ {seen}, search ∈ uniqueSearches seen rest →
        ∃ candidate ∈ first :: rest, normalizeSearchItem candidate = some search :=
      fun inside =>
        let ⟨candidate, isCandidate, normal⟩ := inductionHypothesis inside
        ⟨candidate, List.mem_cons_of_mem _ isCandidate, normal⟩
    unfold uniqueSearches at member
    split at member
    · exact later member
    · rename_i normalized normal
      dsimp only at member
      split at member
      · exact later member
      · rcases List.mem_cons.mp member with rfl | inside
        · exact ⟨first, List.mem_cons_self, normal⟩
        · exact later inside

theorem length_normalizeSearchItem {search normalized : SearchItem}
    (normal : normalizeSearchItem search = some normalized) :
    normalized.query.length ≤ search.query.length := by
  unfold normalizeSearchItem at normal
  dsimp only at normal
  split at normal
  · cases normal
  · obtain rfl := Option.some.inj normal
    exact length_canonicalizeQueryText_le search.query

/-- A planned query has at most 1000 letters. -/
theorem length_plannedSearches {defaults : PlanDefaults}
    (planned : search ∈ plannedSearches defaults setting) :
    search.query.length ≤ 1000 := by
  have unique : search ∈ uniqueSearches [] _ := (List.mem_filter.mp planned).1
  obtain ⟨normal, inPlan, again⟩ := mem_uniqueSearches unique
  refine (length_normalizeSearchItem again).trans ?_
  unfold buildDeterministicSearchPlan at inPlan
  dsimp only at inPlan
  split at inPlan
  · exact absurd inPlan List.not_mem_nil
  · rcases mem_selectQueries inPlan with none | ⟨candidate, among, made⟩
    · exact absurd none List.not_mem_nil
    · refine (length_normalizeSearchItem made).trans ?_
      rcases List.mem_append.mp among with role | keyword
      · obtain ⟨letters, isLetters, rfl⟩ := List.mem_map.mp role
        show (String.ofList letters).length ≤ 1000
        rw [String.length_ofList]
        exact length_roleCandidates isLetters
      · obtain ⟨letters, isLetters, rfl⟩ := List.mem_map.mp keyword
        show (String.ofList letters).length ≤ 1000
        rw [String.length_ofList]
        exact length_keywordCandidates isLetters

end

/-! ### The language of a request -/

section

variable [QueryTables]

/-- A language has at most two letters once it is normal. -/
theorem length_normalizeLanguage_le (language : String) :
    (normalizeLanguage language).length ≤ 2 := by
  unfold normalizeLanguage
  dsimp only
  split
  · rename_i code found
    have codes : ∀ entry ∈ CareerOS.languageAliases, entry.2.length ≤ 2 := by decide
    obtain ⟨before, after, split, -⟩ := List.lookup_eq_some_iff.mp found
    have among : (String.ofList (normalizeWhitespace
        (QueryTables.lower (orElse language "en")).toList), code) ∈ CareerOS.languageAliases := by
      rw [split]
      exact List.mem_append_right _ List.mem_cons_self
    exact codes _ among
  · have short : ∀ text : String, text.length ≤ 2 → (orElse text "en").length ≤ 2 := by
      intro text short
      unfold orElse
      split
      · decide
      · exact short
    exact short _ (length_slice_le _ 2)

theorem length_supportedRequestLanguage_le (language : String) (provider : RequestProvider) :
    (supportedRequestLanguage language provider).length ≤ 2 := by
  unfold supportedRequestLanguage
  dsimp only
  split
  · exact length_normalizeLanguage_le language
  · cases provider.supportedLanguages with
    | nil => exact length_normalizeLanguage_le language
    | cons first rest => exact length_normalizeLanguage_le first

end

/-! ### The range of a filter -/

section

variable [DecimalDigits]

/-- A workload filter that no request reads another range from than 0 to 100: its first part is
no number, or is zero while the second is 100 or no number. -/
def AsksNoRange (workloadFilter : String) : Prop :=
  let parts := (workloadFilter.toList.filter (· ≠ '%')).splitOn '-'
  let first := pythonInt (String.ofList (parts.headD []))
  first = none ∨ (first = some 0 ∧ ∃ second, parts.tail.head? = some second ∧
    (pythonInt (String.ofList second) = none ∨ pythonInt (String.ofList second) = some 100))

theorem filterWorkload_eq_iff (workloadFilter : String) :
    filterWorkload workloadFilter = (0, 100) ↔ AsksNoRange workloadFilter := by
  unfold filterWorkload AsksNoRange
  dsimp only
  generalize (workloadFilter.toList.filter (· ≠ '%')).splitOn '-' = parts
  cases pythonInt (String.ofList (parts.headD [])) with
  | none => exact ⟨fun _ => Or.inl rfl, fun _ => rfl⟩
  | some least =>
    dsimp only
    cases parts.tail with
    | nil =>
      constructor
      · intro same
        obtain ⟨zero, hundred⟩ := Prod.mk.inj same
        exact absurd (zero.symm.trans hundred) (by decide)
      · rintro (none | ⟨-, second, found, -⟩)
        · cases none
        · cases found
    | cons second rest =>
      dsimp only
      constructor
      · intro same
        obtain ⟨zero, hundred⟩ := Prod.mk.inj same
        refine Or.inr ⟨congrArg some zero, second, rfl, ?_⟩
        cases number : pythonInt (String.ofList second) with
        | none => exact Or.inl rfl
        | some most =>
          rw [number] at hundred
          exact Or.inr (congrArg some hundred)
      · rintro (none | ⟨zero, other, found, number⟩)
        · cases none
        · obtain rfl := Option.some.inj found
          obtain rfl := Option.some.inj zero
          rcases number with number | number <;> rw [number] <;> rfl

end

/-! ### The numbers of a stored profile -/

/-- The numbers of a request. -/
def requestNumbers : List String :=
  ["posted_within_days", "max_distance", "hard_max_distance_km", "workload_min", "workload_max"]

/-- What the schemas leave of these numbers: null, or in the range of its field. -/
def Bounded (setting : String → Json) : Prop :=
  ∀ name ∈ requestNumbers, setting name = .null ∨
    ∃ number, setting name = .int number ∧ inRange name number

section

variable [DecimalDigits]

theorem optionalIntAttr_bounded (bounded : Bounded setting)
    {name : String} (member : name ∈ requestNumbers) (default : Option Int) :
    (setting name = .null ∧ optionalIntAttr default (setting name) = default) ∨
      ∃ number, setting name = .int number ∧ optionalIntAttr default (setting name) = some number ∧
        inRange name number := by
  rcases bounded name member with null | ⟨number, isNumber, within⟩
  · exact Or.inl ⟨null, by rw [null]; rfl⟩
  · exact Or.inr ⟨number, isNumber, by rw [isNumber]; rfl, within⟩

theorem requestDistance_nonneg (bounded : Bounded setting) :
    0 ≤ requestDistance setting := by
  have hard := @optionalIntAttr_bounded _ _ bounded "hard_max_distance_km" (by decide) none
  have most := @optionalIntAttr_bounded _ _ bounded "max_distance" (by decide) (some 50)
  have nonneg : ∀ distance ∈ (optionalIntAttr none (setting "hard_max_distance_km")).or
      (optionalIntAttr (some 50) (setting "max_distance")), 0 ≤ distance := by
    intro distance found
    rcases hard with ⟨-, unset⟩ | ⟨number, -, set, within⟩
    · rw [unset, Option.none_or] at found
      rcases most with ⟨-, unset⟩ | ⟨number, -, set, within⟩
      · rw [unset] at found
        obtain rfl := Option.some.inj found
        decide
      · rw [set] at found
        obtain rfl := Option.some.inj found
        exact within.2.1 (by decide)
    · rw [set, Option.some_or] at found
      obtain rfl := Option.some.inj found
      exact within.2.1 (by decide)
  unfold requestDistance
  dsimp only
  split
  · decide
  · decide
  · rename_i distance _ found
    exact nonneg distance found

theorem postedWithinDays_pos (bounded : Bounded setting) :
    ∀ days ∈ optionalIntAttr (some 30) (setting "posted_within_days"), 1 ≤ days := by
  intro days found
  rcases @optionalIntAttr_bounded _ _ bounded "posted_within_days" (by decide) (some 30) with
    ⟨-, unset⟩ | ⟨number, -, set, within⟩
  · rw [unset] at found
    obtain rfl := Option.some.inj found
    decide
  · rw [set] at found
    obtain rfl := Option.some.inj found
    exact within.2.2 (by decide)

/-- A limit of the work of a stored profile, where it is set, is a percentage. -/
theorem workload_percentage (bounded : Bounded setting) {name : String}
    (isWorkload : name ∈ ["workload_min", "workload_max"]) {default : Int}
    (percentage : 0 ≤ default ∧ default ≤ 100) :
    0 ≤ (optionalIntAttr none (setting name)).getD default ∧
      (optionalIntAttr none (setting name)).getD default ≤ 100 := by
  have among : ∀ name ∈ ["workload_min", "workload_max"], name ∈ requestNumbers := by decide
  rcases optionalIntAttr_bounded bounded (among name isWorkload) none with
    ⟨-, unset⟩ | ⟨number, -, set, within⟩
  · rw [unset]
    exact percentage
  · rw [set]
    exact within.1 isWorkload

end

/-! ### One request -/

section

variable [LaxScalars] [SettingTables] [QueryTables] [DecimalDigits]

/-- What a stored profile needs besides the schemas for its requests. -/
structure Fits (setting : String → Json) : Prop where
  place : (stringAttr (setting "location_filter")).length ≤ 500
  ordered : (optionalIntAttr none (setting "workload_min")).getD 0 ≤
    (optionalIntAttr none (setting "workload_max")).getD 100
  unranged : setting "workload_min" = .null → setting "workload_max" = .null →
    AsksNoRange (stringAttr (setting "workload_filter"))
  position : ∀ lat lon, setting "latitude" = .float lat → setting "longitude" = .float lon →
    coordinatesFit lat lon

/-- What a search needs of the provider and of the lookup of its profession codes. -/
structure Served (provider : RequestProvider) (professionCodes : List String)
    (search : SearchItem) : Prop where
  language : 2 ≤ (supportedRequestLanguage (supportedRequestLanguage search.language provider)
    provider).length
  codes : professionCodes.length ≤ 100

omit [SettingTables] [QueryTables] in
theorem requestRadius_isSome_iff (bounded : Bounded setting) :
    (requestRadius setting).isSome ↔ ∀ lat lon, setting "latitude" = .float lat →
      setting "longitude" = .float lon → coordinatesFit lat lon := by
  unfold requestRadius
  split
  · rename_i lat lon isLat isLon
    dsimp only
    constructor
    · intro made otherLat otherLon sameLat sameLon
      obtain rfl := Json.float.inj (isLat.symm.trans sameLat)
      obtain rfl := Json.float.inj (isLon.symm.trans sameLon)
      split at made
      · rename_i fits
        exact fits.1
      · cases made
    · intro fits
      rw [if_pos ⟨fits lat lon isLat isLon, requestDistance_nonneg bounded⟩]
      rfl
  · rename_i unplaced
    exact ⟨fun _ lat lon isLat isLon => (unplaced lat lon isLat isLon).elim, fun _ => rfl⟩

omit [LaxScalars] [SettingTables] [QueryTables] in
/-- The filter of the results does not see the workload filter. -/
theorem expectedWorkload_eq (setting other : String → Json) : expectedWorkload setting other =
    ((optionalIntAttr none (setting "workload_min")).getD 0,
      (optionalIntAttr none (setting "workload_max")).getD 100) := by
  have unseen : Dict.lookup "workload_filter" (profileDict setting other) = none := rfl
  unfold expectedWorkload resolveRequiredWorkloadRange
  dsimp only
  split
  · rfl
  · rename_i unset
    rw [not_or, Option.not_isSome_iff_eq_none, Option.not_isSome_iff_eq_none] at unset
    rw [unseen, unset.1, unset.2]
    rfl

omit [LaxScalars] [SettingTables] [QueryTables] in
/-- The ranges of the request and of the filter are the same where the workload filter asks for
none, or is not read. -/
theorem requestWorkload_eq_iff (bounded : Bounded setting)
    (other : String → Json) : requestWorkload setting = expectedWorkload setting other ↔
      (setting "workload_min" = .null → setting "workload_max" = .null →
        AsksNoRange (stringAttr (setting "workload_filter"))) := by
  rw [expectedWorkload_eq]
  unfold requestWorkload
  dsimp only
  rcases @optionalIntAttr_bounded _ _ bounded "workload_min" (by decide) none with
    ⟨null, unset⟩ | ⟨least, isLeast, set, -⟩
  · rcases @optionalIntAttr_bounded _ _ bounded "workload_max" (by decide) none with
      ⟨nullMost, unsetMost⟩ | ⟨most, isMost, set, -⟩
    · rw [unset, unsetMost, if_neg (by decide)]
      exact (filterWorkload_eq_iff _).trans
        ⟨fun asks _ _ => asks, fun asks => asks null nullMost⟩
    · rw [unset, set]
      exact ⟨fun _ _ impossible => (nomatch isMost.symm.trans impossible),
        fun _ => if_pos (Or.inr rfl)⟩
  · rw [set]
    exact ⟨fun _ impossible => (nomatch isLeast.symm.trans impossible),
      fun _ => if_pos (Or.inl rfl)⟩

omit [LaxScalars] in
theorem length_keywords_le (setting : String → Json) (query : String)
    (professionCodes : List String) (language : String) (pageSize : Int)
    (provider : Option RequestProvider) (radius : Option RadiusSearchRequest) :
    (assembledRequest setting query professionCodes language pageSize provider
      radius).keywords.length ≤ 100 := by
  unfold assembledRequest
  dsimp only
  by_cases empty : canonicalizeQueryText query = ""
  · rw [if_pos empty]
    exact Nat.zero_le 100
  · rw [if_neg empty, List.length_singleton]
    decide

/-- A request is made of its values where they are valid. -/
theorem searchRequest_some_iff
    {professionCodes : List String} {provider : RequestProvider} {request : JobSearchRequest} :
    searchRequest setting search professionCodes provider = some request ↔
      ∃ radius, requestRadius setting = some radius ∧ request.Valid ∧
        request = assembledRequest setting search.query professionCodes
          (supportedRequestLanguage search.language provider) provider.maxPageSize (some provider)
          radius := by
  unfold searchRequest buildSearchRequest
  rw [Option.bind_eq_some_iff]
  refine exists_congr fun radius => and_congr_right fun _ => ?_
  dsimp only
  constructor
  · intro made
    obtain ⟨valid, same⟩ := Option.ite_none_right_eq_some.mp made
    obtain rfl := Option.some.inj same
    exact ⟨valid, rfl⟩
  · rintro ⟨valid, rfl⟩
    exact if_pos valid

/-- A planned search of a stored profile has a request, with the range that the results are
filtered by. -/
def Executes (setting other : String → Json) (provider : RequestProvider)
    (professionCodes : List String) (search : SearchItem) : Prop :=
  ∃ request, searchRequest setting search professionCodes provider = some request ∧
    (request.workloadMin, request.workloadMax) = expectedWorkload setting other

theorem executes_iff {setting other : String → Json} {provider : RequestProvider}
    {professionCodes : List String} (bounded : Bounded setting)
    (short : search.query.length ≤ 1000) :
    Executes setting other provider professionCodes search ↔
      Fits setting ∧ Served provider professionCodes search := by
  have agrees := requestWorkload_eq_iff bounded other
  have expected := expectedWorkload_eq setting other
  have radiusFits := requestRadius_isSome_iff bounded
  have percentages := And.intro
    (@workload_percentage _ _ bounded "workload_min" (by decide) 0 (by decide))
    (@workload_percentage _ _ bounded "workload_max" (by decide) 100 (by decide))
  constructor
  · rintro ⟨request, made, same⟩
    obtain ⟨radius, isRadius, valid, rfl⟩ := searchRequest_some_iff.mp made
    have range : requestWorkload setting = expectedWorkload setting other := same
    have order : (requestWorkload setting).1 ≤ (requestWorkload setting).2 := valid.workloads
    rw [range, expected] at order
    exact ⟨⟨valid.location, order, agrees.mp range, radiusFits.mp (by rw [isRadius]; rfl)⟩,
      valid.language.1, valid.professionCodes⟩
  · rintro ⟨fits, served⟩
    obtain ⟨radius, isRadius⟩ := Option.isSome_iff_exists.mp (radiusFits.mpr fits.position)
    have range := agrees.mpr fits.unranged
    have least : (requestWorkload setting).1 =
        (optionalIntAttr none (setting "workload_min")).getD 0 := by
      rw [range, expected]
    have most : (requestWorkload setting).2 =
        (optionalIntAttr none (setting "workload_max")).getD 100 := by
      rw [range, expected]
    have leastFits : 0 ≤ (requestWorkload setting).1 ∧ (requestWorkload setting).1 ≤ 100 := by
      rw [least]
      exact percentages.1
    have mostFits : 0 ≤ (requestWorkload setting).2 ∧ (requestWorkload setting).2 ≤ 100 := by
      rw [most]
      exact percentages.2
    have order : (requestWorkload setting).1 ≤ (requestWorkload setting).2 := by
      rw [least, most]
      exact fits.ordered
    refine ⟨_, searchRequest_some_iff.mpr ⟨radius, isRadius, ?_, rfl⟩, range⟩
    have language := (length_supportedRequestLanguage_le
      (supportedRequestLanguage search.language provider) provider).trans
        (show 2 ≤ 16 by decide)
    exact {
      query := (length_canonicalizeQueryText_le search.query).trans short
      location := fits.place
      communalCodes := Nat.zero_le 500
      keywords := length_keywords_le _ _ _ _ _ _ _
      professionCodes := served.codes
      workloadMin := leastFits
      workloadMax := mostFits
      postedWithinDays := postedWithinDays_pos bounded
      workForms := Nat.zero_le 10
      language := ⟨served.language, language⟩
      pageSize := ⟨Int.ofNat_le.mpr provider.maxPageSize_bounds.1,
        Int.ofNat_le.mpr provider.maxPageSize_bounds.2⟩
      workloads := order }

end

/-! ### What a step writes -/

/-- The settings that a request and its plan are made of. -/
def requestSettings : List String :=
  ["location_filter", "workload_filter", "workload_min", "workload_max", "latitude", "longitude",
    "max_distance", "hard_max_distance_km", "posted_within_days", "role_description",
    "search_strategy", "max_queries", "max_occupation_queries", "max_keyword_queries",
    "preferred_domains"]

/-- The settings of a profile after an update of such data. -/
def updatedSetting (before : String → Json) (data : Dict String Json) (name : String) : Json :=
  match Dict.lookup name data with
  | none => before name
  | some value =>
    if name ∈ preferenceFields ∧ value = .null then before name else stored value

variable {body data : Dict String Json} {profile : SearchProfile} {body : Dict String Json}

section

variable [LaxScalars] [SettingTables]

/-- A number of a request, as the schemas know it. -/
structure NumberField (field : ProfileField) : Prop where
  default : field.default = .null ∨ ∃ number, field.default = .int number
  created : ∀ value read, field.onCreate value = some read →
    read = .null ∨ ∃ number, read = .int number
  updated : ∀ value read, field.onUpdate value = some read →
    read = .null ∨ ∃ number, read = .int number

omit [SettingTables] in
theorem numberField_plain (name : String) {default : Int} :
    NumberField (plain name (.int default) wholeNumber) where
  default := Or.inr ⟨default, rfl⟩
  created _ _ read := (wholeNumber_some read).imp And.right id
  updated _ _ read := (wholeNumber_some read).imp And.right id

omit [SettingTables] in
theorem numberField_unsettable (name : String) : NumberField (unsettable name) where
  default := Or.inl rfl
  created _ _ read := limit_some read
  updated _ _ read := (wholeNumber_some read).imp And.right id

theorem numberFields : ∀ name ∈ requestNumbers, ∃ field ∈ profileFields, field.name = name ∧
    NumberField field := by
  unfold requestNumbers profileFields
  simp only [List.forall_mem_cons]
  refine ⟨⟨plain "posted_within_days" (.int 30) wholeNumber, ?_, rfl, numberField_plain _⟩,
    ⟨plain "max_distance" (.int 50) wholeNumber, ?_, rfl, numberField_plain _⟩,
    ⟨unsettable "hard_max_distance_km", ?_, rfl, numberField_unsettable _⟩,
    ⟨unsettable "workload_min", ?_, rfl, numberField_unsettable _⟩,
    ⟨unsettable "workload_max", ?_, rfl, numberField_unsettable _⟩,
    fun _ impossible => absurd impossible List.not_mem_nil⟩
  all_goals simp only [List.mem_cons, true_or, or_true]

theorem numberField_of_name {field : ProfileField} (member : field ∈ profileFields)
    (isNumber : field.name ∈ requestNumbers) : NumberField field := by
  obtain ⟨other, isOther, same, facts⟩ := numberFields field.name isNumber
  exact eq_of_name isOther member same ▸ facts

/-- The numbers of data that a schema accepts. -/
def NumberData (data : Dict String Json) : Prop :=
  ∀ name ∈ requestNumbers, ∀ value, Dict.lookup name data = some value →
    value = .null ∨ ∃ number, value = .int number ∧ inRange name number

variable {data : Dict String Json}

omit [LaxScalars] [SettingTables] in
theorem numberData_of_ranges (ranges : validProfileRanges data)
    (numbers : ∀ name ∈ requestNumbers, ∀ value, Dict.lookup name data = some value →
      value = .null ∨ ∃ number, value = .int number) : NumberData data := by
  intro name member value found
  rcases numbers name member value found with null | ⟨number, rfl⟩
  · exact Or.inl null
  · refine Or.inr ⟨number, rfl, (validProfileRanges_iff.mp ranges).1 name number ?_⟩
    exact Option.bind_eq_some_iff.mpr ⟨.int number, found, rfl⟩

theorem numberData_update (accepted : searchProfileUpdate body = some data) : NumberData data := by
  have reads := searchProfileUpdate_some accepted
  refine numberData_of_ranges reads.ranges fun name member value found => ?_
  obtain ⟨field, isField, rfl, given, -, taken⟩ := reads.named name value found
  exact (numberField_of_name isField member).updated given value taken

theorem searchProfileCreate_some (accepted : searchProfileCreate body = some data) :
    ReadsCreate body data ∧ NumberData data := by
  obtain ⟨read, ranges⟩ := Option.filter_eq_some_iff.mp accepted
  have reads := readCreate_some read
  refine ⟨reads, numberData_of_ranges (of_decide_eq_true ranges) fun name member value found => ?_⟩
  obtain ⟨field, isField, rfl, created⟩ := reads.named name value found
  unfold ProfileField.created at created
  split at created
  · obtain rfl := Option.some.inj created
    exact (numberField_of_name isField member).default
  · exact (numberField_of_name isField member).created _ value created

omit [LaxScalars] [SettingTables] in
theorem bounded_insertedValue (numbers : NumberData data) :
    Bounded (insertedValue data) := by
  have defaults : ∀ name ∈ requestNumbers, unsetValue name = .null ∨
      ∃ number, unsetValue name = .int number ∧ inRange name number := by
    unfold requestNumbers
    simp only [List.forall_mem_cons]
    exact ⟨Or.inr ⟨30, rfl, by decide⟩, Or.inr ⟨50, rfl, by decide⟩, Or.inl rfl, Or.inl rfl,
      Or.inl rfl, fun _ impossible => absurd impossible List.not_mem_nil⟩
  intro name member
  unfold insertedValue
  split
  · exact defaults name member
  · exact defaults name member
  · rename_i value solid found
    rcases numbers name member value found with null | ⟨number, rfl, within⟩
    · exact (solid null).elim
    · exact Or.inr ⟨number, rfl, within⟩

omit [LaxScalars] [SettingTables] in
theorem bounded_updatedSetting {before : String → Json} (bounded : Bounded before)
    (numbers : NumberData data) : Bounded (updatedSetting before data) := by
  intro name member
  unfold updatedSetting
  split
  · exact bounded name member
  · rename_i value found
    split
    · exact bounded name member
    · rcases numbers name member value found with rfl | ⟨number, rfl, within⟩
      · exact Or.inl rfl
      · exact Or.inr ⟨number, rfl, within⟩

/-- A stored profile: no entry of its preferences is null, and its numbers are those of the
schemas. -/
structure Sound (profile : SearchProfile) : Prop where
  solid : Solid profile.advancedPreferences
  bounded : Bounded profile.read

theorem requestSettings_subset : ∀ name ∈ requestSettings,
    name ∈ profileFields.map ProfileField.name := by
  rw [map_name_profileFields]
  decide

omit [LaxScalars] [SettingTables] in
theorem requestNumbers_subset : ∀ name ∈ requestNumbers, name ∈ requestSettings := by decide

omit [LaxScalars] [SettingTables] in
theorem Bounded.congr {setting other : String → Json} (bounded : Bounded setting)
    (same : ∀ name ∈ requestSettings, other name = setting name) : Bounded other := by
  intro name member
  rw [same name (requestNumbers_subset name member)]
  exact bounded name member

/-- What a creation leaves of the data. -/
theorem createProfile_reads
    (made : createProfile body = .ok profile) : ∃ data, searchProfileCreate body = some data ∧
      Sound profile ∧ ∀ name ∈ requestSettings, profile.read name = insertedValue data name := by
  unfold createProfile at made
  split at made
  · cases made
  · rename_i data accepted
    split at made
    · obtain rfl := Except.ok.inj made
      obtain ⟨reads, numbers⟩ := searchProfileCreate_some accepted
      have same : ∀ name ∈ requestSettings,
          (insertedProfile data).read name = insertedValue data name := by
        intro name member
        obtain ⟨field, isField, rfl⟩ := List.mem_map.mp (requestSettings_subset name member)
        obtain ⟨here, -, found⟩ := reads.fields field isField
        rw [read_insertedProfile reads.distinct reads.typed found]
        unfold insertedValue
        rw [found]
        cases here <;> rfl
      exact ⟨data, accepted, ⟨solid_mergedPreferences _ _,
        (bounded_insertedValue numbers).congr same⟩, same⟩
    · cases made

/-- What an update leaves of the profile and the data. -/
theorem updateProfile_reads {profile after : SearchProfile}
    (sound : Sound profile) (updated : updateProfile profile body = .ok after) :
    ∃ data, searchProfileUpdate body = some data ∧ Sound after ∧
      ∀ name, after.read name = updatedSetting profile.read data name := by
  unfold updateProfile at updated
  split at updated
  · cases updated
  · rename_i data accepted
    split at updated
    · obtain rfl := Except.ok.inj updated
      have reads := searchProfileUpdate_some accepted
      have same : ∀ name, (updatedProfile profile data).read name =
          updatedSetting profile.read data name := by
        intro name
        unfold updatedSetting
        split
        · rename_i absent
          exact read_updatedProfile_kept sound.solid reads.distinct reads.typed (Or.inl absent)
        · rename_i value found
          split
          · rename_i ignored
            obtain ⟨isPreference, rfl⟩ := ignored
            exact read_updatedProfile_kept sound.solid reads.distinct reads.typed
              (Or.inr ⟨isPreference, found⟩)
          · rename_i counts
            exact read_updatedProfile_given sound.solid reads.distinct reads.typed found
              fun isPreference null => counts ⟨isPreference, null⟩
      refine ⟨data, accepted, ⟨?_, ?_⟩, same⟩
      · show Solid (if mergedPreferences _ _ = [] then _ else _)
        split
        · exact sound.solid
        · exact solid_mergedPreferences _ _
      · exact (bounded_updatedSetting sound.bounded (numberData_update accepted)).congr
          fun name _ => same name
    · cases updated

end

/-! ### The start of a search -/

section

variable [LaxScalars] [SettingTables]

section

omit [LaxScalars] [SettingTables]

/-- The metadata of the evidence has no setting, and nothing that is null. -/
theorem campaignEvidence_metadata {campaign : CampaignStart} {suppliedCv evidence : String}
    {metadata : Dict String Json}
    (found : campaignEvidence campaign suppliedCv = some (evidence, metadata)) :
    ∀ item ∈ metadata, item.1 ∉ preferenceFields ∧ item.2 ≠ .null := by
  unfold campaignEvidence at found
  split at found
  · obtain ⟨snapshot, -, same⟩ := Option.map_eq_some_iff.mp found
    obtain ⟨-, rfl⟩ := Prod.mk.inj same
    simp only [List.forall_mem_cons]
    exact ⟨⟨by decide, nofun⟩, ⟨by decide, nofun⟩, ⟨by decide, nofun⟩, ⟨by decide, nofun⟩,
      ⟨by decide, nofun⟩, fun _ impossible => absurd impossible List.not_mem_nil⟩
  · split at found
    · cases found
    · obtain ⟨-, rfl⟩ := Prod.mk.inj (Option.some.inj found)
      simp only [List.forall_mem_cons]
      exact ⟨⟨by decide, nofun⟩, ⟨by decide, nofun⟩,
        fun _ impossible => absurd impossible List.not_mem_nil⟩

theorem solid_foldl_assign {metadata base : Dict String Json} (solid : Solid base)
    (given : ∀ item ∈ metadata, item.2 ≠ .null) :
    Solid (metadata.foldl (fun all item => Dict.assign item.1 item.2 all) base) := by
  induction metadata generalizing base with
  | nil => exact solid
  | cons item rest inductionHypothesis =>
    obtain ⟨here, later⟩ := List.forall_mem_cons.mp given
    exact inductionHypothesis (solid_assign solid item.1 here) later

/-- The start of a campaign decides columns that no request reads. -/
theorem insertedValue_campaignColumns (campaign : CampaignStart) (given : Dict String Json)
    (evidence : String) {name : String} (member : name ∈ requestSettings)
    (isColumn : name ∉ preferenceFields) :
    insertedValue (campaignColumns campaign given evidence) name = insertedValue given name := by
  have others : ∀ name ∈ requestSettings, ∀ decided ∈ ["cv_content", "is_history", "name",
      "is_stopped"], decided ≠ name := by
    decide
  have kept : Dict.lookup name (campaignColumns campaign given evidence) =
      Dict.lookup name given := by
    unfold campaignColumns
    rw [Dict.lookup_foldl_assign, lookup_columnData isColumn]
    simp only [List.forall_mem_cons]
    exact ⟨others name member _ (by decide), others name member _ (by decide),
      others name member _ (by decide), others name member _ (by decide),
      fun _ impossible => absurd impossible List.not_mem_nil⟩
  unfold insertedValue
  rw [kept]

end

omit [LaxScalars] in
/-- The preferences of a campaign, one by one. -/
theorem read_campaignPreferences {given metadata : Dict String Json} {name : String}
    (distinct : (Dict.keys given).Nodup) (typed : Typed given)
    (apart : ∀ item ∈ metadata, item.1 ∉ preferenceFields) (isPreference : name ∈ preferenceFields) :
    (Dict.lookup name (metadata.foldl (fun all item => Dict.assign item.1 item.2 all)
      (given.filter fun item => item.1 ∈ preferenceFields ∧ item.2 ≠ .null))).getD
        (unsetValue name) = insertedValue given name := by
  have solidPart : (given.filter fun item => item.1 ∈ preferenceFields ∧ item.2 ≠ .null) =
      (given.filter fun item => item.2 ≠ .null).filter fun item =>
        decide (item.1 ∈ preferenceFields) := by
    rw [List.filter_filter]
    exact List.filter_congr fun item _ => Bool.decide_and _ _
  rw [Dict.lookup_foldl_assign fun item member same => apart item member (same ▸ isPreference),
    solidPart, Dict.lookup_filter_key (fun key => decide (key ∈ preferenceFields)),
    if_pos (decide_eq_true isPreference), lookup_solidPart distinct]
  unfold insertedValue
  cases found : Dict.lookup name given with
  | none => rfl
  | some value =>
    by_cases null : value = .null
    · subst null
      rfl
    · rw [Option.filter_some, if_pos (decide_eq_true null)]
      have same := (typed name isPreference value found).2
      cases value with
      | null => exact absurd rfl null
      | bool _ | int _ | float _ | str _ | arr _ | obj _ => exact same.symm

omit [LaxScalars] [SettingTables] in
theorem lookup_givenData {name : String} {value : Json}
    (found : Dict.lookup name (givenData body data) = some value) :
    Dict.lookup name data = some value := by
  have filtered : Dict.lookup name (givenData body data) = _ :=
    Dict.lookup_filter_key (fun key => (Dict.lookup key body).isSome) name data
  rw [filtered] at found
  exact (Option.ite_none_right_eq_some.mp found).2

/-- What the start of a campaign leaves of the data that is given. -/
theorem startSearch_reads {campaign : CampaignStart}
    (made : startSearch campaign body = .ok profile) :
    ∃ data, searchProfileCreate body = some data ∧ Sound profile ∧
      ∀ name ∈ requestSettings, profile.read name = insertedValue (givenData body data) name := by
  unfold startSearch at made
  split at made
  · cases made
  · rename_i data accepted
    dsimp only at made
    split at made
    · cases made
    · rename_i evidence metadata found
      split at made
      · obtain rfl := Except.ok.inj made
        obtain ⟨reads, numbers⟩ := searchProfileCreate_some accepted
        have apart := campaignEvidence_metadata found
        have typed : Typed (givenData body data) := fun name isPreference value inGiven =>
          reads.typed name isPreference value (lookup_givenData inGiven)
        have distinct : (Dict.keys (givenData body data)).Nodup :=
          reads.distinct.sublist (List.filter_sublist.map Prod.fst)
        have givenNumbers : NumberData (givenData body data) := fun name member value inGiven =>
          numbers name member value (lookup_givenData inGiven)
        have same : ∀ name ∈ requestSettings,
            (campaignProfile campaign (givenData body data) evidence metadata).read name =
              insertedValue (givenData body data) name := by
          intro name member
          unfold SearchProfile.read
          split
          · rename_i isPreference
            exact read_campaignPreferences distinct typed (fun item inside => (apart item inside).1)
              isPreference
          · rename_i isColumn
            exact insertedValue_campaignColumns campaign _ evidence member isColumn
        refine ⟨data, accepted, ⟨?_, (bounded_insertedValue givenNumbers).congr same⟩, same⟩
        refine solid_foldl_assign (fun item member => ?_) fun item member => (apart item member).2
        exact (of_decide_eq_true (List.mem_filter.mp member).2).2
      · cases made

end

/-! ### Steps of the owner -/

section

variable [LaxScalars] [SettingTables] [QueryTables] [DecimalDigits]
variable (defaults : PlanDefaults) (provider : RequestProvider)
variable (professionCodes : String → List String) (other : String → Json)

/-- All searches that the planner yields have their requests. -/
def AllExecute (setting : String → Json) : Prop :=
  ∀ search ∈ plannedSearches defaults setting,
    Executes setting other provider (professionCodes search.query) search

/-- Where there is a search, the settings fit and the search is served. -/
def AllFit (setting : String → Json) : Prop :=
  ∀ search ∈ plannedSearches defaults setting,
    Fits setting ∧ Served provider (professionCodes search.query) search

variable {defaults provider professionCodes other}

theorem allExecute_iff (bounded : Bounded setting) :
    AllExecute defaults provider professionCodes other setting ↔
      AllFit defaults provider professionCodes setting :=
  forall₂_congr fun _ planned => executes_iff bounded (length_plannedSearches planned)

omit [SettingTables] in
/-- Settings that are the same fit alike. -/
theorem AllFit.congr {setting same : String → Json}
    (alike : ∀ name ∈ requestSettings, same name = setting name) :
    AllFit defaults provider professionCodes same ↔
      AllFit defaults provider professionCodes setting := by
  have plan : planSettings same = planSettings setting := by
    unfold planSettings
    rw [alike "role_description" (by decide), alike "search_strategy" (by decide),
      alike "max_queries" (by decide), alike "max_occupation_queries" (by decide),
      alike "max_keyword_queries" (by decide), alike "preferred_domains" (by decide)]
  have fits : Fits same ↔ Fits setting := by
    have place := alike "location_filter" (by decide)
    have least := alike "workload_min" (by decide)
    have most := alike "workload_max" (by decide)
    have filter := alike "workload_filter" (by decide)
    have latitude := alike "latitude" (by decide)
    have longitude := alike "longitude" (by decide)
    constructor
    · rintro ⟨hasPlace, ordered, unranged, position⟩
      rw [place] at hasPlace
      rw [least, most] at ordered
      rw [least, most, filter] at unranged
      rw [latitude, longitude] at position
      exact ⟨hasPlace, ordered, unranged, position⟩
    · rintro ⟨hasPlace, ordered, unranged, position⟩
      rw [← place] at hasPlace
      rw [← least, ← most] at ordered
      rw [← least, ← most, ← filter] at unranged
      rw [← latitude, ← longitude] at position
      exact ⟨hasPlace, ordered, unranged, position⟩
  unfold AllFit plannedSearches
  rw [plan]
  exact forall₂_congr fun _ _ => and_congr_left fun _ => fits

variable (defaults provider professionCodes)

/-- When a step leaves searches that fit: what it writes fits, read from its data and, for an
update, from the profile as it was. -/
def ProfileStep.Meets (profiles : List SearchProfile) : ProfileStep → Prop
  | .create body => ∀ data, searchProfileCreate body = some data →
    AllFit defaults provider professionCodes (insertedValue data)
  | .update index body => ∀ profile, profiles[index]? = some profile →
    ∀ data, searchProfileUpdate body = some data →
      AllFit defaults provider professionCodes (updatedSetting profile.read data)
  | .start _ body => ∀ data, searchProfileCreate body = some data →
    AllFit defaults provider professionCodes (insertedValue (givenData body data))
  | .rerun _ _ => True

variable (other)

/-- Saved searches of the schemas, all executable. -/
structure Executable (profiles : List SearchProfile) : Prop where
  sound : ∀ profile ∈ profiles, Sound profile
  execute : ∀ profile ∈ profiles,
    AllExecute defaults provider professionCodes other profile.read

variable {defaults provider professionCodes other} {profiles : List SearchProfile}

/-- A new profile whose settings are such is executable where they fit. -/
theorem executable_append (executable : Executable defaults provider professionCodes other profiles)
    (sound : Sound profile) (same : ∀ name ∈ requestSettings, profile.read name = setting name) :
    (∀ saved ∈ profiles ++ [profile], Sound saved) ∧
      ((∀ saved ∈ profiles ++ [profile],
        AllExecute defaults provider professionCodes other saved.read) ↔
          AllFit defaults provider professionCodes setting) := by
  refine ⟨List.forall_mem_append.mpr ⟨executable.sound, List.forall_mem_singleton.mpr sound⟩, ?_⟩
  rw [List.forall_mem_append, List.forall_mem_singleton, allExecute_iff sound.bounded,
    AllFit.congr same]
  exact and_iff_right executable.execute

/-- A profile that is written again is executable where its settings fit. -/
theorem executable_set {index : Nat} {profile after : SearchProfile}
    (executable : Executable defaults provider professionCodes other profiles)
    (was : profiles[index]? = some profile) (sound : Sound after)
    (same : ∀ name ∈ requestSettings, after.read name = setting name) :
    (∀ saved ∈ profiles.set index after, Sound saved) ∧
      ((∀ saved ∈ profiles.set index after,
        AllExecute defaults provider professionCodes other saved.read) ↔
          AllFit defaults provider professionCodes setting) := by
  obtain ⟨within, -⟩ := List.getElem?_eq_some_iff.mp was
  have members : ∀ saved ∈ profiles.set index after, saved ∈ profiles ∨ saved = after :=
    fun saved member => List.mem_or_eq_of_mem_set member
  refine ⟨fun saved member => ?_, fun execute => ?_, fun fit saved member => ?_⟩
  · rcases members saved member with before | rfl
    · exact executable.sound saved before
    · exact sound
  · exact (AllFit.congr same).mp
      ((allExecute_iff sound.bounded).mp (execute after (List.mem_set within after)))
  · rcases members saved member with before | rfl
    · exact executable.execute saved before
    · exact (allExecute_iff sound.bounded).mpr ((AllFit.congr same).mpr fit)

omit [LaxScalars] [SettingTables] [QueryTables] [DecimalDigits] in
/-- Running a saved search again changes nothing that a request is made of. -/
theorem restarted_read (profile : SearchProfile) {name : String} (member : name ∈ requestSettings) :
    (restarted profile).read name = profile.read name := by
  have others : ∀ name ∈ requestSettings, name ≠ "is_stopped" := by decide
  unfold SearchProfile.read
  split
  · rfl
  · exact if_neg (others name member)

/-- An accepted step leaves executable searches exactly when it meets its condition. -/
theorem executable_step {profiles after : List SearchProfile} {step : ProfileStep}
    (executable : Executable defaults provider professionCodes other profiles)
    (ran : step.run profiles = .ok after) :
    (∀ saved ∈ after, Sound saved) ∧
      ((∀ saved ∈ after, AllExecute defaults provider professionCodes other saved.read) ↔
        step.Meets defaults provider professionCodes profiles) := by
  cases step with
  | create body =>
    obtain ⟨profile, made, rfl⟩ := map_ok_iff.mp ran
    obtain ⟨data, accepted, sound, same⟩ := createProfile_reads made
    obtain ⟨sounds, executes⟩ := executable_append executable sound same
    refine ⟨sounds, executes.trans ⟨fun fit other isOther => ?_, fun meets => meets data accepted⟩⟩
    exact Option.some.inj (accepted.symm.trans isOther) ▸ fit
  | update index body =>
    unfold ProfileStep.run at ran
    dsimp only at ran
    split at ran
    · cases ran
    · rename_i profile was
      obtain ⟨after, updated, rfl⟩ := map_ok_iff.mp ran
      obtain ⟨data, accepted, sound, same⟩ := updateProfile_reads
        (executable.sound profile (List.mem_of_getElem? was)) updated
      obtain ⟨sounds, executes⟩ := executable_set executable was sound fun name _ => same name
      refine ⟨sounds, executes.trans ⟨fun fit seen isSeen other isOther => ?_,
        fun meets => meets profile was data accepted⟩⟩
      obtain rfl := Option.some.inj (was.symm.trans isSeen)
      exact Option.some.inj (accepted.symm.trans isOther) ▸ fit
  | start campaign body =>
    obtain ⟨profile, made, rfl⟩ := map_ok_iff.mp ran
    obtain ⟨data, accepted, sound, same⟩ := startSearch_reads made
    obtain ⟨sounds, executes⟩ := executable_append executable sound same
    refine ⟨sounds, executes.trans ⟨fun fit other isOther => ?_, fun meets => meets data accepted⟩⟩
    exact Option.some.inj (accepted.symm.trans isOther) ▸ fit
  | rerun index body =>
    unfold ProfileStep.run at ran
    dsimp only at ran
    split at ran
    · cases ran
    · cases ran
    · rename_i profile _ was
      obtain rfl := Except.ok.inj ran
      have member := List.mem_of_getElem? was
      have before := executable.sound profile member
      have same : ∀ name ∈ requestSettings, (restarted profile).read name = profile.read name :=
        fun name isSetting => restarted_read profile isSetting
      have sound : Sound (restarted profile) := ⟨before.solid, before.bounded.congr same⟩
      obtain ⟨sounds, executes⟩ := executable_set executable was sound same
      exact ⟨sounds, executes.trans ⟨fun _ => trivial, fun _ =>
        (allExecute_iff before.bounded).mp (executable.execute profile member)⟩⟩

/-! ### Runs -/

variable (defaults provider professionCodes other)

/-- After every step of the run all saved searches are executable. -/
def ExecutableThroughout (profiles : List SearchProfile) : List ProfileStep → Prop
  | [] => True
  | step :: rest => ∀ after, step.run profiles = .ok after →
    (∀ saved ∈ after, AllExecute defaults provider professionCodes other saved.read) ∧
      ExecutableThroughout after rest

/-- Every step of the run meets its condition in the state it finds. -/
def MeetsThroughout (profiles : List SearchProfile) : List ProfileStep → Prop
  | [] => True
  | step :: rest => ∀ after, step.run profiles = .ok after →
    step.Meets defaults provider professionCodes profiles ∧ MeetsThroughout after rest

variable {defaults provider professionCodes other}

theorem executableThroughout_iff {steps : List ProfileStep}
    (executable : Executable defaults provider professionCodes other profiles) :
    ExecutableThroughout defaults provider professionCodes other profiles steps ↔
      MeetsThroughout defaults provider professionCodes profiles steps := by
  induction steps generalizing profiles with
  | nil => exact Iff.rfl
  | cons step rest inductionHypothesis =>
    refine forall₂_congr fun after ran => ?_
    obtain ⟨sounds, executes⟩ := executable_step executable ran
    constructor
    · rintro ⟨execute, throughout⟩
      exact ⟨executes.mp execute, (inductionHypothesis ⟨sounds, execute⟩).mp throughout⟩
    · rintro ⟨meets, throughout⟩
      have execute := executes.mpr meets
      exact ⟨execute, (inductionHypothesis ⟨sounds, execute⟩).mpr throughout⟩

/-- In every run of accepted steps, the saved searches stay executable exactly when every step
meets its condition. -/
theorem savedSearches_executable_iff (steps : List ProfileStep) :
    ExecutableThroughout defaults provider professionCodes other [] steps ↔
      MeetsThroughout defaults provider professionCodes [] steps :=
  executableThroughout_iff ⟨fun _ none => absurd none List.not_mem_nil,
    fun _ none => absurd none List.not_mem_nil⟩

end

/-! ### A filter that names a range -/

section

attribute [local instance] LaxScalars.own SettingTables.ascii QueryTables.ascii
  DecimalDigits.ascii

/-- A search for work as a welder, for 80 to 60 percent. -/
def reversedWorkload : Dict String Json :=
  [("role_description", .str "welder"), ("workload_filter", .str "80-60")]

/-- A provider of English queries. -/
def englishProvider : RequestProvider where
  supportedLanguages := ["en"]
  maxPageSize := 50
  maxPageSize_bounds := by decide

/-- The schemas take the range, and no request can be made of it. -/
theorem savedSearches_not_executable : ¬∀ steps, ExecutableThroughout ⟨3, 2⟩ englishProvider
    (fun _ => []) (fun _ => .null) [] steps := by
  intro claimed
  -- The one search that is planned has no request.
  have requests : ((createProfile reversedWorkload).toOption.map fun profile =>
      (plannedSearches ⟨3, 2⟩ profile.read).map fun search =>
        (searchRequest profile.read search [] englishProvider).isSome) = some [false] := by
    decide +kernel
  obtain ⟨profile, created, refused⟩ := Option.map_eq_some_iff.mp requests
  obtain ⟨search, later, planned, none, -⟩ := List.map_eq_cons_iff.mp refused
  have ran : (ProfileStep.create reversedWorkload).run [] = .ok [profile] := by
    cases made : createProfile reversedWorkload with
    | error refusal =>
      rw [made] at created
      cases created
    | ok other =>
      rw [made] at created
      obtain rfl := Option.some.inj created
      unfold ProfileStep.run
      exact map_ok_iff.mpr ⟨other, made, rfl⟩
  obtain ⟨request, built, -⟩ := (claimed [.create reversedWorkload] [profile] ran).1 profile
    (List.mem_singleton_self profile) search (planned ▸ List.mem_cons_self)
  rw [built] at none
  cases none

end

end SearchProfiles

end CareerOS
