/-
This file is the plan cache of a search profile and what makes it sound. A run
caches its plan under a fingerprint of the settings, and a later run with that
fingerprint takes the plan from the cache. The fingerprint sorts the preferred
domains and cleans the texts in its own way, so settings that the planner reads
otherwise may share it; what keeps the cache sound is that an edit of the
settings clears it. Runs and edits hold the row as they read it until they
commit, so that an edit between the two is not seen.
-/

import CareerOS.Library.Machine
import CareerOS.Library.UnitOfWork
import CareerOS.Search.DeterministicPlanning
import CareerOS.Services.QueryNormalForm

namespace CareerOS

open Text

/-! ### The cache -/

/-- What the fingerprint is taken of. -/
structure PlanInputs where
  roleDescription : String
  searchStrategy : String
  preferredDomains : List String
  maxQueries : Option Int
  maxOccupationQueries : Option Int
  maxKeywordQueries : Option Int

/-- The hexadecimal SHA-256 digest of the inputs as JSON with sorted keys. -/
class PlanDigest where
  digest : PlanInputs → String

/-- What is cached of a plan. -/
structure PlanCache where
  version : Nat
  provenance : String
  inputFingerprint : String
  searches : List SearchItem

/-- `SearchProfile`, with its advanced preferences other than the domains. -/
structure SearchPlanProfile where
  settings : PlanSettings
  otherPreferences : Dict String Json
  cachedQueries : Option PlanCache

/-- `PLAN_CACHE_VERSION`. -/
def planCacheVersion : Nat := 3

/-- `PLAN_CACHE_PROVENANCE`. -/
def planCacheProvenance : String := "deterministic-explicit"

section

variable [QueryTables] [PlanDigest]

/-- `coerce_string_list`, with the tokens seen before. -/
def coerceDomains : List String → List String → List String
  | _, [] => []
  | seen, item :: rest =>
    let token := normalizeDomain item
    if token = "" ∨ token ∈ seen then coerceDomains seen rest
    else token :: coerceDomains (token :: seen) rest

/-- The preferred domains of `_profile_preferences`. -/
def preferredDomains (settings : PlanSettings) : List String :=
  coerceDomains [] (settings.preferredDomains.getD [])

/-- `compute_plan_input_fingerprint`. -/
def computePlanInputFingerprint (settings : PlanSettings) : String :=
  let solid := (preferredDomains settings).filter fun value => !blank value
  PlanDigest.digest {
    roleDescription := sanitizePromptText (settings.roleDescription.getD "") (some 4000)
    searchStrategy := sanitizePromptText (settings.searchStrategy.getD "") (some 4000)
    preferredDomains := (solid.map normalizeDomain).insertionSort (· ≤ ·)
    maxQueries := settings.maxQueries
    maxOccupationQueries := settings.maxOccupationQueries
    maxKeywordQueries := settings.maxKeywordQueries }

/-- `build_plan_cache_payload`. -/
def buildPlanCachePayload (searches : List SearchItem) (inputFingerprint : String) : PlanCache where
  version := planCacheVersion
  provenance := planCacheProvenance
  inputFingerprint := inputFingerprint
  searches := searches

/-- `is_cached_plan_compatible`. -/
def isCachedPlanCompatible (cache : PlanCache) (inputFingerprint : String) : Bool :=
  cache.version == planCacheVersion && cache.provenance == planCacheProvenance &&
    cache.inputFingerprint == inputFingerprint

/-- The searches without those that are empty or repeated. -/
def uniqueSearches : List String → List SearchItem → List SearchItem
  | _, [] => []
  | seen, search :: rest =>
    match normalizeSearchItem search with
    | none => uniqueSearches seen rest
    | some normalized =>
      let fingerprint := exactQueryFingerprint normalized
      if fingerprint ∈ seen then uniqueSearches seen rest
      else normalized :: uniqueSearches (fingerprint :: seen) rest

/-- `_apply_query_preferences`. -/
def applyQueryPreferences (settings : PlanSettings) (searches : List SearchItem) :
    List SearchItem :=
  let allowed := preferredDomains settings
  searches.filter fun search => allowed = [] ∨ normalizeDomain search.domain ∈ allowed

/-- What `_generate_plan` returns, and what it writes into the cache. -/
structure GeneratedPlan where
  searches : List SearchItem
  written : Option PlanCache

/-- The cached plan, where it is accepted. -/
def acceptedPlan (profile : SearchPlanProfile) (force : Bool) : Option PlanCache :=
  profile.cachedQueries.filter fun cache =>
    !force && isCachedPlanCompatible cache (computePlanInputFingerprint profile.settings)

/-- `_generate_plan`. -/
def generatePlan (defaults : PlanDefaults) (profile : SearchPlanProfile) (force : Bool) :
    GeneratedPlan :=
  let accepted := acceptedPlan profile force
  let searches := match accepted with
    | some cache => cache.searches
    | none => buildDeterministicSearchPlan defaults profile.settings
  let kept := applyQueryPreferences profile.settings (uniqueSearches [] searches)
  { searches := kept
    written := if accepted.isSome then none
      else some (buildPlanCachePayload kept (computePlanInputFingerprint profile.settings)) }

/-- The searches of a plan that is built afresh. -/
def freshSearches (defaults : PlanDefaults) (settings : PlanSettings) : List SearchItem :=
  applyQueryPreferences settings
    (uniqueSearches [] (buildDeterministicSearchPlan defaults settings))

end

/-! ### Edits -/

/-- `SearchProfileUpdate`: the fields that shape the queries, the other advanced preferences that
are given, and whether another field that clears the cache is. -/
structure PlanUpdate where
  roleDescription : Option (Option String)
  searchStrategy : Option (Option String)
  maxQueries : Option (Option Int)
  maxOccupationQueries : Option (Option Int)
  maxKeywordQueries : Option (Option Int)
  preferredDomains : Option (Option (List String))
  otherPreferences : Dict String Json
  givesOther : Bool

/-- The column `advanced_preferences`. -/
def preferenceObject (domains : Option (List String)) (others : Dict String Json) :
    Dict String Json :=
  match domains with
  | some values => ("preferred_domains", Json.ofTexts values) :: others
  | none => others

namespace PlanUpdate

variable (update : PlanUpdate)

/-- The domains of `_extract_advanced_preferences`: a null does not clear them. -/
def domains (seen : SearchPlanProfile) : Option (List String) :=
  match update.preferredDomains with
  | some (some values) => some values
  | _ => seen.settings.preferredDomains

/-- The other preferences of `_extract_advanced_preferences`. -/
def others (seen : SearchPlanProfile) : Dict String Json :=
  update.otherPreferences.foldl (fun all entry => Dict.assign entry.1 entry.2 all)
    seen.otherPreferences

/-- Are there advanced preferences to assign? -/
def assignsPreferences (seen : SearchPlanProfile) : Bool :=
  !(preferenceObject (update.domains seen) (update.others seen)).isEmpty

/-- Does the update clear the cached plan? -/
def clears (seen : SearchPlanProfile) : Bool :=
  update.roleDescription.isSome || update.searchStrategy.isSome || update.maxQueries.isSome ||
    update.maxOccupationQueries.isSome || update.maxKeywordQueries.isSome || update.givesOther ||
    update.assignsPreferences seen

variable [JsonEquality]

/-- Are the advanced preferences written? -/
def writesPreferences (seen : SearchPlanProfile) : Bool :=
  update.assignsPreferences seen &&
    !JsonEquality.equal (.obj (preferenceObject (update.domains seen) (update.others seen)))
      (.obj (preferenceObject seen.settings.preferredDomains seen.otherPreferences))

/-- The settings after the commit of an update. -/
def commitSettings (seen current : SearchPlanProfile) : PlanSettings where
  roleDescription := flushed seen.settings.roleDescription current.settings.roleDescription
    update.roleDescription
  searchStrategy := flushed seen.settings.searchStrategy current.settings.searchStrategy
    update.searchStrategy
  maxQueries := flushed seen.settings.maxQueries current.settings.maxQueries update.maxQueries
  maxOccupationQueries := flushed seen.settings.maxOccupationQueries
    current.settings.maxOccupationQueries update.maxOccupationQueries
  maxKeywordQueries := flushed seen.settings.maxKeywordQueries
    current.settings.maxKeywordQueries update.maxKeywordQueries
  preferredDomains := if update.writesPreferences seen then update.domains seen
    else current.settings.preferredDomains

/-- The commit of `update_profile`. The cached plan is cleared where there was one to read. -/
def commit (seen current : SearchPlanProfile) : SearchPlanProfile where
  settings := update.commitSettings seen current
  otherPreferences := if update.writesPreferences seen then update.others seen
    else current.otherPreferences
  cachedQueries := if update.clears seen && seen.cachedQueries.isSome then none
    else current.cachedQueries

end PlanUpdate

/-! ### Plans from the cache -/

section

variable [QueryTables]

/-- A search that a plan may hold: normal, in English, for one domain. -/
def PlanSearch (domain : String) (search : SearchItem) : Prop :=
  normalizeSearchItem search = some search ∧ search.domain = domain

variable {settings : PlanSettings} {searches : List SearchItem}

/-- The planner asks for searches in English, for the first domain. -/
theorem planCandidates_shape {candidate : SearchItem}
    (member : candidate ∈ planCandidates settings) :
    candidate.language = "en" ∧ candidate.domain = planDomain settings := by
  unfold planCandidates at member
  rcases List.mem_append.mp member with role | keyword
  · obtain ⟨part, -, rfl⟩ := List.mem_map.mp role
    exact ⟨planItem_language _ _ _, planItem_domain _ _ _⟩
  · obtain ⟨part, -, rfl⟩ := List.mem_map.mp keyword
    exact ⟨planItem_language _ _ _, planItem_domain _ _ _⟩

theorem planSearch_normalized {candidate normalized : SearchItem}
    (member : candidate ∈ planCandidates settings)
    (made : normalizeSearchItem candidate = some normalized) :
    PlanSearch (planDomain settings) normalized := by
  obtain ⟨english, domain⟩ := planCandidates_shape member
  obtain ⟨normal, -, same⟩ := normalizeSearchItem_normalized made english
  refine ⟨normal, ?_⟩
  rw [same, domain]
  exact normalizeDomain_normalizeDomain _

theorem planSearch_selectQueries {limits : PlanLimits}
    {selection : Selection} {candidates : List SearchItem}
    (inside : ∀ candidate ∈ candidates, candidate ∈ planCandidates settings)
    (taken : ∀ search ∈ selection.taken, PlanSearch (planDomain settings) search) :
    ∀ search ∈ selectQueries limits selection candidates,
      PlanSearch (planDomain settings) search := by
  induction candidates generalizing selection with
  | nil => exact taken
  | cons candidate rest inductionHypothesis =>
    obtain ⟨here, there⟩ := List.forall_mem_cons.mp inside
    unfold selectQueries
    split
    · exact inductionHypothesis there taken
    · rename_i normalized made
      dsimp only
      split
      · exact inductionHypothesis there taken
      · have more : ∀ search ∈ selection.taken ++ [normalized],
            PlanSearch (planDomain settings) search := by
          intro search member
          rcases List.mem_append.mp member with before | last
          · exact taken search before
          · rw [List.mem_singleton.mp last]
            exact planSearch_normalized here made
        split
        · exact more
        · exact inductionHypothesis there more

theorem planSearch_plan {defaults : PlanDefaults} :
    ∀ search ∈ buildDeterministicSearchPlan defaults settings,
      PlanSearch (planDomain settings) search := by
  intro search member
  unfold buildDeterministicSearchPlan at member
  dsimp only at member
  split at member
  · cases member
  · exact planSearch_selectQueries (fun _ inside => inside)
      (fun _ taken => absurd taken List.not_mem_nil) search member

/-- Searches that are normal, and whose fingerprints are new and different. -/
theorem uniqueSearches_of_normal {seen : List String}
    (normal : ∀ search ∈ searches, normalizeSearchItem search = some search)
    (distinct : (searches.map exactQueryFingerprint).Nodup)
    (new : ∀ search ∈ searches, exactQueryFingerprint search ∉ seen) :
    uniqueSearches seen searches = searches := by
  induction searches generalizing seen with
  | nil => rfl
  | cons search rest inductionHypothesis =>
    obtain ⟨normalHere, normalThere⟩ := List.forall_mem_cons.mp normal
    obtain ⟨newHere, newThere⟩ := List.forall_mem_cons.mp new
    rw [List.map_cons, List.nodup_cons] at distinct
    unfold uniqueSearches
    rw [normalHere]
    dsimp only
    rw [if_neg newHere, inductionHypothesis normalThere distinct.2]
    intro other member repeated
    rcases List.mem_cons.mp repeated with same | before
    · exact distinct.1 (same ▸ List.mem_map_of_mem member)
    · exact newThere other member before

/-- What is left of searches that a plan may hold. -/
theorem uniqueSearches_spec {domain : String} {seen : List String}
    (shaped : ∀ search ∈ searches, PlanSearch domain search) :
    (∀ search ∈ uniqueSearches seen searches, PlanSearch domain search) ∧
      ((uniqueSearches seen searches).map exactQueryFingerprint).Nodup ∧
      ∀ search ∈ uniqueSearches seen searches, exactQueryFingerprint search ∉ seen := by
  induction searches generalizing seen with
  | nil =>
    exact ⟨fun _ member => absurd member List.not_mem_nil, List.nodup_nil,
      fun _ member => absurd member List.not_mem_nil⟩
  | cons search rest inductionHypothesis =>
    obtain ⟨here, there⟩ := List.forall_mem_cons.mp shaped
    unfold uniqueSearches
    rw [here.1]
    dsimp only
    split
    · exact inductionHypothesis there
    · rename_i new
      obtain ⟨restShaped, restDistinct, restNew⟩ :=
        @inductionHypothesis (exactQueryFingerprint search :: seen) there
      refine ⟨List.forall_mem_cons.mpr ⟨here, restShaped⟩, ?_, List.forall_mem_cons.mpr ⟨new,
        fun other member => fun before => restNew other member (List.mem_cons_of_mem _ before)⟩⟩
      rw [List.map_cons, List.nodup_cons]
      refine ⟨fun repeated => ?_, restDistinct⟩
      obtain ⟨other, member, same⟩ := List.mem_map.mp repeated
      refine restNew other member ?_
      rw [same]
      exact List.mem_cons_self

theorem uniqueSearches_uniqueSearches {domain : String}
    (shaped : ∀ search ∈ searches, PlanSearch domain search) :
    uniqueSearches [] (uniqueSearches [] searches) = uniqueSearches [] searches := by
  obtain ⟨left, distinct, -⟩ := @uniqueSearches_spec _ searches domain [] shaped
  exact uniqueSearches_of_normal (fun search member => (left search member).1) distinct
    fun _ _ => List.not_mem_nil

/-! ### Preferences -/

/-- The first preferred domain is among the preferred domains. -/
theorem planDomain_mem (some : preferredDomains settings ≠ []) :
    planDomain settings ∈ preferredDomains settings := by
  unfold preferredDomains at some ⊢
  unfold planDomain
  cases domains : settings.preferredDomains.getD [] with
  | nil =>
    rw [domains] at some
    exact absurd rfl some
  | cons first rest =>
    rw [List.headD_cons]
    unfold coerceDomains
    have solid := (isSlug_normalizeDomain first).2
    generalize normalizeDomain first = token at solid
    dsimp only
    rw [if_neg (not_or.mpr ⟨solid, List.not_mem_nil⟩)]
    exact List.mem_cons_self

/-- The preferences let every search of the first domain through. -/
theorem applyQueryPreferences_of_domain
    (shaped : ∀ search ∈ searches, PlanSearch (planDomain settings) search) :
    applyQueryPreferences settings searches = searches := by
  unfold applyQueryPreferences
  refine List.filter_eq_self.mpr fun search member => decide_eq_true ?_
  by_cases none : preferredDomains settings = []
  · exact .inl none
  · have same : normalizeDomain search.domain = planDomain settings := by
      rw [(shaped search member).2]
      exact normalizeDomain_normalizeDomain _
    exact .inr (same ▸ planDomain_mem none)

theorem freshSearches_eq (defaults : PlanDefaults) (settings : PlanSettings) :
    freshSearches defaults settings =
      uniqueSearches [] (buildDeterministicSearchPlan defaults settings) :=
  applyQueryPreferences_of_domain (uniqueSearches_spec planSearch_plan).1

/-! ### What the planner reads -/

/-- The planner reads two settings alike. -/
structure ReadAlike (settings others : PlanSettings) : Prop where
  role : cleanPhrase 500 (settings.roleDescription.getD "").toList =
    cleanPhrase 500 (others.roleDescription.getD "").toList
  strategy : cleanPhrase 1000 (settings.searchStrategy.getD "").toList =
    cleanPhrase 1000 (others.searchStrategy.getD "").toList
  maxQueries : settings.maxQueries = others.maxQueries
  maxOccupationQueries : settings.maxOccupationQueries = others.maxOccupationQueries
  maxKeywordQueries : settings.maxKeywordQueries = others.maxKeywordQueries
  domain : planDomain settings = planDomain others

theorem ReadAlike.refl (settings : PlanSettings) : ReadAlike settings settings :=
  ⟨rfl, rfl, rfl, rfl, rfl, rfl⟩

theorem ReadAlike.trans {first second third : PlanSettings} (one : ReadAlike first second)
    (two : ReadAlike second third) : ReadAlike first third :=
  ⟨one.role.trans two.role, one.strategy.trans two.strategy, one.maxQueries.trans two.maxQueries,
    one.maxOccupationQueries.trans two.maxOccupationQueries,
    one.maxKeywordQueries.trans two.maxKeywordQueries, one.domain.trans two.domain⟩

/-- Settings that are read alike have one plan. -/
theorem ReadAlike.plan {settings others : PlanSettings} (alike : ReadAlike settings others)
    (defaults : PlanDefaults) :
    buildDeterministicSearchPlan defaults settings =
      buildDeterministicSearchPlan defaults others := by
  have candidates : planCandidates settings = planCandidates others := by
    unfold planCandidates roleCandidates keywordCandidates
    rw [alike.role, alike.strategy, alike.domain]
  unfold buildDeterministicSearchPlan planLimits
  rw [candidates, alike.maxQueries, alike.maxOccupationQueries, alike.maxKeywordQueries]

end

/-! ### Runs and edits -/

/-- What a session does with the profile. -/
inductive PlanTask
  | run (force : Bool)
  | edit (update : PlanUpdate)

/-- The row of the profile, and what each session has read and not yet committed. -/
structure PlanSessions where
  profile : SearchPlanProfile
  inFlight : Nat → Option (PlanTask × SearchPlanProfile)

/-- One step of a session. -/
inductive PlanAction
  | load (session : Nat) (task : PlanTask)
  | commit (session : Nat)

section

variable [QueryTables] [PlanDigest] [JsonEquality] (defaults : PlanDefaults)

/-- The profile after the commit of a session. -/
def PlanTask.commit (seen current : SearchPlanProfile) : PlanTask → SearchPlanProfile
  | .run force =>
    match (generatePlan defaults seen force).written with
    | some cache => { current with cachedQueries := some cache }
    | none => current
  | .edit update => update.commit seen current

/-- One step. -/
def PlanSessions.step (sessions : PlanSessions) : PlanAction → Except Unit PlanSessions
  | .load session task =>
    .ok { sessions with
      inFlight := Function.update sessions.inFlight session (some (task, sessions.profile)) }
  | .commit session =>
    match sessions.inFlight session with
    | none => .error ()
    | some (task, seen) =>
      .ok {
        profile := task.commit defaults seen sessions.profile
        inFlight := Function.update sessions.inFlight session none }

/-- The sessions on one profile, from one without a cached plan. -/
def planCaches : Machine PlanSessions PlanAction Unit where
  initial sessions := sessions.profile.cachedQueries = none ∧ sessions.inFlight = fun _ => none
  step := PlanSessions.step defaults

/-- What a commit relies on: settings under the fingerprint of those that a run planned from are
read as those were, and an edit leaves no cached plan that it has not read and that its settings
would accept. -/
def PlanTask.Undisturbed (seen current : SearchPlanProfile) : PlanTask → Prop
  | .run force =>
    acceptedPlan seen force = none →
      computePlanInputFingerprint seen.settings = computePlanInputFingerprint current.settings →
      ReadAlike seen.settings current.settings
  | .edit update =>
    current.cachedQueries = seen.cachedQueries ∨
      (∀ cache, current.cachedQueries = some cache →
        cache.inputFingerprint ≠
          computePlanInputFingerprint (update.commitSettings seen current)) ∨
      computePlanInputFingerprint (update.commitSettings seen current) =
          computePlanInputFingerprint current.settings ∧
        ReadAlike current.settings (update.commitSettings seen current)

/-- No other commit disturbs the one of the step. -/
def PlanSessions.Undisturbed (sessions : PlanSessions) : PlanAction → Prop
  | .load _ _ => True
  | .commit session => ∀ task seen, sessions.inFlight session = some (task, seen) →
    task.Undisturbed seen sessions.profile

/-! ### The invariant -/

/-- What a run writes for the settings it planned from. -/
def planEntry (settings : PlanSettings) : PlanCache :=
  buildPlanCachePayload (freshSearches defaults settings) (computePlanInputFingerprint settings)

/-- The cached plan is of settings that are read as the current ones are, if it is accepted. -/
def CacheSound (profile : SearchPlanProfile) : Prop :=
  ∀ cache, profile.cachedQueries = some cache → ∃ settings, cache = planEntry defaults settings ∧
    (computePlanInputFingerprint settings = computePlanInputFingerprint profile.settings →
      ReadAlike settings profile.settings)

variable {defaults}

omit [JsonEquality] in
theorem generatePlan_written {profile : SearchPlanProfile} {force : Bool} {cache : PlanCache}
    (wrote : (generatePlan defaults profile force).written = some cache) :
    acceptedPlan profile force = none ∧ cache = planEntry defaults profile.settings := by
  unfold generatePlan at wrote
  dsimp only at wrote
  cases accepted : acceptedPlan profile force with
  | some entry =>
    rw [accepted] at wrote
    cases wrote
  | none =>
    rw [accepted] at wrote
    exact ⟨rfl, (Option.some.inj wrote).symm⟩

omit [JsonEquality] in
/-- A run on a sound cache returns what it would build afresh. -/
theorem CacheSound.searches {profile : SearchPlanProfile} (sound : CacheSound defaults profile)
    (force : Bool) :
    (generatePlan defaults profile force).searches = freshSearches defaults profile.settings := by
  unfold generatePlan
  dsimp only
  cases accepted : acceptedPlan profile force with
  | none => rfl
  | some cache =>
    obtain ⟨cached, matched⟩ := Option.filter_eq_some_iff.mp accepted
    obtain ⟨settings, rfl, alike⟩ := sound cache cached
    have same : computePlanInputFingerprint settings =
        computePlanInputFingerprint profile.settings := by
      unfold isCachedPlanCompatible at matched
      exact beq_iff_eq.mp (Bool.and_eq_true_iff.mp (Bool.and_eq_true_iff.mp matched).2).2
    have read := alike same
    have entry : (planEntry defaults settings).searches = freshSearches defaults settings := rfl
    dsimp only
    rw [entry, freshSearches_eq, freshSearches_eq, uniqueSearches_uniqueSearches planSearch_plan,
      ← read.plan defaults]
    refine applyQueryPreferences_of_domain ?_
    rw [← read.domain]
    exact (uniqueSearches_spec planSearch_plan).1

omit [QueryTables] [PlanDigest] in
/-- An update that clears no plan changes no setting. -/
theorem PlanUpdate.commitSettings_of_not_clears {update : PlanUpdate}
    {seen current : SearchPlanProfile} (keeps : update.clears seen = false) :
    update.commitSettings seen current = current.settings := by
  unfold PlanUpdate.clears at keeps
  simp only [Bool.or_eq_false_iff, Option.isSome_eq_false_iff, Option.isNone_iff_eq_none] at keeps
  obtain ⟨⟨⟨⟨⟨⟨role, strategy⟩, queries⟩, occupations⟩, keywords⟩, -⟩, preferences⟩ := keeps
  unfold PlanUpdate.commitSettings PlanUpdate.writesPreferences
  rw [role, strategy, queries, occupations, keywords, preferences]
  rfl

theorem PlanTask.commit_sound {task : PlanTask} {seen current : SearchPlanProfile}
    (sound : CacheSound defaults current) (undisturbed : task.Undisturbed seen current) :
    CacheSound defaults (task.commit defaults seen current) := by
  cases task with
  | run force =>
    unfold PlanTask.commit
    dsimp only
    split
    · rename_i cache wrote
      obtain ⟨accepted, rfl⟩ := generatePlan_written wrote
      intro entry found
      cases found
      exact ⟨seen.settings, rfl, undisturbed accepted⟩
    · exact sound
  | edit update =>
    intro cache found
    unfold PlanTask.commit PlanUpdate.commit at found
    dsimp only at found
    split at found
    · cases found
    · rename_i keeps
      obtain ⟨settings, rfl, alike⟩ := sound cache found
      refine ⟨settings, rfl, fun same => ?_⟩
      rcases undisturbed with cached | other | ⟨samePrint, read⟩
      · have clears : update.clears seen = false := by
          rw [← cached, found, Option.isSome_some, Bool.and_true] at keeps
          exact Bool.eq_false_iff.mpr keeps
        have unchanged : (PlanTask.commit defaults seen current (.edit update)).settings =
            current.settings := PlanUpdate.commitSettings_of_not_clears clears
        rw [unchanged] at same ⊢
        exact alike same
      · exact absurd same (other _ found)
      · exact (alike (same.trans samePrint)).trans read

/-! ### Every run -/

/-- Every row that there is, or that a session has read, has a sound cache. -/
theorem planCaches_sound {sessions : PlanSessions}
    (reached : (planCaches defaults).ReachableWhen PlanSessions.Undisturbed sessions) :
    CacheSound defaults sessions.profile ∧ ∀ session task seen,
      sessions.inFlight session = some (task, seen) → CacheSound defaults seen := by
  refine reached.invariant (fun sessions => CacheSound defaults sessions.profile ∧
    ∀ session task seen, sessions.inFlight session = some (task, seen) →
      CacheSound defaults seen) ?_ ?_
  · rintro first ⟨empty, idle⟩
    refine ⟨fun cache found => ?_, fun session task seen found => ?_⟩
    · rw [empty] at found
      cases found
    · rw [idle] at found
      cases found
  · rintro before action after ⟨sound, seenSound⟩ undisturbed stepped
    have others : ∀ {session other : Nat} {flight : Option (PlanTask × SearchPlanProfile)}
        {task : PlanTask} {seen : SearchPlanProfile},
        Function.update before.inFlight session flight other = some (task, seen) →
        flight = some (task, seen) ∨ before.inFlight other = some (task, seen) := by
      intro session other flight task seen found
      by_cases same : other = session
      · rw [same, Function.update_self] at found
        exact .inl found
      · rw [Function.update_of_ne same] at found
        exact .inr found
    cases action with
    | load session task =>
      cases stepped
      refine ⟨sound, fun other task seen found => ?_⟩
      rcases others found with same | earlier
      · cases same
        exact sound
      · exact seenSound other task seen earlier
    | commit session =>
      unfold planCaches PlanSessions.step at stepped
      dsimp only at stepped
      split at stepped
      · cases stepped
      · rename_i task seen found
        cases stepped
        refine ⟨PlanTask.commit_sound sound (undisturbed task seen found),
          fun other task seen found => ?_⟩
        rcases others found with impossible | earlier
        · cases impossible
        · exact seenSound other task seen earlier

/-- Where no commit is disturbed by another, a run returns the searches that it would build afresh
from the settings it read, and so would one that starts now, from the cache or not. -/
theorem searchPlanCache_sound {sessions : PlanSessions}
    (reached : (planCaches defaults).ReachableWhen PlanSessions.Undisturbed sessions) :
    (∀ force, (generatePlan defaults sessions.profile force).searches =
        freshSearches defaults sessions.profile.settings) ∧
      ∀ session force seen, sessions.inFlight session = some (.run force, seen) →
        (generatePlan defaults seen force).searches = freshSearches defaults seen.settings := by
  obtain ⟨sound, seenSound⟩ := planCaches_sound reached
  exact ⟨sound.searches, fun session force seen found =>
    (seenSound session (.run force) seen found).searches force⟩

end

/-! ### Domains in another order -/

section

/-- A digest of profiles without limits. -/
@[reducible] def PlanDigest.plain : PlanDigest where
  digest inputs := String.intercalate "|"
    (inputs.roleDescription :: inputs.searchStrategy :: inputs.preferredDomains)

attribute [local instance] QueryTables.ascii PlanDigest.plain JsonEquality.plain

/-- A cook who prefers two domains. -/
def cook : SearchPlanProfile where
  settings := ⟨some "cook", none, none, none, none, some ["it", "sales"]⟩
  otherPreferences := []
  cachedQueries := none

/-- The domains in another order. -/
def reorder : PlanUpdate := ⟨none, none, none, none, none, some (some ["sales", "it"]), [], false⟩

def degradedDefaults : PlanDefaults := ⟨3, 2⟩

/-- A run reads the profile, the owner reorders the domains, and the run commits. -/
def reorderedMeanwhile : List PlanAction :=
  [.load 0 (.run false), .load 1 (.edit reorder), .commit 1, .commit 0]

theorem searches_reordered :
    ((planCaches degradedDefaults).run ⟨cook, fun _ => none⟩ reorderedMeanwhile).toOption.map
      (fun sessions => ((generatePlan degradedDefaults sessions.profile false).searches.map
        SearchItem.domain,
        (freshSearches degradedDefaults sessions.profile.settings).map SearchItem.domain)) =
      some (["it"], ["sales"]) := by
  decide +kernel

theorem starts_cook : (planCaches degradedDefaults).initial ⟨cook, fun _ => none⟩ := ⟨rfl, rfl⟩

/-- The next run takes the searches of the old order from the cache. -/
theorem searchPlanCache_reordered :
    ¬∀ sessions : PlanSessions, (planCaches degradedDefaults).Reachable sessions →
      (generatePlan degradedDefaults sessions.profile false).searches =
        freshSearches degradedDefaults sessions.profile.settings := by
  intro claimed
  obtain ⟨sessions, finished, observed⟩ := Machine.run_ok_of_observed searches_reordered
  have same := claimed sessions (Machine.Reachable.run (.initial starts_cook) finished)
  rw [same] at observed
  have equal := (congrArg Prod.fst observed).symm.trans (congrArg Prod.snd observed)
  revert equal
  decide

/-- The profile after a run that no edit disturbed. -/
def plannedCook : SearchPlanProfile := PlanTask.commit degradedDefaults cook cook (.run false)

theorem accepted_plannedCook : (acceptedPlan plannedCook false).isSome = true := by
  decide +kernel

theorem searchPlanCache_sound_cook : (acceptedPlan plannedCook false).isSome = true ∧
    (generatePlan degradedDefaults plannedCook false).searches =
      freshSearches degradedDefaults plannedCook.settings := by
  have load : (planCaches degradedDefaults).step ⟨cook, fun _ => none⟩ (.load 0 (.run false)) =
      .ok ⟨cook, Function.update (fun _ => none) 0 (some (.run false, cook))⟩ := rfl
  have commit : (planCaches degradedDefaults).step
      ⟨cook, Function.update (fun _ => none) 0 (some (.run false, cook))⟩ (.commit 0) =
      .ok ⟨plannedCook, Function.update (Function.update (fun _ => none) 0
        (some (.run false, cook))) 0 none⟩ := rfl
  have idle : PlanSessions.Undisturbed ⟨cook, fun _ => none⟩ (.load 0 (.run false)) := trivial
  have steady : PlanSessions.Undisturbed
      ⟨cook, Function.update (fun _ => none) 0 (some (.run false, cook))⟩ (.commit 0) := by
    intro task seen found
    dsimp only at found
    rw [Function.update_self] at found
    cases found
    exact fun _ _ => ReadAlike.refl _
  have reached := Machine.ReachableWhen.step (.step (.initial starts_cook) idle load) steady commit
  exact ⟨accepted_plannedCook, (searchPlanCache_sound reached).1 false⟩

end

end CareerOS
