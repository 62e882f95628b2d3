/-
This file is the plan of a whole campaign: one planned application for every
application of the parsed archive, with the identifiers its row, its events and
its task take. A plan is sound when every timeline increases up to the import,
the stages are legal steps to the imported one, no identifier is taken twice and
every row holds what a restore recomputes from its timeline.

The plan of an accepted archive is sound exactly when three things hold of it.
The addresses the snapshots are built from must be ones `urlsplit` can split,
since only the refusals of an address itself are caught; the import must leave
room for the microseconds between the stages; and no row may be named like an
event, which takes an archive that numbers its applications in words.
-/

import CareerOS.Applications.EventTime
import CareerOS.Campaigns.CampaignParser
import CareerOS.Jobs.UrlNormalForm
import CareerOS.Library.Timestamp

namespace CareerOS

/-- `ALLOWED_ARTIFACT_CATEGORIES`. -/
def allowedArtifactCategories : List String :=
  ["tracker", "profile", "goal", "story", "template", "vacancy", "cv", "letter", "email",
    "evidence", "image", "script", "other"]

/-- A column that is there and longer than its bound. -/
def exceeds (limit : Nat) (value : Option String) : Prop := limit < (value.getD "").length

instance (limit : Nat) (value : Option String) : Decidable (exceeds limit value) := by
  unfold exceeds
  infer_instance

/-- A cell longer than `XLSX_MAX_CELL_CHARS`. -/
def isLongCell : Json → Bool
  | .str text => 32767 < text.length
  | _ => false

/-- The lengths of one application. -/
def validateApplicationLengths (app : ParsedApplication) : Except String Unit := do
  refuseWhen (Text.blank app.sourceApplicationId)
    "Preflight validation failed: source ID must not be blank"
  refuseWhen (120 < app.sourceApplicationId.length)
    "Preflight validation failed: source ID exceeds 120 characters"
  refuseWhen (exceeds 60 app.sourceStatus)
    "Preflight validation failed: status exceeds 60 characters"
  refuseWhen (exceeds 60 app.priority)
    "Preflight validation failed: priority exceeds 60 characters"
  refuseWhen (exceeds 120 app.platform)
    "Preflight validation failed: platform exceeds 120 characters"
  refuseWhen (exceeds 120 app.category)
    "Preflight validation failed: category exceeds 120 characters"
  refuseWhen (exceeds 120 app.outcome)
    "Preflight validation failed: outcome exceeds 120 characters"
  refuseWhen (∃ cell ∈ app.trackerRecord, isLongCell cell.2)
    "Preflight validation failed: tracker record string value exceeds maximum length"

/-- The lengths of one member of the archive. -/
def validateArtifactLengths (artifact : ParsedArtifact) : Except String Unit := do
  refuseWhen (Text.blank artifact.relativePath)
    "Preflight validation failed: relative_path must not be blank"
  refuseWhen (500 < artifact.relativePath.length)
    "Preflight validation failed: relative_path exceeds 500 characters"
  refuseWhen (Text.blank artifact.displayName)
    "Preflight validation failed: display_name must not be blank"
  refuseWhen (255 < artifact.displayName.length)
    "Preflight validation failed: display_name exceeds 255 characters"
  refuseWhen (artifact.category ∉ allowedArtifactCategories)
    "Preflight validation failed: invalid artifact category"

/-- `validate_campaign_plan_lengths`. -/
def validateCampaignPlanLengths (parsed : ParsedCampaign) (campaignName : String) :
    Except String Unit := do
  refuseWhen (Text.blank campaignName)
    "Preflight validation failed: campaign name must not be blank"
  refuseWhen (160 < campaignName.length)
    "Preflight validation failed: campaign name exceeds 160 characters"
  parsed.applications.forM fun app => validateApplicationLengths app.toParsedApplication
  parsed.artifacts.forM validateArtifactLengths

/-- `PlannedApplication`: the row with its timeline, and the identifiers they are stored under. -/
structure PlannedApplication where
  sourceApplicationId : String
  applicationId : String
  row : Application
  eventIds : List String
  taskId : Option String

/-- The identifiers of the events and the task of one application. -/
def PlannedApplication.timelineIds (planned : PlannedApplication) : List String :=
  planned.eventIds ++ planned.taskId.toList

section

variable [TextTables]

/-! ### The snapshot of an application -/

/-- Does `normalize_job_url` leave with the plain `ValueError` of `urlsplit`? -/
def splitFails (candidate : String) : Bool :=
  match Text.stripOrNone candidate with
  | none => false
  | some normalized =>
    normalized.length ≤ 2048 && !normalized.toList.any unsafeUrlCharacter &&
      !(Url.urlsplit normalized).isOk

/-- The first address of a row that is one. Only the refusals of `normalize_job_url` itself are
caught, so an address that cannot be split ends the plan. -/
def preferredUrl : List (Option String) → Except String (Option String)
  | [] => .ok none
  | candidate :: rest =>
    match candidate.bind fun text => if text = "" then none else some text with
    | none => preferredUrl rest
    | some text => do
      refuseWhen (splitFails text) "Invalid IPv6 URL"
      match normalizeJobUrl (some text) false with
      | .ok (some url) => return some url
      | _ => preferredUrl rest

/-- Text cut to a column, unless it is blank. -/
def columnText (limit : Nat) (value : Option String) : Option String :=
  (value.bind Text.stripOrNone).map fun text => Text.slice text limit

/-- `date.isoformat()`. -/
def Date.isoformat (date : Date) : String :=
  String.ofList (DateTime.four date.year ++ '-' :: DateTime.two date.month ++
    '-' :: DateTime.two date.day)

/-- A field of a snapshot that is there when it has a value. -/
def snapshotField (name : String) (value : Option String) : Dict String Json :=
  (value.map fun text => (name, Json.str text)).toList

/-- The description: the text of the vacancy, or the summary the tracker gives. -/
def importedDescription (app : CampaignApplication) (vacancies : Dict String String) :
    Option String :=
  let vacancy := (Dict.lookup app.sourceApplicationId vacancies).bind fun text =>
    if text = "" then none else some text
  let summary := (Dict.lookup "Requirements Summary" app.trackerRecord).bind fun cell =>
    if cell = .null then none else some (cellText cell)
  columnText 100000 (vacancy.or summary)

/-- The text of a cell that is not false in a condition. -/
def findTruthy (record : Dict String Json) (candidates : List String) : Option String :=
  (findField record candidates).bind fun cell =>
    if cell = .bool false ∨ cell = .int 0 then none else some (cellText cell)

/-- The address the tracker names for an e-mail, when it is one. -/
def importedEmail (record : Dict String Json) : Option String :=
  (findTruthy record ["contact email", "email"]).bind fun text =>
    match normalizeApplicationEmail (some text) with
    | .ok email => email
    | .error _ => none

/-- The fields a snapshot is built from. -/
def rawSnapshot (app : CampaignApplication) (vacancies : Dict String String)
    (externalUrl applicationUrl : Option String) : Dict String Json := [
      ("title", .str ((columnText 240 (some app.title)).getD "Untitled role")),
      ("company", .str ((columnText 240 (some app.company)).getD "Unknown company")),
      ("platform_job_id", .str (Text.slice app.sourceApplicationId 120))] ++
    snapshotField "description" (importedDescription app vacancies) ++
    snapshotField "location" (columnText 500 app.location) ++
    snapshotField "external_url" externalUrl ++
    snapshotField "application_url" applicationUrl ++
    snapshotField "application_email" (importedEmail app.trackerRecord) ++
    snapshotField "workload" (columnText 120
      (findTruthy app.trackerRecord ["workplace type", "contract type", "workload"])) ++
    snapshotField "publication_date" (app.foundAt.map Date.isoformat) ++
    snapshotField "platform" (app.platform.bind fun text =>
      if text = "" then none else some (Text.slice text 40))

/-- `_build_snapshot`. -/
def buildSnapshot (app : CampaignApplication) (vacancies : Dict String String) :
    Except String (Dict String Json) := do
  let externalUrl ← preferredUrl [app.jobPostingUrl, app.url]
  let applicationUrl ← preferredUrl [app.platformUrl, app.url]
  return sanitizeApplicationSnapshot (rawSnapshot app vacancies externalUrl applicationUrl) none
    "manual_snapshot_has_no_model_analysis"

/-! ### The plan -/

/-- The names of the events of an application. -/
def eventTags (stages : List Stage) (hasTask : Bool) : List String :=
  stages.map (fun stage => "stage:" ++ stage.name) ++ if hasTask then ["task_created"] else []

variable [NamedIds] [Pydantic]

/-- One application of `plan_campaign_import`, with the identifier `persist_entities` gives it. -/
def planOne (parsed : ParsedCampaign) (importedAt : DateTime) (identityScope : String)
    (app : CampaignApplication) : Except String PlannedApplication :=
  let task := buildTask app.toParsedApplication parsed.fingerprint importedAt identityScope
  let stagePath := resolveStagePath app.toParsedApplication
  match buildStageTimeline app.toParsedApplication stagePath importedAt task.isSome with
  | none => .error "date value out of range"
  | some timeline => do
    let snapshot ← buildSnapshot app parsed.vacancies
    let events := plannedEvents app.toParsedApplication importedAt task timeline
    let identifier := fun tag =>
      NamedIds.uuid5 (importUrn identityScope parsed.fingerprint app.sourceApplicationId tag)
    match events.getLast?, stagePath.getLast? with
    | some last, some currentStage =>
      return {
        sourceApplicationId := app.sourceApplicationId
        applicationId := NamedIds.uuid5
          (importUrn identityScope parsed.fingerprint "application" app.sourceApplicationId)
        row := plannedApplication snapshot task events currentStage last
        eventIds := (eventTags stagePath task.isSome).map identifier
        taskId := task.map TaskResponse.id }
    | _, _ => throw "list index out of range"

/-- `plan_campaign_import`. -/
def planCampaignImport (parsed : ParsedCampaign) (importedAt : DateTime)
    (identityScope campaignName : String) : Except String (List PlannedApplication) := do
  refuseWhen (Text.blank identityScope) "identity_scope must be a non-empty string"
  validateCampaignPlanLengths parsed campaignName
  parsed.applications.mapM (planOne parsed importedAt (Text.strip identityScope))

/-! ### What a sound plan is -/

/-- The stage an application is imported at: the one its tracker status names, or that of a
packet no row claims. -/
def importedStage (app : ParsedApplication) : Stage :=
  if ¬app.inTracker ∨ cleanWord app.sourceStatus = "preparing" then .preparing
  else if cleanWord app.sourceStatus = "applied" then .applied
  else if cleanWord app.sourceStatus = "closed" then .archived
  else .saved

/-- Does an application carry a task? -/
def carriesTask (app : ParsedApplication) : Bool :=
  cleanWord app.sourceStatus ≠ "closed" && app.inTracker &&
    (app.nextAction.bind Text.stripOrNone).isSome

/-- What an application's timeline and row must be. -/
structure FaithfullyPlanned (app : ParsedApplication) (importedAt : DateTime)
    (planned : PlannedApplication) : Prop where
  owner : planned.sourceApplicationId = app.sourceApplicationId
  named : planned.eventIds.length = planned.row.events.length ∧
    planned.taskId.isSome = carriesTask app
  increasing : (planned.row.events.map ApplicationEvent.occurredAt).Pairwise (· < ·)
  inTime : ∀ event ∈ planned.row.events, event.occurredAt ≤ importedAt
  beforeTask : carriesTask app → ∀ event ∈ planned.row.events, event.eventType = .stage →
    event.occurredAt < importedAt
  legal : (planned.row.events.filterMap ApplicationEvent.stageReached).IsChain
    fun stage next => next ∈ transitions stage
  imported : (planned.row.events.filterMap ApplicationEvent.stageReached).getLast? =
    some (importedStage app)
  stage : planned.row.currentStage = importedStage app
  revision : planned.row.revision = planned.row.events.length
  projected : canonicalProjection planned.row.jobSnapshot (orderedEvents planned.row.events) =
    .ok planned.row.projected

/-- Every application is planned faithfully, and no identifier of a timeline is taken twice. -/
structure FaithfulPlan (parsed : ParsedCampaign) (importedAt : DateTime)
    (plan : List PlannedApplication) : Prop where
  applications : List.Forall₂ (fun app planned =>
    FaithfullyPlanned app.toParsedApplication importedAt planned) parsed.applications plan
  ownRows : (plan.map PlannedApplication.applicationId).Nodup
  ownTimelines : (plan.flatMap PlannedApplication.timelineIds).Nodup

/-- The identifiers of the rows are none of the timelines'. -/
def SoundPlan (parsed : ParsedCampaign) (importedAt : DateTime)
    (plan : List PlannedApplication) : Prop :=
  FaithfulPlan parsed importedAt plan ∧
    (plan.map PlannedApplication.applicationId ++
      plan.flatMap PlannedApplication.timelineIds).Nodup

/-! ### When there is one -/

/-- The addresses that are tried can be split: each one up to the first that is an address. -/
def AddressesSplit : List (Option String) → Prop
  | [] => True
  | candidate :: rest =>
    match candidate.bind fun text => if text = "" then none else some text with
    | none => AddressesSplit rest
    | some text => splitFails text = false ∧
      ((∀ url, normalizeJobUrl (some text) false ≠ .ok (some url)) → AddressesSplit rest)

/-- The addresses of an application can be split. -/
def AddressesReadable (app : CampaignApplication) : Prop :=
  AddressesSplit [app.jobPostingUrl, app.url] ∧ AddressesSplit [app.platformUrl, app.url]

/-- The microseconds a timeline takes before the import. -/
def neededMicroseconds (app : ParsedApplication) : Nat :=
  (resolveStagePath app).length - 1 + if carriesTask app then 1 else 0

/-- The import is late enough for the timeline. -/
def ReachesBack (app : ParsedApplication) (importedAt : DateTime) : Prop :=
  (importedAt.microsecondsBefore (neededMicroseconds app)).isSome

/-- The names of what an application's timeline stores. -/
def timelineTags (app : ParsedApplication) : List String :=
  eventTags (resolveStagePath app) (carriesTask app) ++ if carriesTask app then ["task"] else []

/-- No row is named like an event or a task. -/
def RowsNamedApart (parsed : ParsedCampaign) : Prop :=
  ∀ app ∈ parsed.applications, ∀ other ∈ parsed.applications,
    ∀ tag ∈ timelineTags other.toParsedApplication,
      "application:" ++ app.sourceApplicationId ≠ other.sourceApplicationId ++ ":" ++ tag

/-! ### The snapshot -/

omit [NamedIds] [Pydantic] in
theorem preferredUrl_ok_iff {candidates : List (Option String)} :
    (∃ url, preferredUrl candidates = .ok url) ↔ AddressesSplit candidates := by
  induction candidates with
  | nil => exact ⟨fun _ => trivial, fun _ => ⟨none, rfl⟩⟩
  | cons candidate rest inductionHypothesis =>
    unfold preferredUrl AddressesSplit
    cases candidate.bind fun text => if text = "" then none else some text with
    | none => exact inductionHypothesis
    | some text =>
      simp only [bind_ok_iff, refuseWhen_ok_iff, Bool.not_eq_true]
      by_cases accepted : ∃ url, normalizeJobUrl (some text) false = .ok (some url)
      · obtain ⟨url, normal⟩ := accepted
        rw [normal]
        constructor
        · rintro ⟨-, -, splits, -⟩
          exact ⟨splits, fun none => absurd rfl (none url)⟩
        · rintro ⟨splits, -⟩
          exact ⟨some url, (), splits, rfl⟩
      · have refused : ∀ url, normalizeJobUrl (some text) false ≠ .ok (some url) :=
          fun url normal => accepted ⟨url, normal⟩
        have continues : (match normalizeJobUrl (some text) false with
            | .ok (some url) => return some url
            | _ => preferredUrl rest) = preferredUrl rest := by
          split
          · rename_i url normal
            exact absurd normal (refused url)
          · rfl
        rw [continues]
        constructor
        · rintro ⟨url, -, splits, found⟩
          exact ⟨splits, fun _ => inductionHypothesis.mp ⟨url, found⟩⟩
        · rintro ⟨splits, others⟩
          obtain ⟨url, found⟩ := inductionHypothesis.mpr (others refused)
          exact ⟨url, (), splits, found⟩

omit [NamedIds] [Pydantic] in
theorem buildSnapshot_ok_iff {app : CampaignApplication} {vacancies : Dict String String} :
    (∃ snapshot, buildSnapshot app vacancies = .ok snapshot) ↔ AddressesReadable app := by
  unfold AddressesReadable
  rw [← preferredUrl_ok_iff, ← preferredUrl_ok_iff]
  unfold buildSnapshot
  simp only [bind_ok_iff, pure_ok_iff]
  constructor
  · rintro ⟨-, external, readExternal, application, readApplication, -⟩
    exact ⟨⟨external, readExternal⟩, application, readApplication⟩
  · rintro ⟨⟨external, readExternal⟩, application, readApplication⟩
    exact ⟨_, external, readExternal, application, readApplication, rfl⟩

omit [TextTables] [NamedIds] [Pydantic] in
@[simp] theorem lookup_snapshotField (name other : String) (value : Option String) :
    Dict.lookup name (snapshotField other value) =
      if other = name then value.map Json.str else none := by
  cases value with
  | none => exact (ite_self _).symm
  | some text => exact Dict.lookup_cons ..

omit [TextTables] [NamedIds] [Pydantic] in
/-- Text cut to a column is not empty. -/
theorem columnText_ne {limit : Nat} {value : Option String} (room : 0 < limit) :
    columnText limit value ≠ some "" := by
  intro empty
  obtain ⟨text, kept, sliced⟩ := Option.map_eq_some_iff.mp empty
  obtain ⟨source, -, stripped⟩ := Option.bind_eq_some_iff.mp kept
  have solid : text ≠ "" := by
    unfold Text.stripOrNone at stripped
    split at stripped
    · cases stripped
    · rename_i solid
      cases stripped
      exact fun empty => solid (beq_iff_eq.mpr empty)
  have long := Text.length_pos_of_ne solid
  have short := congrArg String.length sliced
  rw [Text.length_slice] at short
  simp only [String.length_empty] at short
  omega

omit [NamedIds] [Pydantic] in
theorem lookup_location (app : CampaignApplication) (vacancies : Dict String String)
    (externalUrl applicationUrl : Option String) :
    Dict.lookup "location" (rawSnapshot app vacancies externalUrl applicationUrl) =
      (columnText 500 app.location).map Json.str := by
  unfold rawSnapshot
  simp [Dict.lookup_append, Dict.lookup_cons]

omit [NamedIds] [Pydantic] in
/-- The location of a row is the one its snapshot projects to. -/
theorem importedLocation_eq {app : CampaignApplication} {vacancies : Dict String String}
    {snapshot : Dict String Json} (built : buildSnapshot app vacancies = .ok snapshot) :
    importedLocation snapshot = projectedLocation snapshot := by
  simp only [buildSnapshot, bind_ok_iff, pure_ok_iff] at built
  obtain ⟨external, -, application, -, rfl⟩ := built
  unfold importedLocation projectedLocation
  rw [lookup_sanitize (by decide), lookup_location]
  cases cut : columnText 500 app.location with
  | none => rfl
  | some text =>
    have solid : text ≠ "" := by
      rintro rfl
      exact columnText_ne (by decide) cut
    exact if_neg solid

/-! ### The timeline -/

variable {capped : List (Option DateTime)}

omit [TextTables] [NamedIds] [Pydantic] in
/-- A dated stage and the stages before it decrease strictly. -/
theorem datesBefore_decreasing {later : DateTime}
    {dates : List DateTime} (dated : datesBefore later capped = some dates) :
    (later :: dates).Pairwise (· > ·) := by
  induction capped generalizing later dates with
  | nil =>
    cases dated
    exact List.pairwise_singleton _ _
  | cons first rest inductionHypothesis =>
    refine List.pairwise_cons.mpr ⟨fun date member => datesBefore_lt dated date member, ?_⟩
    simp only [datesBefore, Option.bind_eq_bind, Option.bind_eq_some_iff, Option.pure_def,
      Option.some.injEq] at dated
    obtain ⟨upperBound, -, earlier, datedRest, rfl⟩ := dated
    exact inductionHypothesis datedRest

omit [TextTables] [NamedIds] [Pydantic] in
/-- The stages before a date take a microsecond each. -/
theorem room_of_datesBefore {later : DateTime}
    {dates : List DateTime} (dated : datesBefore later capped = some dates) :
    DateTime.min.rank + capped.length ≤ later.rank := by
  induction capped generalizing later dates with
  | nil => exact DateTime.min_le later
  | cons first rest inductionHypothesis =>
    simp only [datesBefore, Option.bind_eq_bind, Option.bind_eq_some_iff, Option.pure_def,
      Option.some.injEq] at dated
    obtain ⟨upperBound, isBefore, earlier, datedRest, rfl⟩ := dated
    have room := inductionHypothesis datedRest
    have capped := (DateTime.le_iff _ _).mp (capAt_le upperBound first)
    have passed := (DateTime.lt_iff _ _).mp (DateTime.before_lt isBefore)
    rw [List.length_cons]
    omega

/-- The microseconds from midnight to noon. -/
def halfDay : Nat := 43200000000

variable {importedAt : DateTime} {app : ParsedApplication} {timeline : List DateTime}

variable {hasTask : Bool}

section

omit [TextTables] [NamedIds] [Pydantic]

theorem le_noon (date : Date) : DateTime.min.rank + halfDay ≤ date.noon.rank := by
  obtain ⟨⟨year, -⟩, ⟨month, -⟩, ⟨day, -⟩, -⟩ := date.valid
  show _ ≤ (((((date.year * 13 + date.month) * 32 + date.day) * 24 + 12) * 60 + 0) * 60 + 0) *
    1000000 + 0
  have first : DateTime.min.rank = 38793600000000 := by decide
  unfold halfDay
  omega

/-- Where there is room, the stages before a date are dated. An anchor that is not at noon is
the bound all anchors are cut to, and does not count before it. -/
theorem datesBefore_of_room {later upper : DateTime}
    (below : later ≤ upper) (room : DateTime.min.rank + capped.length ≤ later.rank)
    (anchored : ∀ anchor, some anchor ∈ capped →
      anchor = upper ∨ DateTime.min.rank + halfDay ≤ anchor.rank)
    (short : capped.length ≤ halfDay) :
    ∃ dates, datesBefore later capped = some dates := by
  induction capped generalizing later with
  | nil => exact ⟨[], rfl⟩
  | cons first rest inductionHypothesis =>
    rw [List.length_cons] at room short
    have narrow : halfDay < 86400000000 := by decide
    obtain ⟨upperBound, isBefore, roomBefore⟩ :=
      @DateTime.before_of_room _ rest.length (by omega) room
    have passed := DateTime.before_lt isBefore
    have roomHere : DateTime.min.rank + rest.length ≤ (capAt upperBound first).rank := by
      cases first with
      | none => exact roomBefore
      | some anchor =>
        unfold capAt
        dsimp only
        split
        · rename_i early
          rcases anchored anchor List.mem_cons_self with rfl | noon
          · exact absurd (early.trans_lt (passed.trans_le below)) (lt_irrefl anchor)
          · omega
        · exact roomBefore
    obtain ⟨dates, dated⟩ := inductionHypothesis
      ((capAt_le upperBound first).trans (passed.le.trans below)) roomHere
      (fun anchor member => anchored anchor (List.mem_cons_of_mem _ member)) (by omega)
    refine ⟨capAt upperBound first :: dates, ?_⟩
    rw [datesBefore, isBefore]
    show (datesBefore (capAt upperBound first) rest).bind _ = _
    rw [dated]
    rfl

variable {stages : List Stage}

/-- Every anchor is a noon. -/
theorem stageAnchor_noon {stage : Stage}
    {anchor : DateTime} (anchored : stageAnchor app stages stage = some anchor) :
    DateTime.min.rank + halfDay ≤ anchor.rank := by
  have noonOf : ∀ date : Option Date, ∀ noon, date.map Date.noon = some noon →
      DateTime.min.rank + halfDay ≤ noon.rank := by
    intro date noon found
    obtain ⟨day, -, rfl⟩ := Option.map_eq_some_iff.mp found
    exact le_noon day
  have either : ∀ first second : Option DateTime,
      (∀ noon, first = some noon → DateTime.min.rank + halfDay ≤ noon.rank) →
      (∀ noon, second = some noon → DateTime.min.rank + halfDay ≤ noon.rank) →
      ∀ noon, first.or second = some noon → DateTime.min.rank + halfDay ≤ noon.rank := by
    intro first second fromFirst fromSecond noon found
    rcases Option.or_eq_some_iff.mp found with isFirst | ⟨-, isSecond⟩
    · exact fromFirst noon isFirst
    · exact fromSecond noon isSecond
  unfold stageAnchor at anchored
  split at anchored
  · exact noonOf _ _ anchored
  · split at anchored
    · cases anchored
    · exact either _ _ (noonOf _) (noonOf _) _ anchored
  · exact noonOf _ _ anchored
  · exact either _ _ (either _ _ (noonOf _) (noonOf _)) (noonOf _) _ anchored
  · cases anchored

/-- The anchors that are cut to the latest moment are that moment, or at noon. -/
theorem mem_capped {stages listed : List Stage}
    {maxInstant anchor : DateTime} (member : some anchor ∈ listed.map fun stage =>
      (stageAnchor app stages stage).map (min · maxInstant)) :
    anchor ≤ maxInstant ∧
      (anchor = maxInstant ∨ DateTime.min.rank + halfDay ≤ anchor.rank) := by
  obtain ⟨stage, -, cut⟩ := List.mem_map.mp member
  obtain ⟨noon, anchored, rfl⟩ := Option.map_eq_some_iff.mp cut
  refine ⟨min_le_right noon maxInstant, ?_⟩
  rcases min_choice noon maxInstant with isNoon | isMax
  · rw [isNoon]
    exact Or.inr (stageAnchor_noon anchored)
  · exact Or.inl isMax

theorem latestInstant_iff {count : Nat} (short : count < 86400000000) :
    (∃ maxInstant, latestInstant importedAt hasTask = some maxInstant ∧
        DateTime.min.rank + count ≤ maxInstant.rank) ↔
      DateTime.min.rank + (count + if hasTask then 1 else 0) ≤ importedAt.rank := by
  cases hasTask with
  | false =>
    constructor
    · rintro ⟨maxInstant, isLatest, room⟩
      cases isLatest
      exact room
    · exact fun room => ⟨importedAt, rfl, room⟩
  | true =>
    constructor
    · rintro ⟨maxInstant, isBefore, room⟩
      have passed := (DateTime.lt_iff _ _).mp (DateTime.before_lt isBefore)
      rw [if_pos rfl]
      omega
    · exact fun room => DateTime.before_of_room short room

/-- A path is dated exactly where the import leaves it a microsecond for every step. -/
theorem buildStageTimeline_iff (someStage : stages ≠ []) (short : stages.length ≤ halfDay) :
    (∃ timeline, buildStageTimeline app stages importedAt hasTask = some timeline) ↔
      DateTime.min.rank + (stages.length - 1 + if hasTask then 1 else 0) ≤ importedAt.rank := by
  have narrow : halfDay < 86400000000 := by decide
  rw [← latestInstant_iff (by omega)]
  simp only [buildStageTimeline, Option.bind_eq_bind, Option.bind_eq_some_iff]
  rw [exists_comm]
  refine exists_congr fun maxInstant => ?_
  rw [exists_and_left]
  refine and_congr_right fun _ => ?_
  have anchors : ∀ anchor, some anchor ∈ (stages.map fun stage =>
      (stageAnchor app stages stage).map (min · maxInstant)).reverse →
        anchor ≤ maxInstant ∧
          (anchor = maxInstant ∨ DateTime.min.rank + halfDay ≤ anchor.rank) :=
    fun anchor member => mem_capped (List.mem_reverse.mp member)
  have count := congrArg List.length (List.map_reverse (l := stages)
    (f := fun stage => (stageAnchor app stages stage).map (min · maxInstant)))
  rw [List.length_map, List.length_reverse] at count
  cases reversed : (stages.map fun stage =>
      (stageAnchor app stages stage).map (min · maxInstant)).reverse with
  | nil =>
    rw [reversed] at count
    exact absurd (List.length_eq_zero_iff.mp count) someStage
  | cons last rest =>
    rw [reversed, List.length_cons] at count
    rw [reversed] at anchors
    have lastAnchor : last.getD maxInstant ≤ maxInstant ∧ (last.getD maxInstant = maxInstant ∨
        DateTime.min.rank + halfDay ≤ (last.getD maxInstant).rank) := by
      cases last with
      | none => exact ⟨le_rfl, Or.inl rfl⟩
      | some anchor => exact anchors anchor List.mem_cons_self
    simp only [Option.pure_def, Option.bind_eq_some_iff, Option.some.injEq]
    constructor
    · rintro ⟨timeline, dates, dated, -⟩
      have room := room_of_datesBefore dated
      have below := (DateTime.le_iff _ _).mp lastAnchor.1
      omega
    · intro room
      have roomLast : DateTime.min.rank + rest.length ≤ (last.getD maxInstant).rank := by
        rcases lastAnchor.2 with isMax | noon
        · rw [isMax]
          omega
        · omega
      obtain ⟨dates, dated⟩ := datesBefore_of_room lastAnchor.1 roomLast
        (fun anchor member => (anchors anchor (List.mem_cons_of_mem _ member)).2) (by omega)
      exact ⟨_, dates, dated, rfl⟩

/-- The dates of a path increase strictly. -/
theorem buildStageTimeline_increasing
    (built : buildStageTimeline app stages importedAt hasTask = some timeline) :
    timeline.Pairwise (· < ·) := by
  simp only [buildStageTimeline, Option.bind_eq_bind, Option.bind_eq_some_iff] at built
  obtain ⟨maxInstant, -, built⟩ := built
  split at built
  · cases built
    exact List.Pairwise.nil
  · simp only [Option.pure_def, Option.bind_eq_some_iff, Option.some.injEq] at built
    obtain ⟨earlier, dated, rfl⟩ := built
    exact List.pairwise_reverse.mpr (datesBefore_decreasing dated)

/-- The dates of a path are before the import, and before its task. -/
theorem buildStageTimeline_inTime
    (built : buildStageTimeline app stages importedAt hasTask = some timeline) :
    ∀ date ∈ timeline, date ≤ importedAt ∧ (hasTask → date < importedAt) := by
  intro date member
  obtain ⟨maxInstant, latest, bounded⟩ := buildStageTimeline_le built
  obtain ⟨last, isLast⟩ := Option.isSome_iff_exists.mp
    (List.getLast?_isSome.mpr (List.ne_nil_of_mem member))
  have early := ((bounded last isLast).2 date member).trans (bounded last isLast).1
  cases hasTask with
  | false =>
    cases latest
    exact ⟨early, nofun⟩
  | true =>
    have before := early.trans_lt (DateTime.before_lt latest)
    exact ⟨before.le, fun _ => before⟩

end

/-! ### One application -/

omit [NamedIds] [Pydantic] in
/-- A path takes legal steps, of four stages at most, to the imported stage. -/
theorem resolveStagePath_legal (app : ParsedApplication) :
    (resolveStagePath app).IsChain (fun stage next => next ∈ transitions stage) ∧
      (resolveStagePath app).getLast? = some (importedStage app) ∧
        (resolveStagePath app).length ≤ 4 ∧ (resolveStagePath app).Nodup := by
  unfold resolveStagePath importedStage
  generalize app.inTracker = inTracker
  generalize cleanWord app.sourceStatus = status
  generalize app.appliedAt.isSome = wasApplied
  dsimp only
  by_cases saved : status = "saved"
  · subst saved
    decide +revert
  by_cases preparing : status = "preparing"
  · subst preparing
    decide +revert
  by_cases applied : status = "applied"
  · subst applied
    decide +revert
  by_cases closed : status = "closed"
  · subst closed
    decide +revert
  · rw [if_neg saved, if_neg preparing, if_neg applied, if_neg closed, if_neg applied,
      if_neg closed]
    simp only [preparing, or_false]
    decide +revert

omit [Pydantic] in
theorem isSome_buildTask (app : ParsedApplication) (fingerprint : String) (importedAt : DateTime)
    (identityScope : String) :
    (buildTask app fingerprint importedAt identityScope).isSome = carriesTask app := by
  unfold buildTask carriesTask
  by_cases closed : cleanWord app.sourceStatus = "closed"
  · rw [if_pos (Or.inl closed)]
    simp [closed]
  by_cases outside : app.inTracker
  · rw [if_neg (by simp [closed, outside])]
    cases app.nextAction.bind Text.stripOrNone <;> simp [closed, outside]
  · rw [if_pos (Or.inr outside)]
    simp [outside]

omit [Pydantic] in
theorem id_buildTask {fingerprint : String} {identityScope : String} {task : TaskResponse}
    (built : buildTask app fingerprint importedAt identityScope = some task) :
    task.id = NamedIds.uuid5
      (importUrn identityScope fingerprint app.sourceApplicationId "task") := by
  unfold buildTask at built
  split at built
  · cases built
  · split at built
    · cases built
    · cases built
      rfl

omit [NamedIds] in
theorem plannedEvents_ne {task : Option TaskResponse}
    (built : buildStageTimeline app (resolveStagePath app) importedAt hasTask = some timeline) :
    plannedEvents app importedAt task timeline ≠ [] := by
  intro none
  have stages : (plannedEvents app importedAt task timeline).filterMap
      ApplicationEvent.stageReached = resolveStagePath app := stages_plannedEvents built
  rw [none] at stages
  have last := (resolveStagePath_legal app).2.1
  rw [← stages] at last
  cases last

variable {parsed : ParsedCampaign} {identityScope : String}

/-- An application is planned exactly when its addresses can be split and the import leaves its
timeline room. -/
theorem planOne_ok_iff {app : CampaignApplication} :
    (∃ planned, planOne parsed importedAt identityScope app = .ok planned) ↔
      AddressesReadable app ∧ ReachesBack app.toParsedApplication importedAt := by
  obtain ⟨-, isLast, short, -⟩ := resolveStagePath_legal app.toParsedApplication
  have someStage : resolveStagePath app.toParsedApplication ≠ [] := by
    intro none
    rw [none] at isLast
    cases isLast
  have four : 4 ≤ halfDay := by decide
  have narrow : halfDay + 1 ≤ 86400000000 := by decide
  have reaches : ReachesBack app.toParsedApplication importedAt ↔
      ∃ timeline, buildStageTimeline app.toParsedApplication
        (resolveStagePath app.toParsedApplication) importedAt
          (buildTask app.toParsedApplication parsed.fingerprint importedAt identityScope).isSome =
            some timeline := by
    rw [isSome_buildTask, buildStageTimeline_iff someStage (short.trans four)]
    exact DateTime.microsecondsBefore_iff (by unfold neededMicroseconds; split <;> omega)
  rw [← @buildSnapshot_ok_iff _ _ parsed.vacancies, reaches]
  unfold planOne
  dsimp only
  split
  · rename_i undated
    constructor
    · rintro ⟨planned, impossible⟩
      cases impossible
    · rintro ⟨-, timeline, dated⟩
      rw [undated] at dated
      cases dated
  · rename_i timeline dated
    have nonempty : plannedEvents app.toParsedApplication importedAt (buildTask
        app.toParsedApplication parsed.fingerprint importedAt identityScope) timeline ≠ [] :=
      plannedEvents_ne dated
    obtain ⟨last, lastEvent⟩ := Option.isSome_iff_exists.mp (List.getLast?_isSome.mpr nonempty)
    simp only [lastEvent, isLast, bind_ok_iff, pure_ok_iff]
    constructor
    · rintro ⟨-, snapshot, built, -⟩
      exact ⟨⟨snapshot, built⟩, timeline, dated⟩
    · rintro ⟨⟨snapshot, built⟩, -⟩
      exact ⟨_, snapshot, built, rfl⟩

variable {planned : PlannedApplication}

/-- What a planned application is. -/
theorem planOne_ok {app : CampaignApplication}
    (accepted : planOne parsed importedAt identityScope app = .ok planned) :
    ∃ task timeline snapshot last stage,
      buildTask app.toParsedApplication parsed.fingerprint importedAt identityScope = task ∧
      buildStageTimeline app.toParsedApplication (resolveStagePath app.toParsedApplication)
        importedAt task.isSome = some timeline ∧
      buildSnapshot app parsed.vacancies = .ok snapshot ∧
      (plannedEvents app.toParsedApplication importedAt task timeline).getLast? = some last ∧
      (resolveStagePath app.toParsedApplication).getLast? = some stage ∧
      planned = {
        sourceApplicationId := app.sourceApplicationId
        applicationId := NamedIds.uuid5
          (importUrn identityScope parsed.fingerprint "application" app.sourceApplicationId)
        row := plannedApplication snapshot task
          (plannedEvents app.toParsedApplication importedAt task timeline) stage last
        eventIds := (eventTags (resolveStagePath app.toParsedApplication) task.isSome).map
          fun tag => NamedIds.uuid5
            (importUrn identityScope parsed.fingerprint app.sourceApplicationId tag)
        taskId := task.map TaskResponse.id } := by
  unfold planOne at accepted
  dsimp only at accepted
  split at accepted
  · cases accepted
  · rename_i timeline dated
    obtain ⟨snapshot, built, rest⟩ := bind_ok_iff.mp accepted
    split at rest
    · rename_i last stage isLast isStage
      exact ⟨_, timeline, snapshot, last, stage, rfl, dated, built, isLast, isStage,
        (pure_ok_iff.mp rest).symm⟩
    · cases rest

omit [NamedIds] in
/-- The events of a plan increase strictly, none is after the import, and where there is a task
the stages are before it. -/
theorem plannedEvents_inTime {task : Option TaskResponse}
    (built : buildStageTimeline app (resolveStagePath app) importedAt task.isSome =
      some timeline) :
    ((plannedEvents app importedAt task timeline).map ApplicationEvent.occurredAt).Pairwise
        (· < ·) ∧
      (∀ event ∈ plannedEvents app importedAt task timeline, event.occurredAt ≤ importedAt) ∧
        (task.isSome → ∀ event ∈ plannedEvents app importedAt task timeline,
          event.eventType = .stage → event.occurredAt < importedAt) := by
  have moments : (plannedEvents app importedAt task timeline).map ApplicationEvent.occurredAt =
      timeline ++ (task.map fun _ => importedAt).toList := occurredAt_plannedEvents built
  have early := buildStageTimeline_inTime built
  refine ⟨?_, fun event member => ?_, fun hasTask event member isStage => ?_⟩
  · rw [moments]
    refine List.pairwise_append.mpr ⟨buildStageTimeline_increasing built, ?_, ?_⟩
    · cases task with
      | none => exact List.Pairwise.nil
      | some task => exact List.pairwise_singleton _ _
    · intro date member last isLast
      obtain ⟨planned, isTask, rfl⟩ := Option.map_eq_some_iff.mp (Option.mem_toList.mp isLast)
      exact (early date member).2 (Option.isSome_iff_exists.mpr ⟨planned, isTask⟩)
  · have inside := List.mem_map_of_mem (f := ApplicationEvent.occurredAt) member
    rw [moments] at inside
    rcases List.mem_append.mp inside with staged | atImport
    · exact (early _ staged).1
    · obtain ⟨planned, -, same⟩ := Option.map_eq_some_iff.mp (Option.mem_toList.mp atImport)
      exact same.ge
  · rcases List.mem_append.mp member with staged | atImport
    · obtain ⟨pair, inZip, rfl⟩ := List.mem_map.mp staged
      exact (early pair.2 (List.of_mem_zip inZip).2).2 hasTask
    · obtain ⟨planned, -, rfl⟩ := Option.map_eq_some_iff.mp (Option.mem_toList.mp atImport)
      cases isStage

/-- What is planned is planned faithfully. -/
theorem planOne_faithful {app : CampaignApplication}
    (accepted : planOne parsed importedAt identityScope app = .ok planned) :
    FaithfullyPlanned app.toParsedApplication importedAt planned := by
  obtain ⟨task, timeline, snapshot, last, stage, isTask, dated, built, isLast, isStage, rfl⟩ :=
    planOne_ok accepted
  obtain ⟨legal, lastStage, -, -⟩ := resolveStagePath_legal app.toParsedApplication
  have carries : task.isSome = carriesTask app.toParsedApplication := by
    rw [← isTask]
    exact isSome_buildTask _ _ _ _
  have stages : (plannedEvents app.toParsedApplication importedAt task timeline).filterMap
      ApplicationEvent.stageReached = resolveStagePath app.toParsedApplication :=
    stages_plannedEvents dated
  obtain ⟨increasing, inTime, beforeTask⟩ := plannedEvents_inTime dated
  have current : stage = importedStage app.toParsedApplication :=
    Option.some.inj (isStage.symm.trans lastStage)
  have countStages := length_buildStageTimeline dated
  refine ⟨rfl, ⟨?_, ?_⟩, increasing, inTime, fun carried => beforeTask (carries.trans carried),
    ?_, ?_, current, rfl, ?_⟩
  · show (List.map _ _).length = (plannedEvents _ _ _ _).length
    unfold plannedEvents eventTags
    simp only [List.length_map, List.length_append, List.length_zip, countStages, min_self]
    cases task <;> rfl
  · rw [← carries]
    exact Option.isSome_map
  · show ((plannedEvents _ _ _ _).filterMap _).IsChain _
    rw [stages]
    exact legal
  · show ((plannedEvents _ _ _ _).filterMap _).getLast? = _
    rw [stages]
    exact lastStage
  · refine canonicalProjection_ok_iff.mpr
      ⟨last.occurredAt, task.toList, ?_, replay_planned isTask timeline, ?_⟩
    · show IsGreatest (occurrences (orderedEvents (plannedEvents _ _ _ _))) _
      rw [occurrences_orderedEvents]
      refine ⟨⟨last, List.mem_of_getLast? isLast, rfl⟩, ?_⟩
      rintro moment ⟨event, member, rfl⟩
      exact plannedEvents_le_last dated isLast event member
    · have fits : ∀ record ∈ task, record.status = .pending ∧ record.title.length ≤ 500 :=
        fun record member => (buildTask_some (isTask.trans member)).2
      show CanonicalProjection.mk _ _ _ _ _ = _
      rw [plannedApplication_nextAction snapshot fits]
      show CanonicalProjection.mk _ _ (importedLocation snapshot) _ _ = _
      rw [importedLocation_eq built]
      rfl

/-! ### The names -/

/-- Every tag an entry of a timeline can have. -/
def storedTags : List String :=
  ["stage:saved", "stage:preparing", "stage:applied", "stage:screening", "stage:interview",
    "stage:offer", "stage:accepted", "stage:rejected", "stage:withdrawn", "stage:archived",
    "task_created", "task"]

omit [TextTables] [NamedIds] [Pydantic] in
theorem importUrn_inj {identityScope fingerprint first firstTag second secondTag : String} :
    importUrn identityScope fingerprint first firstTag =
        importUrn identityScope fingerprint second secondTag ↔
      first ++ ":" ++ firstTag = second ++ ":" ++ secondTag := by
  unfold importUrn
  simp only [← String.toList_inj, String.toList_append, List.append_assoc,
    List.append_cancel_left_eq]

omit [TextTables] [NamedIds] [Pydantic] in
/-- No tag ends in another one after a colon, so a name is of one application and one tag. -/
theorem eq_of_tagged {first firstTag second secondTag : String} (isTag : firstTag ∈ storedTags)
    (isOther : secondTag ∈ storedTags)
    (same : first ++ ":" ++ firstTag = second ++ ":" ++ secondTag) :
    first = second ∧ firstTag = secondTag := by
  have apart : ∀ tag ∈ storedTags, ∀ other ∈ storedTags,
      (':' :: tag.toList) <:+ (':' :: other.toList) → tag = other := by decide
  have colon : ":".toList = [':'] := rfl
  have letters : first.toList ++ ':' :: firstTag.toList =
      second.toList ++ ':' :: secondTag.toList := by
    have := congrArg String.toList same
    simpa only [String.toList_append, List.append_assoc, colon, List.singleton_append] using this
  have tags : firstTag = secondTag := by
    rcases List.suffix_or_suffix_of_suffix (List.suffix_append first.toList _)
      (letters ▸ List.suffix_append second.toList (':' :: secondTag.toList)) with inner | inner
    · exact apart _ isTag _ isOther inner
    · exact (apart _ isOther _ isTag inner).symm
  subst tags
  exact ⟨String.toList_inj.mp (List.append_cancel_right letters), rfl⟩

omit [NamedIds] [Pydantic] in
theorem timelineTags_stored (app : ParsedApplication) :
    (timelineTags app).Nodup ∧ ∀ tag ∈ timelineTags app, tag ∈ storedTags := by
  have stageTag : ∀ stage : Stage, "stage:" ++ stage.name ∈ storedTags ∧
      "stage:" ++ stage.name ≠ "task_created" ∧ "stage:" ++ stage.name ≠ "task" := by
    intro stage
    cases stage <;> decide
  have stages : ((resolveStagePath app).map fun stage => "stage:" ++ stage.name).Nodup := by
    refine (resolveStagePath_legal app).2.2.2.map fun first second same => ?_
    cases first <;> cases second <;> first | rfl | exact absurd same (by decide)
  unfold timelineTags eventTags
  cases carriesTask app with
  | false =>
    refine ⟨by simpa using stages, fun tag member => ?_⟩
    simp only [Bool.false_eq_true, if_false, List.append_nil] at member
    obtain ⟨stage, -, rfl⟩ := List.mem_map.mp member
    exact (stageTag stage).1
  | true =>
    simp only [if_true, List.append_assoc]
    constructor
    · refine List.nodup_append.mpr ⟨stages, by decide, ?_⟩
      rintro tag member other isTask rfl
      obtain ⟨stage, -, rfl⟩ := List.mem_map.mp member
      rcases List.mem_cons.mp isTask with created | task
      · exact (stageTag stage).2.1 created
      · exact (stageTag stage).2.2 (List.mem_singleton.mp task)
    · intro tag member
      rcases List.mem_append.mp member with staged | tasked
      · obtain ⟨stage, -, rfl⟩ := List.mem_map.mp staged
        exact (stageTag stage).1
      · rcases List.mem_cons.mp tasked with rfl | isTask
        · decide
        · rw [List.mem_singleton.mp isTask]
          decide

/-- The names the rows of a plan are stored under. -/
def rowNames (parsed : ParsedCampaign) (identityScope : String) : List String :=
  parsed.applications.map fun app =>
    importUrn identityScope parsed.fingerprint "application" app.sourceApplicationId

/-- The names the events and tasks of a plan are stored under. -/
def timelineNames (parsed : ParsedCampaign) (identityScope : String) : List String :=
  parsed.applications.flatMap fun app =>
    (timelineTags app.toParsedApplication).map fun tag =>
      importUrn identityScope parsed.fingerprint app.sourceApplicationId tag

omit [TextTables] [NamedIds] [Pydantic] in
theorem nodup_rowNames (identityScope : String)
    (distinct : (parsed.applications.map fun app => app.sourceApplicationId).Nodup) :
    (rowNames parsed identityScope).Nodup := by
  have renamed : rowNames parsed identityScope =
      (parsed.applications.map fun app => app.sourceApplicationId).map
        (importUrn identityScope parsed.fingerprint "application") := by
    rw [List.map_map]
    rfl
  rw [renamed]
  refine distinct.map fun first second same => ?_
  have := importUrn_inj.mp same
  simpa only [← String.toList_inj, String.toList_append, List.append_cancel_left_eq] using this

omit [NamedIds] [Pydantic] in
theorem nodup_timelineNames (identityScope : String)
    (distinct : (parsed.applications.map fun app => app.sourceApplicationId).Nodup) :
    (timelineNames parsed identityScope).Nodup := by
  refine List.nodup_flatMap.mpr ⟨fun app _ => ?_, ?_⟩
  · obtain ⟨ownTags, stored⟩ := timelineTags_stored app.toParsedApplication
    refine List.Nodup.map_on (fun tag member other isOther same => ?_) ownTags
    exact (eq_of_tagged (stored tag member) (stored other isOther) (importUrn_inj.mp same)).2
  · refine (List.pairwise_map.mp distinct).imp fun {app other} different => ?_
    intro name inApp inOther
    obtain ⟨tag, isTag, rfl⟩ := List.mem_map.mp inApp
    obtain ⟨otherTag, isOther, same⟩ := List.mem_map.mp inOther
    exact different (eq_of_tagged ((timelineTags_stored _).2 _ isTag)
      ((timelineTags_stored _).2 _ isOther) (importUrn_inj.mp same.symm)).1

omit [NamedIds] [Pydantic] in
/-- The rows are named apart from the timelines where no application is called like an entry. -/
theorem disjoint_names_iff :
    (∀ name ∈ rowNames parsed identityScope, ∀ other ∈ timelineNames parsed identityScope,
      name ≠ other) ↔ RowsNamedApart parsed := by
  unfold rowNames timelineNames RowsNamedApart
  constructor
  · intro apart app member other isOther tag isTag same
    exact apart _ (List.mem_map_of_mem member) _
      (List.mem_flatMap_of_mem isOther (List.mem_map_of_mem isTag)) (importUrn_inj.mpr same)
  · rintro apart name isRow other isEntry rfl
    obtain ⟨app, member, rfl⟩ := List.mem_map.mp isRow
    obtain ⟨owner, isOwner, inside⟩ := List.mem_flatMap.mp isEntry
    obtain ⟨tag, isTag, same⟩ := List.mem_map.mp inside
    exact apart app member owner isOwner tag isTag (importUrn_inj.mp same.symm)

/-- The names of everything a plan stores. -/
def importNames (parsed : ParsedCampaign) (identityScope : String) : List String :=
  rowNames parsed identityScope ++ timelineNames parsed identityScope

/-! ### The plan of a campaign -/

theorem timelineIds_planOne {app : CampaignApplication}
    (accepted : planOne parsed importedAt identityScope app = .ok planned) :
    planned.timelineIds = (timelineTags app.toParsedApplication).map fun tag =>
      NamedIds.uuid5 (importUrn identityScope parsed.fingerprint app.sourceApplicationId tag) := by
  obtain ⟨task, timeline, snapshot, last, stage, isTask, -, -, -, -, rfl⟩ := planOne_ok accepted
  have carries : carriesTask app.toParsedApplication = task.isSome := by
    rw [← isTask]
    exact (isSome_buildTask _ _ _ _).symm
  unfold PlannedApplication.timelineIds timelineTags
  rw [carries, List.map_append]
  cases task with
  | none => rfl
  | some task =>
    dsimp only [Option.map_some, Option.toList_some, Option.isSome_some]
    rw [id_buildTask isTask]
    rfl

/-- The identifiers of a plan are those of its names. -/
theorem ids_plan {plan : List PlannedApplication}
    (planned : parsed.applications.mapM (planOne parsed importedAt identityScope) = .ok plan) :
    plan.map PlannedApplication.applicationId =
        (rowNames parsed identityScope).map NamedIds.uuid5 ∧
      plan.flatMap PlannedApplication.timelineIds =
        (timelineNames parsed identityScope).map NamedIds.uuid5 := by
  have each := mapM_ok_iff_forall₂.mp planned
  unfold rowNames timelineNames
  clear planned
  generalize parsed.applications = applications at each
  induction each with
  | nil => exact ⟨rfl, rfl⟩
  | cons accepted _ inductionHypothesis =>
    obtain ⟨rows, timelines⟩ := inductionHypothesis
    constructor
    · obtain ⟨task, timeline, snapshot, last, stage, -, -, -, -, -, rfl⟩ := planOne_ok accepted
      rw [List.map_cons, List.map_cons, List.map_cons, rows]
    · rw [List.flatMap_cons, List.flatMap_cons, List.map_append, timelines,
        timelineIds_planOne accepted, List.map_map]
      rfl

/-- The plan of an accepted archive whose identifiers have names of their own is sound exactly
when its addresses can be split, the import leaves room for the timelines and no row is named
like an entry of one. Without the last, the identifiers of the rows and those of the timelines
are still taken once each. -/
theorem campaignPlan_sound_iff {archive : CampaignArchive} [CampaignReaders]
    {parsed : ParsedCampaign} {importedAt : DateTime} {identityScope campaignName : String}
    (accepted : parseCampaignWorkspace archive = .ok parsed)
    (owned : Text.blank identityScope = false)
    (valid : validateCampaignPlanLengths parsed campaignName = .ok ())
    (apart : Set.InjOn NamedIds.uuid5
      {name | name ∈ importNames parsed (Text.strip identityScope)}) :
    ((∃ plan, planCampaignImport parsed importedAt identityScope campaignName = .ok plan ∧
        SoundPlan parsed importedAt plan) ↔
      (∀ app ∈ parsed.applications,
        AddressesReadable app ∧ ReachesBack app.toParsedApplication importedAt) ∧
          RowsNamedApart parsed) ∧
    ((∀ app ∈ parsed.applications,
        AddressesReadable app ∧ ReachesBack app.toParsedApplication importedAt) →
      ∃ plan, planCampaignImport parsed importedAt identityScope campaignName = .ok plan ∧
        FaithfulPlan parsed importedAt plan) := by
  have plans : ∀ plan, planCampaignImport parsed importedAt identityScope campaignName =
      .ok plan ↔ parsed.applications.mapM (planOne parsed importedAt (Text.strip identityScope)) =
        .ok plan := by
    intro plan
    unfold planCampaignImport
    simp only [bind_ok_iff, refuseWhen_ok_iff, owned, valid, Bool.false_eq_true, not_false_iff,
      exists_const, true_and]
  have planned : (∃ plan, planCampaignImport parsed importedAt identityScope campaignName =
      .ok plan) ↔ ∀ app ∈ parsed.applications,
        AddressesReadable app ∧ ReachesBack app.toParsedApplication importedAt := by
    simp only [plans, mapM_ok_iff, planOne_ok_iff]
  have distinct := nodup_ids_parsed accepted
  have rows := nodup_rowNames (Text.strip identityScope) distinct
  have timelines := nodup_timelineNames (Text.strip identityScope) distinct
  have identified : ∀ names : List String,
      (∀ name ∈ names, name ∈ importNames parsed (Text.strip identityScope)) →
        ((names.map NamedIds.uuid5).Nodup ↔ names.Nodup) := by
    intro names inside
    refine ⟨List.Nodup.of_map _, List.Nodup.map_on ?_⟩
    exact fun name member other isOther same => apart (inside _ member) (inside _ isOther) same
  have faithful : ∀ plan, planCampaignImport parsed importedAt identityScope campaignName =
      .ok plan → FaithfulPlan parsed importedAt plan := by
    intro plan found
    obtain ⟨rowIds, timelineIds⟩ := ids_plan ((plans plan).mp found)
    refine ⟨(mapM_ok_iff_forall₂.mp ((plans plan).mp found)).imp
      fun _ _ accepted => planOne_faithful accepted, ?_, ?_⟩
    · rw [rowIds]
      exact (identified _ fun _ member => List.mem_append_left _ member).mpr rows
    · rw [timelineIds]
      exact (identified _ fun _ member => List.mem_append_right _ member).mpr timelines
  have sound : ∀ plan, planCampaignImport parsed importedAt identityScope campaignName =
      .ok plan → (SoundPlan parsed importedAt plan ↔ RowsNamedApart parsed) := by
    intro plan found
    obtain ⟨rowIds, timelineIds⟩ := ids_plan ((plans plan).mp found)
    unfold SoundPlan
    rw [rowIds, timelineIds, ← List.map_append, identified (rowNames parsed _ ++ _) fun _ member => member,
      List.nodup_append, ← @disjoint_names_iff _ _ (Text.strip identityScope)]
    exact ⟨fun both => both.2.2.2, fun apart => ⟨faithful plan found, rows, timelines, apart⟩⟩
  constructor
  · rw [← planned]
    constructor
    · rintro ⟨plan, found, isSound⟩
      exact ⟨⟨plan, found⟩, (sound plan found).mp isSound⟩
    · rintro ⟨⟨plan, found⟩, apart⟩
      exact ⟨plan, found, (sound plan found).mpr apart⟩
  · intro ready
    obtain ⟨plan, found⟩ := planned.mpr ready
    exact ⟨plan, found, faithful plan found⟩

end

/-! ### An address that cannot be split -/

section

/-- Names told apart by the last digit of the sum of their letters. -/
@[reducible] def NamedIds.byLetters : NamedIds where
  uuid5 := fun name => "6ba7b811-9dad-51d1-80b4-00c04fd430c" ++
    String.singleton (Char.ofNat (0x30 + (name.toList.map Char.toNat).sum % 10))
  canonical_uuid5 := fun name => by
    have digits : ∀ digit : Fin 10, canonicalUuid ("6ba7b811-9dad-51d1-80b4-00c04fd430c" ++
        String.singleton (Char.ofNat (0x30 + digit))) = true := by decide
    exact digits ⟨_, Nat.mod_lt _ (by decide)⟩

attribute [local instance] Pydantic.canonical TextTables.plain NamedIds.byLetters
  CampaignReaders.nothing

theorem perm_postingAliases :
    ["id", "applicationid", "sourceapplicationid", "appid", "codice"].Perm acceptedIdAliases := by
  decide

/-- An archive whose tracker has one application with a posting at an address. -/
def postingArchive (address : String) : CampaignArchive where
  fingerprint := "f00d"
  idAliases := ["id", "applicationid", "sourceapplicationid", "appid", "codice"]
  aliases := perm_postingAliases
  records := [[("id", .str "A1"), ("url", .str address)]]
  packets := []
  artifacts := [⟨"ApplicationTracker.xlsx", "ApplicationTracker.xlsx", "tracker"⟩]

/-- What is parsed of it. -/
def postingCampaign (address : String) : ParsedCampaign where
  fingerprint := "f00d"
  applications := [trackerApplication [("id", .str "A1"), ("url", .str address)] "A1" 0 none]
  vacancies := []
  artifacts := [⟨"ApplicationTracker.xlsx", "ApplicationTracker.xlsx", "tracker"⟩]

theorem parse_posting (address : String) :
    parseCampaignWorkspace (postingArchive address) = .ok (postingCampaign address) := by
  have named : findText [("id", .str "A1"), ("url", .str address)]
      (postingArchive address).idAliases = some "A1" := by
    have first : cleanHeaderKey "id" = "id" := by decide
    have second : cleanHeaderKey "url" = "url" := by decide
    have solid : Text.blank "A1" = false := by decide
    unfold findText postingArchive
    dsimp only
    unfold findField
    simp [first, second, solid, Dict.lookup_cons, isBlankCell, cellText]
  have read : readIds (postingArchive address).idAliases [] (postingArchive address).records =
      .ok [("A1", [("id", .str "A1"), ("url", .str address)])] := by
    show readIds (postingArchive address).idAliases [] [_] = _
    simp only [readIds, named]
    rfl
  have noPackets : ((Dict.keys (resolvedPackets [] ["A1"])).filter fun id =>
      id ∉ ["A1"]).mergeSort (· ≤ ·) = [] := List.mergeSort_nil
  unfold parseCampaignWorkspace
  rw [read]
  show Except.ok (ParsedCampaign.mk _ (_ ++ untrackedApplications
    (((Dict.keys (resolvedPackets [] ["A1"])).filter fun id =>
      id ∉ ["A1"]).mergeSort (· ≤ ·)) _ _) _ _) = _
  rw [noPackets]
  rfl

/-- The plan of a posting at a readable address is sound. -/
theorem campaignPlan_sound_posting : ∃ plan,
    planCampaignImport (postingCampaign "https://example.org/jobs/7") savedAt "user:1"
        "Spring campaign" = .ok plan ∧
      SoundPlan (postingCampaign "https://example.org/jobs/7") savedAt plan := by
  refine (campaignPlan_sound_iff (parse_posting "https://example.org/jobs/7") (by decide)
    (by rfl) ?_).1.mpr ⟨?_, ?_⟩
  · have apart : ∀ first ∈ importNames (postingCampaign "https://example.org/jobs/7")
        (Text.strip "user:1"), ∀ second ∈ importNames
          (postingCampaign "https://example.org/jobs/7") (Text.strip "user:1"),
            NamedIds.uuid5 first = NamedIds.uuid5 second → first = second := by decide +kernel
    exact fun first member second isSecond same => apart first member second isSecond same
  · intro app member
    rw [List.mem_singleton.mp member]
    have jobPosting : (trackerApplication [("id", .str "A1"), ("url", .str
        "https://example.org/jobs/7")] "A1" 0 none).jobPostingUrl = none := by decide +kernel
    have platform : (trackerApplication [("id", .str "A1"), ("url", .str
        "https://example.org/jobs/7")] "A1" 0 none).platformUrl = none := by decide +kernel
    have address : (trackerApplication [("id", .str "A1"), ("url", .str
        "https://example.org/jobs/7")] "A1" 0 none).url = some "https://example.org/jobs/7" := by
      decide +kernel
    have readable : AddressesSplit [none, some "https://example.org/jobs/7"] := by
      unfold AddressesSplit AddressesSplit
      exact ⟨by decide +kernel, fun _ => trivial⟩
    unfold AddressesReadable
    rw [jobPosting, platform, address]
    exact ⟨⟨readable, readable⟩, by unfold ReachesBack; decide +kernel⟩
  · unfold RowsNamedApart
    decide +kernel

/-- A posting whose address opens a bracket ends the import of the whole campaign. -/
theorem campaignPlan_not_sound :
    ¬∀ archive parsed, parseCampaignWorkspace archive = .ok parsed →
      validateCampaignPlanLengths parsed "Spring campaign" = .ok () →
        ∃ plan, planCampaignImport parsed savedAt "user:1" "Spring campaign" = .ok plan ∧
          SoundPlan parsed savedAt plan := by
  intro claimed
  obtain ⟨plan, planned, -⟩ := claimed _ _ (parse_posting "http://[") (by rfl)
  have refused : (planCampaignImport (postingCampaign "http://[") savedAt "user:1"
      "Spring campaign").isOk = false := by decide +kernel
  rw [planned] at refused
  cases refused

end

end CareerOS
