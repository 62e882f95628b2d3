/-
This file is the plan of an imported campaign, one application at a time: the
stages its tracker status stands for, the moments those stages are dated at, and
the one task an open tracker row may carry. The plan writes the columns of the
application itself instead of going through the writers of the timeline.
-/

import CareerOS.Applications.Models
import CareerOS.Library.Url

namespace CareerOS

/-- `ParsedApplication`, with the sources and the directory of its provenance. -/
structure ParsedApplication where
  sourceApplicationId : String
  sourceOrder : Nat
  sourceStatus : Option String
  priority : Option String
  platform : Option String
  category : Option String
  outcome : Option String
  foundAt : Option Date
  appliedAt : Option Date
  followUpAt : Option Date
  lastUpdateAt : Option Date
  nextAction : Option String
  trackerRecord : Dict String Json
  sources : List String
  packetDir : Option String

section

variable [TextTables]

/-- `(value or "").strip().lower()`. -/
def cleanWord (value : Option String) : String := TextTables.lower (Text.strip (value.getD ""))

def ParsedApplication.inTracker (app : ParsedApplication) : Bool := app.sources.contains "tracker"

/-- `resolve_stage_path`. -/
def resolveStagePath (app : ParsedApplication) : List Stage :=
  if ¬app.inTracker then [.saved, .preparing]
  else
    let status := cleanWord app.sourceStatus
    if status = "saved" then [.saved]
    else if status = "preparing" then [.saved, .preparing]
    else if status = "applied" then [.saved, .preparing, .applied]
    else if status = "closed" then
      if app.appliedAt.isSome then [.saved, .preparing, .applied, .archived]
      else [.saved, .archived]
    else [.saved]

/-- The date a stage of the path is anchored at. -/
def stageAnchor (app : ParsedApplication) (stages : List Stage) (stage : Stage) :
    Option DateTime :=
  match stage with
  | .saved => app.foundAt.map Date.noon
  | .preparing =>
    if stages.contains .applied then none
    else (app.lastUpdateAt.map Date.noon).or (app.foundAt.map Date.noon)
  | .applied => app.appliedAt.map Date.noon
  | .archived =>
    ((app.lastUpdateAt.map Date.noon).or (app.appliedAt.map Date.noon)).or
      (app.foundAt.map Date.noon)
  | _ => none

/-- An anchor that may not be after a bound, or the bound. -/
def capAt (upperBound : DateTime) (capped : Option DateTime) : DateTime :=
  match capped with
  | some capped => if capped ≤ upperBound then capped else upperBound
  | none => upperBound

omit [TextTables] in
theorem capAt_le (upperBound : DateTime) (capped : Option DateTime) :
    capAt upperBound capped ≤ upperBound := by
  unfold capAt
  split
  · split
    · assumption
    · exact le_rfl
  · exact le_rfl

/-- The moments of the stages before a dated one, latest first. -/
def datesBefore (later : DateTime) : List (Option DateTime) → Option (List DateTime)
  | [] => some []
  | capped :: rest => do
    let upperBound ← later.before
    let here := capAt upperBound capped
    let earlier ← datesBefore here rest
    return here :: earlier

/-- The latest moment a stage may be dated at: just before the task, if there is one. -/
def latestInstant (importedAt : DateTime) (hasTask : Bool) : Option DateTime :=
  if hasTask then importedAt.before else some importedAt

/-- `build_stage_timeline`; nothing stands for the `OverflowError` of a subtraction. -/
def buildStageTimeline (app : ParsedApplication) (stages : List Stage) (importedAt : DateTime)
    (hasTask : Bool) : Option (List DateTime) := do
  let maxInstant ← latestInstant importedAt hasTask
  let capped := stages.map fun stage => (stageAnchor app stages stage).map (min · maxInstant)
  match capped.reverse with
  | [] => return []
  | last :: rest =>
    let lastAt := last.getD maxInstant
    let earlier ← datesBefore lastAt rest
    return (lastAt :: earlier).reverse

variable [NamedIds] [Pydantic]

/-- The name an imported entity's identifier is derived from. -/
def importUrn (identityScope fingerprint sourceApplicationId tag : String) : String :=
  "urn:careeros:campaign:" ++ identityScope ++ ":" ++ fingerprint ++ ":" ++ sourceApplicationId ++
    ":" ++ tag

/-- `priority_map.get(priority, "normal")`. -/
def importedPriority (app : ParsedApplication) : TaskPriority :=
  let priority := cleanWord app.priority
  if priority = "urgent" then .urgent
  else if priority = "high" then .high
  else if priority = "low" then .low
  else .normal

/-- `_build_task`: the record of the planned task. -/
def buildTask (app : ParsedApplication) (fingerprint : String) (importedAt : DateTime)
    (identityScope : String) : Option TaskResponse :=
  if cleanWord app.sourceStatus = "closed" ∨ ¬app.inTracker then none
  else
    match app.nextAction.bind Text.stripOrNone with
    | none => none
    | some action => some {
        id := NamedIds.uuid5 (importUrn identityScope fingerprint app.sourceApplicationId "task")
        title := Text.slice action 500
        status := .pending
        priority := importedPriority app
        dueAt := app.followUpAt.map Date.noon
        reminderAt := none
        completedAt := none
        revision := 1
        createdAt := importedAt
        updatedAt := importedAt
        canonical := NamedIds.canonical_uuid5 _
        positive := Nat.one_pos }

/-- The event of the planned task. -/
def plannedTaskEvent (task : TaskResponse) (importedAt : DateTime) : ApplicationEvent where
  eventType := .taskCreated
  stage := none
  occurredAt := importedAt
  note := some task.title
  payload := [("schema_version", .str "1.0"), ("task", task.modelDump)]
  createdAt := importedAt

/-- The event of one planned stage. -/
def plannedStageEvent (app : ParsedApplication) (importedAt : DateTime)
    (planned : Stage × DateTime) : ApplicationEvent where
  eventType := .stage
  stage := some planned.1
  occurredAt := planned.2
  note := none
  payload := [("import", .bool true), ("source_application_id", .str app.sourceApplicationId)]
  createdAt := importedAt

/-- The events of one planned application: its dated stages, then its task. -/
def plannedEvents (app : ParsedApplication) (importedAt : DateTime) (task : Option TaskResponse)
    (timeline : List DateTime) : List ApplicationEvent :=
  ((resolveStagePath app).zip timeline).map (plannedStageEvent app importedAt) ++
    (task.map fun task => plannedTaskEvent task importedAt).toList

/-- `snapshot.get("location")` cut to the column, where there is one. -/
def importedLocation (snapshot : Dict String Json) : Option String :=
  match Dict.lookup "location" snapshot with
  | some (.str text) => if text = "" then none else some (Text.slice text 500)
  | _ => none

/-- The row of one planned application. -/
def plannedApplication (snapshot : Dict String Json) (task : Option TaskResponse)
    (events : List ApplicationEvent) (currentStage : Stage) (last : ApplicationEvent) :
    Application where
  jobId := none
  scrapedJobId := none
  resumeVersionId := none
  revision := events.length
  currentStage := currentStage
  jobSnapshot := snapshot
  jobTitle := projectedTitle snapshot
  jobCompany := projectedCompany snapshot
  jobLocation := importedLocation snapshot
  latestEventAt := last.occurredAt
  nextAction := {
    taskId := task.map TaskResponse.id
    title := task.map fun task => Text.slice task.title 500
    dueAt := task.bind TaskResponse.dueAt
    priority := task.map TaskResponse.priority }
  events := events

/-- One application of `plan_campaign_import` as `persist_entities` stores it. The snapshot is
the one `_build_snapshot` takes from the tracker row and the vacancy file. -/
def planApplication (app : ParsedApplication) (fingerprint : String) (importedAt : DateTime)
    (identityScope : String) (snapshot : Dict String Json) : Option Application := do
  let task := buildTask app fingerprint importedAt identityScope
  let timeline ← buildStageTimeline app (resolveStagePath app) importedAt task.isSome
  let events := plannedEvents app importedAt task timeline
  let last ← events.getLast?
  let currentStage ← (resolveStagePath app).getLast?
  return plannedApplication snapshot task events currentStage last

/-! ### What a plan holds -/

variable {app : ParsedApplication} {importedAt : DateTime}

omit [Pydantic] in
/-- The planned task is a new one, with a title that fits its column. -/
theorem buildTask_some {fingerprint : String} {identityScope : String} {task : TaskResponse}
    (built : buildTask app fingerprint importedAt identityScope = some task) :
    task.revision = 1 ∧ task.status = .pending ∧ task.title.length ≤ 500 := by
  unfold buildTask at built
  split at built
  · cases built
  · split at built
    · cases built
    · cases built
      exact ⟨rfl, rfl, Text.length_slice_le _ _⟩

variable {timeline : List DateTime} {hasTask : Bool}

section

omit [TextTables] [NamedIds] [Pydantic]

theorem length_datesBefore {later : DateTime} {capped : List (Option DateTime)}
    {dates : List DateTime} (dated : datesBefore later capped = some dates) :
    dates.length = capped.length := by
  induction capped generalizing later dates with
  | nil =>
    cases dated
    rfl
  | cons first rest inductionHypothesis =>
    simp only [datesBefore, Option.bind_eq_bind, Option.bind_eq_some_iff, Option.pure_def,
      Option.some.injEq] at dated
    obtain ⟨upperBound, -, earlier, datedRest, rfl⟩ := dated
    rw [List.length_cons, inductionHypothesis datedRest, List.length_cons]

/-- Every stage of the path is dated. -/
theorem length_buildStageTimeline {stages : List Stage}
    (built : buildStageTimeline app stages importedAt hasTask = some timeline) :
    timeline.length = stages.length := by
  simp only [buildStageTimeline, Option.bind_eq_bind, Option.bind_eq_some_iff] at built
  obtain ⟨maxInstant, -, built⟩ := built
  split at built
  · rename_i noStages
    cases built
    have := congrArg List.length noStages
    simpa using this.symm
  · rename_i last rest stagesReversed
    simp only [Option.pure_def, Option.bind_eq_some_iff, Option.some.injEq] at built
    obtain ⟨earlier, dated, rfl⟩ := built
    have count := congrArg List.length stagesReversed
    rw [List.length_reverse, List.length_map, List.length_cons] at count
    rw [List.length_reverse, List.length_cons, length_datesBefore dated, count]

/-- The dates before a date are before it. -/
theorem datesBefore_lt {later : DateTime} {capped : List (Option DateTime)}
    {dates : List DateTime} (dated : datesBefore later capped = some dates) :
    ∀ date ∈ dates, date < later := by
  induction capped generalizing later dates with
  | nil =>
    cases dated
    intro date impossible
    cases impossible
  | cons first rest inductionHypothesis =>
    simp only [datesBefore, Option.bind_eq_bind, Option.bind_eq_some_iff, Option.pure_def,
      Option.some.injEq] at dated
    obtain ⟨upperBound, isBefore, earlier, datedRest, rfl⟩ := dated
    have here : capAt upperBound first < later :=
      lt_of_le_of_lt (capAt_le upperBound first) (DateTime.before_lt isBefore)
    intro date member
    rcases List.mem_cons.mp member with rfl | inside
    · exact here
    · exact (inductionHypothesis datedRest date inside).trans here

/-- The last stage is dated last, and no later than a stage may be. -/
theorem buildStageTimeline_le {stages : List Stage}
    (built : buildStageTimeline app stages importedAt hasTask = some timeline) :
    ∃ maxInstant, latestInstant importedAt hasTask = some maxInstant ∧
      ∀ last, timeline.getLast? = some last →
        last ≤ maxInstant ∧ ∀ date ∈ timeline, date ≤ last := by
  simp only [buildStageTimeline, Option.bind_eq_bind, Option.bind_eq_some_iff] at built
  obtain ⟨maxInstant, latest, built⟩ := built
  refine ⟨maxInstant, latest, ?_⟩
  split at built
  · cases built
    intro last impossible
    cases impossible
  · rename_i cappedLast rest stagesReversed
    simp only [Option.pure_def, Option.bind_eq_some_iff, Option.some.injEq] at built
    obtain ⟨earlier, dated, rfl⟩ := built
    intro last isLast
    rw [List.getLast?_reverse, List.head?_cons, Option.some.injEq] at isLast
    subst isLast
    constructor
    · have member := List.mem_reverse.mp (stagesReversed ▸ List.mem_cons_self)
      obtain ⟨stage, -, anchored⟩ := List.mem_map.mp member
      subst anchored
      cases stageAnchor app stages stage with
      | none => rw [Option.map_none, Option.getD_none]
      | some anchor =>
        rw [Option.map_some, Option.getD_some]
        exact min_le_right anchor maxInstant
    · intro date member
      rcases List.mem_cons.mp (List.mem_reverse.mp member) with rfl | inside
      · exact le_rfl
      · exact (datesBefore_lt dated date inside).le

end

theorem planApplication_ok {fingerprint : String}
    {identityScope : String} {snapshot : Dict String Json}
    {application : Application} (planned : planApplication app fingerprint importedAt
      identityScope snapshot = some application) :
    ∃ task timeline last stage, task = buildTask app fingerprint importedAt identityScope ∧
      buildStageTimeline app (resolveStagePath app) importedAt task.isSome = some timeline ∧
      (plannedEvents app importedAt task timeline).getLast? = some last ∧
      (resolveStagePath app).getLast? = some stage ∧
      application = plannedApplication snapshot task (plannedEvents app importedAt task timeline)
        stage last := by
  simp only [planApplication, Option.bind_eq_bind, Option.bind_eq_some_iff, Option.pure_def,
    Option.some.injEq] at planned
  obtain ⟨timeline, dated, last, isLast, stage, isStage, rfl⟩ := planned
  exact ⟨_, timeline, last, stage, rfl, dated, isLast, isStage, rfl⟩

variable {task : Option TaskResponse}

omit [NamedIds] in
/-- The stages a plan goes through are those of its path. -/
theorem stages_plannedEvents
    (built : buildStageTimeline app (resolveStagePath app) importedAt hasTask = some timeline) :
    (plannedEvents app importedAt task timeline).filterMap ApplicationEvent.stageReached =
      resolveStagePath app := by
  have stageOf : ApplicationEvent.stageReached ∘ plannedStageEvent app importedAt =
      some ∘ Prod.fst := rfl
  have taskOf : (task.map fun task => plannedTaskEvent task importedAt).toList.filterMap
      ApplicationEvent.stageReached = [] := by
    cases task <;> rfl
  unfold plannedEvents
  rw [List.filterMap_append, taskOf, List.append_nil, List.filterMap_map, stageOf,
    List.filterMap_eq_map]
  exact List.map_fst_zip (length_buildStageTimeline built).ge

omit [NamedIds] in
/-- The moments of a plan: the dates of its stages, then the import for its task. -/
theorem occurredAt_plannedEvents
    (built : buildStageTimeline app (resolveStagePath app) importedAt hasTask = some timeline) :
    (plannedEvents app importedAt task timeline).map ApplicationEvent.occurredAt =
      timeline ++ (task.map fun _ => importedAt).toList := by
  have momentOf : ApplicationEvent.occurredAt ∘ plannedStageEvent app importedAt = Prod.snd := rfl
  have taskOf : (task.map fun task => plannedTaskEvent task importedAt).toList.map
      ApplicationEvent.occurredAt = (task.map fun _ => importedAt).toList := by
    cases task <;> rfl
  unfold plannedEvents
  rw [List.map_append, taskOf, List.map_map, momentOf,
    List.map_snd_zip (length_buildStageTimeline built).le]

omit [NamedIds] in
/-- The last event of a plan is the latest. -/
theorem plannedEvents_le_last
    {last : ApplicationEvent}
    (built : buildStageTimeline app (resolveStagePath app) importedAt task.isSome = some timeline)
    (isLast : (plannedEvents app importedAt task timeline).getLast? = some last) :
    ∀ event ∈ plannedEvents app importedAt task timeline, event.occurredAt ≤ last.occurredAt := by
  obtain ⟨maxInstant, latest, bounded⟩ := buildStageTimeline_le built
  have moments : (plannedEvents app importedAt task timeline).map ApplicationEvent.occurredAt =
      timeline ++ (task.map fun _ => importedAt).toList := occurredAt_plannedEvents built
  have lastMoment := congrArg (Option.map ApplicationEvent.occurredAt) isLast
  rw [← List.getLast?_map, moments, Option.map_some] at lastMoment
  intro event member
  have inside := List.mem_map_of_mem (f := ApplicationEvent.occurredAt) member
  rw [moments] at inside
  cases task with
  | none =>
    simp only [Option.map_none, Option.toList_none, List.append_nil] at lastMoment inside
    exact (bounded _ lastMoment).2 _ inside
  | some task =>
    simp only [Option.map_some, Option.toList_some, List.getLast?_concat, Option.some.injEq]
      at lastMoment
    rw [← lastMoment]
    rcases List.mem_append.mp inside with staged | atImport
    · cases dated : timeline.getLast? with
      | none =>
        rw [List.getLast?_eq_none_iff.mp dated] at staged
        cases staged
      | some lastStage =>
        obtain ⟨before, after⟩ := bounded lastStage dated
        have early : maxInstant < importedAt := DateTime.before_lt latest
        exact (after _ staged).trans (before.trans early.le)
    · exact (List.mem_singleton.mp atImport).le

end

end CareerOS
