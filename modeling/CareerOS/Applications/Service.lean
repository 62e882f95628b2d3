/-
This file is the application service: creating an application, the writers of
its timeline, and the reads. A writer first reads the application and plans its
change, then commits with a compare-and-swap on the revision; what it read is
`seen`, what the row holds when the statement runs is `current`. The two reads
of the clock and the draws of identifiers are arguments.
-/

import CareerOS.Applications.Snapshots
import CareerOS.Applications.TaskReplay
import CareerOS.Library.Outcome

namespace CareerOS

/-- The other rows a request reads. -/
structure Surroundings where
  /-- The owned job of an identifier, its analysis receipt checked. -/
  job : Nat → Option Job
  /-- `_existing_logical_application`. -/
  existingLogicalApplication : Nat → Bool
  /-- Is there a resume version of this identifier, published from an owned profile? -/
  ownsResumeVersion : String → Bool

/-- `_resume_version` for its refusal. -/
def checkResumeVersion (surroundings : Surroundings) (versionId : Option String) :
    Except ApplicationError Unit :=
  match versionId with
  | none => .ok ()
  | some versionId =>
    if surroundings.ownsResumeVersion versionId then .ok ()
    else .error (.validation "Resume version not found")

/-- The row with one more event. -/
def Application.append (application : Application) (event : ApplicationEvent) : Application :=
  { application with events := application.events ++ [event] }

/-- `_safe_snapshot`. -/
def safeSnapshot (surroundings : Surroundings) (application : Application) : Dict String Json :=
  sanitizeApplicationSnapshot application.jobSnapshot (application.jobId.bind surroundings.job)
    "analysis_not_receipt_verified"

/-- The message of a request that expects another revision than the one it reads. -/
def staleRevision (expectedRevision : Nat) (application : Application) : ApplicationError :=
  .conflict ("Expected revision " ++ toString expectedRevision ++ ", current revision is " ++
    toString application.revision)

/-- `_advance_revision`. The values given by the caller are written last. -/
def advanceRevision (seen : Application) (expectedRevision : Nat) (now : DateTime)
    (values : Application → Application) (current : Application) :
    Except ApplicationError Application := do
  refuseWhen (seen.revision ≠ expectedRevision) (staleRevision expectedRevision seen)
  refuseWhen (maxInteger ≤ expectedRevision) .overflow
  refuseWhen (current.revision ≠ expectedRevision)
    (.conflict "Application changed in another session")
  return values
    { current with
      revision := expectedRevision + 1
      latestEventAt := max now seen.latestEventAt }

variable {seen current next : Application} {now : DateTime}

theorem advanceRevision_ok_iff {expectedRevision : Nat}
    {values : Application → Application} :
    advanceRevision seen expectedRevision now values current = .ok next ↔
      seen.revision = expectedRevision ∧ expectedRevision < maxInteger ∧
        current.revision = expectedRevision ∧
          values { current with
            revision := expectedRevision + 1
            latestEventAt := max now seen.latestEventAt } = next := by
  simp only [advanceRevision, bind_ok_iff, refuseWhen_ok_iff, pure_ok_iff, not_not, not_le,
    exists_const]

section

variable [Pydantic] [TextTables]

/-! ### Creating an application -/

/-- The owned job a new application is made from, if any. -/
def sourceJob (surroundings : Surroundings) (source : JobSource) :
    Except ApplicationError (Option Job) :=
  match source with
  | .manual _ => .ok none
  | .job jobId =>
    match surroundings.job jobId with
    | none => .error (.validation "Job not found")
    | some job => .ok (some job)

/-- The snapshot of a new application. -/
def createSnapshot (surroundings : Surroundings) (source : JobSource) (job : Option Job) :
    Except ApplicationError (Dict String Json) :=
  match job, source with
  | some job, _ =>
    if surroundings.existingLogicalApplication job.scrapedJobId then
      .error (.conflict "An application already exists for this opportunity")
    else .ok (snapshotFromJob job)
  | none, .manual data => .ok (manualSnapshot data)
  | none, .job _ => .error (.validation "Manual job snapshot is required")

/-- The row and the first event of a new application. -/
def createdApplication (data : ApplicationCreate) (job : Option Job)
    (snapshot : Dict String Json) (now : DateTime) : Application where
  jobId := job.map Job.id
  scrapedJobId := job.map Job.scrapedJobId
  resumeVersionId := data.resumeVersionId
  revision := 1
  currentStage := data.initialStage
  jobSnapshot := snapshot
  jobTitle := projectedTitle snapshot
  jobCompany := projectedCompany snapshot
  jobLocation := projectedLocation snapshot
  latestEventAt := now
  nextAction := projection none
  events := [{
    eventType := .stage
    stage := some data.initialStage
    occurredAt := now
    note := data.note
    payload := [("initial", .bool true)]
    createdAt := now }]

/-- `create`. -/
def create (surroundings : Surroundings) (data : ApplicationCreate) (now : DateTime) :
    Except ApplicationError Application := do
  let job ← sourceJob surroundings data.source
  checkResumeVersion surroundings data.resumeVersionId
  let snapshot ← createSnapshot surroundings data.source job
  return createdApplication data job snapshot now

/-! ### Writing the timeline -/

/-- The stage an event leads to, or the refusal of the move. -/
def nextStage (application : Application) (data : ApplicationEventCreate) :
    Except ApplicationError Stage :=
  match data.eventType, data.stage with
  | .stage, some stage =>
    if stage = application.currentStage then .ok application.currentStage
    else if stage ∈ transitions application.currentStage then .ok stage
    else .error (.conflict ("Cannot transition from " ++ application.currentStage.name ++ " to " ++
      stage.name))
  | _, _ => .ok application.currentStage

/-- The event a request asks for. -/
def ApplicationEventCreate.event (data : ApplicationEventCreate) (now : DateTime) :
    ApplicationEvent where
  eventType := data.eventType
  stage := data.stage
  occurredAt := data.occurredAt.getD now
  note := data.note
  payload := data.payload
  createdAt := now

/-- `append_event`. -/
def appendEvent (data : ApplicationEventCreate) (now : DateTime) (seen current : Application) :
    Except ApplicationError Application := do
  refuseWhen (seen.revision ≠ data.expectedRevision) (staleRevision data.expectedRevision seen)
  let stage ← nextStage seen data
  let event := data.event now
  let advanced ← advanceRevision seen data.expectedRevision now
    (fun row => { row with
      currentStage := stage
      latestEventAt := max seen.latestEventAt event.occurredAt }) current
  return advanced.append event

/-- One field of a preparation update: the snapshot and the names of the changed fields. -/
def prepareField (state : Dict String Json × List String)
    (change : String × Option (Option String)) : Dict String Json × List String :=
  match change.2 with
  | none => state
  | some value =>
    if (Dict.lookup change.1 state.1).getD .null = Json.ofText value then state
    else (Dict.assign change.1 (.ofText value) state.1, state.2 ++ [change.1])

/-- The text fields of a preparation update, in the order they are applied. -/
def ApplicationPreparationUpdate.textFields (data : ApplicationPreparationUpdate) :
    List (String × Option (Option String)) := [
  ("title", data.title),
  ("company", data.company),
  ("description", data.description),
  ("application_url", data.applicationUrl),
  ("application_email", data.applicationEmail)]

/-- The snapshot after a preparation update, and the names of the changed text fields. -/
def preparedTexts (surroundings : Surroundings) (data : ApplicationPreparationUpdate)
    (application : Application) : Dict String Json × List String :=
  data.textFields.foldl prepareField (safeSnapshot surroundings application, [])

/-- The resume version after a preparation update. -/
def preparedResumeVersion (data : ApplicationPreparationUpdate) (application : Application) :
    Option String :=
  data.resumeVersionId.getD application.resumeVersionId

/-- The names of the fields a preparation update changes. -/
def changedFields (surroundings : Surroundings) (data : ApplicationPreparationUpdate)
    (application : Application) : List String :=
  (preparedTexts surroundings data application).2 ++
    if preparedResumeVersion data application = application.resumeVersionId then []
    else ["resume_version_id"]

/-- `update_preparation`. -/
def updatePreparation (surroundings : Surroundings) (data : ApplicationPreparationUpdate)
    (now : DateTime) (seen current : Application) : Except ApplicationError Application := do
  refuseWhen (seen.revision ≠ data.expectedRevision) (staleRevision data.expectedRevision seen)
  checkResumeVersion surroundings (data.resumeVersionId.getD none)
  let snapshot := (preparedTexts surroundings data seen).1
  let changed := changedFields surroundings data seen
  refuseWhen (changed = []) (.validation "Application preparation is unchanged")
  refuseWhen (maxInteger ≤ data.expectedRevision) .overflow
  refuseWhen (current.revision ≠ data.expectedRevision)
    (.conflict "Application changed during preparation update")
  let updated := { current with
    jobSnapshot := snapshot
    jobTitle := projectedTitle snapshot
    jobCompany := projectedCompany snapshot
    jobLocation := projectedLocation snapshot
    resumeVersionId := preparedResumeVersion data seen
    revision := data.expectedRevision + 1
    latestEventAt := max seen.latestEventAt now }
  return updated.append {
    eventType := .preparation
    stage := none
    occurredAt := now
    note := none
    payload := [("changed_fields", .arr ((changed.insertionSort (· ≤ ·)).map .str))]
    createdAt := now }

/-! ### Tasks -/

/-- An identifier drawn by `uuid4`. -/
abbrev DrawnId := {id : String // canonicalUuid id = true}

/-- The payload of a task event. -/
def taskPayload (task : TaskResponse) : Dict String Json :=
  [("schema_version", .str "1.0"), ("task", task.modelDump)]

/-- The event of a task record. -/
def taskEvent (eventType : EventType) (task : TaskResponse) (now : DateTime) :
    ApplicationEvent where
  eventType := eventType
  stage := none
  occurredAt := now
  note := some task.title
  payload := taskPayload task
  createdAt := now

/-- The first record of a new task. -/
def newTask (drawn : DrawnId) (data : ApplicationTaskCreate) (now : DateTime) : TaskResponse where
  id := drawn.1
  title := data.title
  status := .pending
  priority := data.priority
  dueAt := data.dueAt
  reminderAt := data.reminderAt
  completedAt := none
  revision := 1
  createdAt := now
  updatedAt := now
  canonical := drawn.2
  positive := Nat.one_pos

/-- `create_task`. -/
def createTask (drawn : DrawnId) (data : ApplicationTaskCreate) (now : DateTime)
    (seen current : Application) : Except ApplicationError Application := do
  let task := newTask drawn data now
  let replayed ← taskSnapshots (orderedEvents seen.events)
  let tasks := replayed ++ [task]
  let advanced ← advanceRevision seen data.expectedRevision now
    (fun row => { row with nextAction := projection (nextAction (sortTasks tasks)) }) current
  return advanced.append (taskEvent .taskCreated task now)

/-- The updates of a task, before its revision and its update time are advanced. -/
def appliedUpdates (current : TaskResponse) (data : ApplicationTaskUpdate) (now : DateTime) :
    TaskResponse :=
  let dueAt := data.dueAt.getD current.dueAt
  let status := data.status.getD current.status
  { current with
    title := data.title.getD current.title
    dueAt := dueAt
    priority := data.priority.getD current.priority
    reminderAt := if dueAt = none then none else data.reminderAt.getD current.reminderAt
    status := status
    completedAt :=
      if status = .completed ∧ current.status ≠ .completed then some now
      else if status ≠ .completed ∧ current.status = .completed then none
      else current.completedAt }

/-- The rule on the reminder of an updated task. -/
def checkReminder (task : TaskResponse) : Except ApplicationError Unit :=
  match task.reminderAt, task.dueAt with
  | none, _ => .ok ()
  | some _, none => .error (.validation "due_at is required when reminder_at is set")
  | some reminder, some due =>
    if reminder > due then .error (.validation "reminder_at cannot be after due_at") else .ok ()

/-- The record after an update. -/
def updatedTask (current : TaskResponse) (data : ApplicationTaskUpdate) (now : DateTime) :
    TaskResponse :=
  { appliedUpdates current data now with
    revision := current.revision + 1
    updatedAt := now
    positive := by omega }

/-- The kind of event an update is recorded as. -/
def updateEventType (current updated : TaskResponse) : EventType :=
  if current.status = updated.status then .taskUpdated
  else
    match updated.status with
    | .completed => .taskCompleted
    | .cancelled => .taskCancelled
    | .pending => .taskReopened

/-- The task an update is about. -/
def findTask (taskId : String) (tasks : List TaskResponse) :
    Except ApplicationError TaskResponse :=
  match tasks.find? fun task => task.id = taskId with
  | none => .error (.notFound "Application task not found")
  | some task => .ok task

/-- `update_task`. The fields it compares are those the updates name; a field they do not name
is the current one. -/
def updateTask (taskId : String) (data : ApplicationTaskUpdate) (now : DateTime)
    (seen current : Application) : Except ApplicationError Application := do
  let tasks ← taskSnapshots (orderedEvents seen.events)
  let task ← findTask taskId tasks
  checkReminder (appliedUpdates task data now)
  refuseWhen (appliedUpdates task data now = task) (.validation "Application task is unchanged")
  let updated := updatedTask task data now
  let nextTasks := tasks.map fun task => if task.id = taskId then updated else task
  let advanced ← advanceRevision seen data.expectedRevision now
    (fun row => { row with nextAction := projection (nextAction (sortTasks nextTasks)) }) current
  return advanced.append (taskEvent (updateEventType task updated) updated now)

/-! ### What a writer commits -/

theorem create_ok {surroundings : Surroundings} {data : ApplicationCreate}
    {application : Application} (made : create surroundings data now = .ok application) :
    ∃ job snapshot, sourceJob surroundings data.source = .ok job ∧
      createSnapshot surroundings data.source job = .ok snapshot ∧
        application = createdApplication data job snapshot now := by
  simp only [create, bind_ok_iff, pure_ok_iff] at made
  obtain ⟨job, found, -, -, snapshot, taken, rfl⟩ := made
  exact ⟨job, snapshot, found, taken, rfl⟩

omit [Pydantic] [TextTables] in
theorem appendEvent_ok {data : ApplicationEventCreate}
    (committed : appendEvent data now seen current = .ok next) :
    seen.revision = data.expectedRevision ∧ current.revision = data.expectedRevision ∧
      ∃ stage, nextStage seen data = .ok stage ∧ next = Application.append { current with
        currentStage := stage
        revision := data.expectedRevision + 1
        latestEventAt := max seen.latestEventAt (data.event now).occurredAt } (data.event now) := by
  simp only [appendEvent, bind_ok_iff, refuseWhen_ok_iff, pure_ok_iff, advanceRevision_ok_iff,
    not_not] at committed
  obtain ⟨-, fresh, stage, moved, _, ⟨-, -, swapped, rfl⟩, rfl⟩ := committed
  exact ⟨fresh, swapped, stage, moved, rfl⟩

omit [Pydantic] in
theorem updatePreparation_ok {surroundings : Surroundings}
    {data : ApplicationPreparationUpdate}
    (committed : updatePreparation surroundings data now seen current = .ok next) :
    seen.revision = data.expectedRevision ∧ current.revision = data.expectedRevision ∧
      ∃ payload, next = Application.append { current with
        jobSnapshot := (preparedTexts surroundings data seen).1
        jobTitle := projectedTitle (preparedTexts surroundings data seen).1
        jobCompany := projectedCompany (preparedTexts surroundings data seen).1
        jobLocation := projectedLocation (preparedTexts surroundings data seen).1
        resumeVersionId := preparedResumeVersion data seen
        revision := data.expectedRevision + 1
        latestEventAt := max seen.latestEventAt now } {
          eventType := .preparation
          stage := none
          occurredAt := now
          note := none
          payload := payload
          createdAt := now } := by
  simp only [updatePreparation, bind_ok_iff, refuseWhen_ok_iff, pure_ok_iff, not_not] at committed
  obtain ⟨-, fresh, _, -, -, -, -, -, -, swapped, rfl⟩ := committed
  exact ⟨fresh, swapped, _, rfl⟩

omit [TextTables] in
theorem createTask_ok {drawn : DrawnId} {data : ApplicationTaskCreate}
    (committed : createTask drawn data now seen current = .ok next) :
    seen.revision = data.expectedRevision ∧ current.revision = data.expectedRevision ∧
      data.expectedRevision < maxInteger ∧ ∃ tasks, taskSnapshots (orderedEvents seen.events) = .ok tasks ∧
        next = Application.append { current with
          nextAction := projection (nextAction (sortTasks (tasks ++ [newTask drawn data now])))
          revision := data.expectedRevision + 1
          latestEventAt := max now seen.latestEventAt }
            (taskEvent .taskCreated (newTask drawn data now) now) := by
  simp only [createTask, bind_ok_iff, pure_ok_iff, advanceRevision_ok_iff] at committed
  obtain ⟨tasks, replayed, _, ⟨fresh, small, swapped, rfl⟩, rfl⟩ := committed
  exact ⟨fresh, swapped, small, tasks, replayed, rfl⟩

omit [Pydantic] [TextTables] in
theorem findTask_ok {taskId : String} {tasks : List TaskResponse} {task : TaskResponse}
    (found : findTask taskId tasks = .ok task) : task ∈ tasks ∧ task.id = taskId := by
  unfold findTask at found
  split at found
  · cases found
  · rename_i first isFirst
    cases found
    exact ⟨List.mem_of_find?_eq_some isFirst, by simpa using List.find?_some isFirst⟩

omit [TextTables] in
theorem updateTask_ok {taskId : String} {data : ApplicationTaskUpdate}
    (committed : updateTask taskId data now seen current = .ok next) :
    seen.revision = data.expectedRevision ∧ current.revision = data.expectedRevision ∧
      data.expectedRevision < maxInteger ∧ ∃ tasks, taskSnapshots (orderedEvents seen.events) = .ok tasks ∧
        ∃ task ∈ tasks, task.id = taskId ∧ next = Application.append { current with
          nextAction := projection (nextAction (sortTasks (tasks.map fun other =>
            if other.id = taskId then updatedTask task data now else other)))
          revision := data.expectedRevision + 1
          latestEventAt := max now seen.latestEventAt }
            (taskEvent (updateEventType task (updatedTask task data now))
              (updatedTask task data now) now) := by
  simp only [updateTask, bind_ok_iff, refuseWhen_ok_iff, pure_ok_iff, advanceRevision_ok_iff]
    at committed
  obtain ⟨tasks, replayed, task, found, -, -, -, -, _, ⟨fresh, small, swapped, rfl⟩, rfl⟩ :=
    committed
  exact ⟨fresh, swapped, small, tasks, replayed, task, (findTask_ok found).1,
    (findTask_ok found).2, rfl⟩

end

end CareerOS
