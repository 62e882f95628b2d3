/-
This file is the history of the tasks of an application as its writers grow it.
An event without a task record leaves the replay alone; the first record of a
new task adds the task; the next record of a known task replaces it. The last
one holds when the clock of the update is not behind the task's last update,
which is what the replay checks and the writer does not.
-/

import CareerOS.Applications.Pipeline

namespace CareerOS

section

variable [Pydantic] {events : List ApplicationEvent}

theorem replay_iff {tasks : List TaskResponse} :
    taskSnapshots (orderedEvents events) = .ok tasks ↔
      Readable events ∧ taskVersions.Sound (taskRecords events) ∧
        Shown (taskRecords events) tasks := by
  rw [taskSnapshots_ok_iff, readable_orderedEvents, taskRecords_orderedEvents]

variable {event : ApplicationEvent}

theorem readable_concat {record : Option TaskResponse} (readable : Readable events)
    (read : readTaskEvent event = .ok record) : Readable (events ++ [event]) := by
  intro other member
  rcases List.mem_append.mp member with inside | isLast
  · exact readable other inside
  · rw [List.mem_singleton.mp isLast]
    exact ⟨record, read⟩

theorem taskRecords_concat (events : List ApplicationEvent) (event : ApplicationEvent) :
    taskRecords (events ++ [event]) =
      {task | readTaskEvent event = .ok (some task)} ∪ taskRecords events := by
  rw [taskRecords_append, taskRecords_cons, taskRecords_nil, Set.union_empty, Set.union_comm]

variable {task : TaskResponse}

theorem taskRecords_record (read : readTaskEvent event = .ok (some task)) :
    taskRecords (events ++ [event]) = insert task (taskRecords events) := by
  have single : {other | readTaskEvent event = .ok (some other)} = {task} := by
    ext other
    simp [read, eq_comm]
  rw [taskRecords_concat, single, Set.singleton_union]

/-! ### How the replay grows -/

/-- An event the replay passes over. -/
theorem replay_same {tasks : List TaskResponse} (read : readTaskEvent event = .ok none)
    (replayed : taskSnapshots (orderedEvents events) = .ok tasks) :
    taskSnapshots (orderedEvents (events ++ [event])) = .ok tasks := by
  obtain ⟨readable, sound, shown⟩ := replay_iff.mp replayed
  have records : taskRecords (events ++ [event]) = taskRecords events := by
    rw [taskRecords_concat]
    simp [read]
  rw [replay_iff, records]
  exact ⟨readable_concat readable read, sound, shown⟩

/-- The first record of a new task adds the task. -/
theorem replay_first {tasks : List TaskResponse}
    (read : readTaskEvent event = .ok (some task)) (first : task.revision = 1)
    (fresh : ∀ record ∈ taskRecords events, record.id ≠ task.id)
    (replayed : taskSnapshots (orderedEvents events) = .ok tasks) :
    taskSnapshots (orderedEvents (events ++ [event])) = .ok (sortTasks (tasks ++ [task])) := by
  obtain ⟨readable, sound, shown⟩ := replay_iff.mp replayed
  rw [replay_iff, taskRecords_record read]
  refine ⟨readable_concat readable read, sound.insert_first fresh first, Shown.of_sort ?_ ?_⟩
  · rw [List.map_append, List.nodup_append]
    refine ⟨shown.distinct, List.nodup_singleton _, ?_⟩
    rintro id shownId _ newId rfl
    obtain ⟨other, member, rfl⟩ := List.mem_map.mp shownId
    exact fresh other ((shown.mem other).mp member).member (List.mem_singleton.mp newId)
  · intro other
    rw [Versioning.latest_insert_first fresh, List.mem_append, List.mem_singleton, shown.mem,
      or_comm]

/-- A list of tasks with one task replaced. -/
def replaceTask (updated : TaskResponse) (tasks : List TaskResponse) : List TaskResponse :=
  tasks.map fun task => if task.id = updated.id then updated else task

omit [Pydantic] in
theorem ids_replaceTask (updated : TaskResponse) (tasks : List TaskResponse) :
    (replaceTask updated tasks).map TaskResponse.id = tasks.map TaskResponse.id := by
  unfold replaceTask
  rw [List.map_map]
  refine List.map_congr_left fun task _ => ?_
  by_cases same : task.id = updated.id
  · rw [Function.comp_apply, if_pos same, same]
  · rw [Function.comp_apply, if_neg same]

/-- The next record of a known task replaces it. -/
theorem replay_next {tasks : List TaskResponse} {current task : TaskResponse}
    (read : readTaskEvent event = .ok (some task)) (member : current ∈ tasks)
    (same : current.id = task.id) (next : current.revision + 1 = task.revision)
    (follows : taskVersions.follows current task)
    (replayed : taskSnapshots (orderedEvents events) = .ok tasks) :
    taskSnapshots (orderedEvents (events ++ [event])) =
      .ok (sortTasks (replaceTask task tasks)) := by
  obtain ⟨readable, sound, shown⟩ := replay_iff.mp replayed
  have latest := (shown.mem current).mp member
  rw [replay_iff, taskRecords_record read]
  refine ⟨readable_concat readable read, sound.insert_next latest same next follows,
    Shown.of_sort ?_ ?_⟩
  · rw [ids_replaceTask]
    exact shown.distinct
  · intro other
    rw [Versioning.latest_insert_next sound latest same next, ← shown.mem]
    have only : ∀ listed ∈ tasks, listed.id = task.id → listed = current :=
      fun listed inside sameId => List.inj_on_of_nodup_map shown.distinct inside member
        (sameId.trans same.symm)
    unfold replaceTask
    rw [List.mem_map]
    constructor
    · rintro ⟨listed, inside, rfl⟩
      by_cases sameId : listed.id = task.id
      · exact Or.inl (if_pos sameId)
      · rw [if_neg sameId]
        refine Or.inr ⟨inside, ?_⟩
        rintro rfl
        exact sameId same
    · rintro (rfl | ⟨inside, different⟩)
      · exact ⟨current, member, if_pos same⟩
      · exact ⟨other, inside, if_neg fun sameId => different (only other inside sameId)⟩

/-! ### The records the writers make -/

/-- A task record that fits the kind of its event. -/
structure FitsKind (eventType : EventType) (task : TaskResponse) : Prop where
  isTask : eventType.isTask = true
  created : eventType = .taskCreated → task.revision = 1 ∧ task.status = .pending
  later : eventType ≠ .taskCreated → 1 < task.revision
  status : ∀ status, expectedStatus eventType = some status → task.status = status

variable {now : DateTime}

/-- What is written for a task is read back. -/
theorem readTaskEvent_taskEvent {eventType : EventType} (fits : FitsKind eventType task) :
    readTaskEvent (taskEvent eventType task now) = .ok (some task) := by
  obtain ⟨fields, dumped⟩ : ∃ fields, task.modelDump = .obj fields := ⟨_, rfl⟩
  have found : Dict.lookup "task" (taskEvent eventType task now).payload = some (.obj fields) :=
    congrArg some dumped
  have valid : TaskResponse.modelValidate .lax (.obj fields) = some task := by
    rw [← dumped]
    exact TaskResponse.modelValidate_modelDump .lax task
  have notFirst : ¬(eventType ≠ .taskCreated ∧ task.revision ≤ 1) :=
    fun both => absurd (fits.later both.1) (by omega)
  have isFirst : ¬(eventType = .taskCreated ∧ (task.revision ≠ 1 ∨ task.status ≠ .pending)) := by
    rintro ⟨created, different | different⟩
    · exact different (fits.created created).1
    · exact different (fits.created created).2
  have kind : (taskEvent eventType task now).eventType = eventType := rfl
  unfold readTaskEvent
  rw [kind, if_neg (by rw [fits.isTask]; decide), found]
  simp only [valid]
  rw [if_neg isFirst, if_neg notFirst]
  cases expected : expectedStatus eventType with
  | none => rfl
  | some status => exact if_neg (not_not.mpr (fits.status status expected))

omit [Pydantic] in
theorem fitsKind_newTask (drawn : DrawnId) (data : ApplicationTaskCreate) (now : DateTime) :
    FitsKind .taskCreated (newTask drawn data now) :=
  ⟨rfl, fun _ => ⟨rfl, rfl⟩, fun other => absurd rfl other, nofun⟩

omit [Pydantic] in
theorem fitsKind_updatedTask (current : TaskResponse) (data : ApplicationTaskUpdate)
    (now : DateTime) :
    FitsKind (updateEventType current (updatedTask current data now))
      (updatedTask current data now) := by
  have later : 1 < (updatedTask current data now).revision := Nat.lt_succ_of_le current.positive
  generalize updatedTask current data now = updated at later ⊢
  unfold updateEventType
  split
  · exact ⟨rfl, nofun, fun _ => later, nofun⟩
  · cases status : updated.status with
    | completed => exact ⟨rfl, nofun, fun _ => later, fun _ same => status.trans (Option.some.inj same)⟩
    | cancelled => exact ⟨rfl, nofun, fun _ => later, fun _ same => status.trans (Option.some.inj same)⟩
    | pending => exact ⟨rfl, nofun, fun _ => later, fun _ same => status.trans (Option.some.inj same)⟩

omit [Pydantic] in
theorem follows_updatedTask {current : TaskResponse} {data : ApplicationTaskUpdate}
    (inTime : current.updatedAt ≤ now) :
    taskVersions.follows current (updatedTask current data now) :=
  ⟨rfl, inTime⟩

theorem readTaskEvent_other (other : event.eventType.isTask = false) :
    readTaskEvent event = .ok none :=
  if_pos other

omit [Pydantic] in
/-- An event a client can ask for is no task event. -/
theorem EventType.isTask_of_isInput {eventType : EventType} (input : eventType.isInput = true) :
    eventType.isTask = false := by
  revert input
  cases eventType <;> decide

/-! ### The projected next action -/

/-- The tasks replay, and the columns of the row project the first pending one. -/
def NextActionProjected (application : Application) : Prop :=
  ∃ tasks, taskSnapshots (orderedEvents application.events) = .ok tasks ∧
    application.nextAction = projection (nextAction tasks)

/-- An event without a task record keeps the projection. -/
theorem NextActionProjected.same {before after : Application}
    (projected : NextActionProjected before) (appended : after.events = before.events ++ [event])
    (columns : after.nextAction = before.nextAction)
    (other : event.eventType.isTask = false) : NextActionProjected after := by
  obtain ⟨tasks, replayed, projects⟩ := projected
  refine ⟨tasks, ?_, columns.trans projects⟩
  rw [appended]
  exact replay_same (readTaskEvent_other other) replayed

theorem createTask_projected {drawn : DrawnId} {data : ApplicationTaskCreate}
    {current next : Application} {tasks : List TaskResponse}
    (fresh : ∀ record ∈ taskRecords current.events, record.id ≠ drawn.1)
    (replayed : taskSnapshots (orderedEvents current.events) = .ok tasks)
    (committed : createTask drawn data now current current = .ok next) :
    taskSnapshots (orderedEvents next.events) =
        .ok (sortTasks (tasks ++ [newTask drawn data now])) ∧
      next.nextAction = projection (nextAction (sortTasks (tasks ++ [newTask drawn data now]))) := by
  obtain ⟨-, -, -, listed, replayedAgain, rfl⟩ := createTask_ok committed
  rw [replayed] at replayedAgain
  cases replayedAgain
  exact ⟨replay_first (readTaskEvent_taskEvent (fitsKind_newTask drawn data now)) rfl fresh
    replayed, rfl⟩

theorem updateTask_projected {taskId : String} {data : ApplicationTaskUpdate}
    {current next : Application} {tasks : List TaskResponse}
    (inTime : ∀ record ∈ taskRecords current.events, record.id = taskId → record.updatedAt ≤ now)
    (replayed : taskSnapshots (orderedEvents current.events) = .ok tasks)
    (committed : updateTask taskId data now current current = .ok next) :
    ∃ task ∈ tasks, task.id = taskId ∧
      taskSnapshots (orderedEvents next.events) =
        .ok (sortTasks (replaceTask (updatedTask task data now) tasks)) ∧
      next.nextAction =
        projection (nextAction (sortTasks (replaceTask (updatedTask task data now) tasks))) := by
  obtain ⟨-, -, -, listed, replayedAgain, task, member, rfl, rfl⟩ := updateTask_ok committed
  rw [replayed] at replayedAgain
  cases replayedAgain
  have recorded := ((replay_iff.mp replayed).2.2.mem task).mp member
  exact ⟨task, member, rfl, replay_next
    (readTaskEvent_taskEvent (fitsKind_updatedTask task data now)) member rfl rfl
    (follows_updatedTask (inTime task recorded.member rfl)) replayed, rfl⟩

variable [TextTables] [NamedIds]

/-- `uuid4` draws an identifier no task of the application has. -/
def DrawsFresh (application : Application) : PipelineAction → Prop
  | .request (.createTask drawn _ _) =>
    ∀ record ∈ taskRecords application.events, record.id ≠ drawn.1
  | _ => True

/-- The clock of a task update is not behind a recorded update of the task. -/
def UpdatesInTime (application : Application) : PipelineAction → Prop
  | .request (.updateTask taskId _ now) =>
    ∀ record ∈ taskRecords application.events, record.id = taskId → record.updatedAt ≤ now
  | _ => True

theorem nextActionProjected_step {application next : Application} {action : PipelineAction}
    (projected : NextActionProjected application) (fresh : DrawsFresh application action)
    (inTime : UpdatesInTime application action)
    (committed : pipeline.step application action = .ok next) : NextActionProjected next := by
  cases action with
  | request request =>
    have attempted := mapError_ok_iff.mp committed
    cases request with
    | appendEvent data now =>
      obtain ⟨-, -, stage, -, rfl⟩ := appendEvent_ok attempted
      exact projected.same rfl rfl (EventType.isTask_of_isInput data.rules.kind)
    | updatePreparation surroundings data now =>
      obtain ⟨-, -, payload, rfl⟩ := updatePreparation_ok attempted
      exact projected.same rfl rfl rfl
    | createTask drawn data now =>
      obtain ⟨tasks, replayed, -⟩ := projected
      obtain ⟨replayedNext, columns⟩ := createTask_projected fresh replayed attempted
      exact ⟨_, replayedNext, columns⟩
    | updateTask taskId data now =>
      obtain ⟨tasks, replayed, -⟩ := projected
      obtain ⟨task, -, -, replayedNext, columns⟩ := updateTask_projected inTime replayed attempted
      exact ⟨_, replayedNext, columns⟩
    | publishDossier facts data =>
      obtain ⟨-, version, readiness, materials, -, rfl⟩ := publishDossier_ok attempted
      exact projected.same rfl rfl rfl
  | discovered discovery now =>
    rw [discovered_ok committed]
    exact projected.same rfl rfl rfl
  | restored identity archived =>
    obtain ⟨-, -, -, recomputed⟩ := restoreApplication_ok (mapError_ok_iff.mp committed)
    obtain ⟨latest, tasks, -, replayed, columns⟩ := canonicalProjection_ok_iff.mp recomputed
    exact ⟨tasks, replayed, congrArg CanonicalProjection.nextAction columns⟩

omit [TextTables] [NamedIds] in
/-- A timeline without task events replays to no tasks. -/
theorem replay_no_tasks (others : ∀ event ∈ events, event.eventType.isTask = false) :
    taskSnapshots (orderedEvents events) = .ok [] := by
  have records : taskRecords events = ∅ := by
    refine Set.eq_empty_of_forall_notMem ?_
    rintro task ⟨event, member, read⟩
    rw [readTaskEvent_other (others event member)] at read
    cases read
  rw [replay_iff, records]
  refine ⟨fun event member => ⟨none, readTaskEvent_other (others event member)⟩,
    Versioning.sound_empty, List.Pairwise.nil, List.nodup_nil, fun task => ?_⟩
  exact ⟨nofun, fun latest => latest.member.elim⟩

/-- The task of a plan is replayed. -/
theorem replay_planned {app : ParsedApplication} {fingerprint : String} {importedAt : DateTime}
    {identityScope : String} {task : Option TaskResponse}
    (built : buildTask app fingerprint importedAt identityScope = task)
    (timeline : List DateTime) :
    taskSnapshots (orderedEvents (plannedEvents app importedAt task timeline)) =
      .ok task.toList := by
  have stages : taskSnapshots (orderedEvents (((resolveStagePath app).zip timeline).map
      (plannedStageEvent app importedAt))) = .ok [] := by
    refine replay_no_tasks fun event member => ?_
    obtain ⟨pair, -, rfl⟩ := List.mem_map.mp member
    rfl
  cases task with
  | none =>
    show taskSnapshots (orderedEvents (_ ++ [])) = _
    rw [List.append_nil]
    exact stages
  | some task =>
    obtain ⟨first, pending, -⟩ := buildTask_some built
    have fits : FitsKind .taskCreated task :=
      ⟨rfl, fun _ => ⟨first, pending⟩, fun other => absurd rfl other, nofun⟩
    have noRecords : ∀ record ∈ taskRecords (((resolveStagePath app).zip timeline).map
        (plannedStageEvent app importedAt)), record.id ≠ task.id := by
      rintro record ⟨event, member, read⟩
      obtain ⟨pair, -, rfl⟩ := List.mem_map.mp member
      rw [readTaskEvent_other rfl] at read
      cases read
    exact replay_first (readTaskEvent_taskEvent fits) first noRecords stages

omit [Pydantic] [TextTables] [NamedIds] in
/-- The columns of a plan project its task. -/
theorem plannedApplication_nextAction (snapshot : Dict String Json) {task : Option TaskResponse}
    (fits : ∀ planned ∈ task, planned.status = .pending ∧ planned.title.length ≤ 500)
    (events : List ApplicationEvent) (stage : Stage) (last : ApplicationEvent) :
    (plannedApplication snapshot task events stage last).nextAction =
      projection (nextAction task.toList) := by
  cases task with
  | none => rfl
  | some task =>
    obtain ⟨pending, short⟩ := fits task rfl
    have found : nextAction [task] = some task := List.find?_cons_of_pos (decide_eq_true pending)
    rw [Option.toList_some, found]
    show NextActionColumns.mk _ (some (Text.slice task.title 500)) _ _ = _
    rw [Text.slice_of_length_le short]
    rfl

/-- The tasks of a new application: none, or the one it was imported with. -/
theorem Opened.tasks {application : Application} (opened : Opened application) :
    ∃ tasks, taskSnapshots (orderedEvents application.events) = .ok tasks ∧
      application.nextAction = projection (nextAction tasks) ∧
        ∀ task ∈ tasks, task.revision = 1 ∧ task.title.length ≤ 500 := by
  cases opened with
  | created made =>
    obtain ⟨job, snapshot, -, -, rfl⟩ := create_ok made
    exact ⟨[], replay_no_tasks fun event member => by rw [List.mem_singleton.mp member]; rfl, rfl,
      fun _ impossible => absurd impossible List.not_mem_nil⟩
  | discovered discovery now =>
    exact ⟨[], replay_no_tasks fun event member => by rw [List.mem_singleton.mp member]; rfl, rfl,
      fun _ impossible => absurd impossible List.not_mem_nil⟩
  | imported planned =>
    obtain ⟨task, timeline, last, stage, built, -, -, -, rfl⟩ := planApplication_ok planned
    have fits : ∀ planned ∈ task, planned.revision = 1 ∧ planned.status = .pending ∧
        planned.title.length ≤ 500 :=
      fun planned member => buildTask_some (built.symm.trans member)
    refine ⟨task.toList, replay_planned built.symm timeline, ?_, fun listed member => ?_⟩
    · exact plannedApplication_nextAction _ (fun planned member => (fits planned member).2) _ _ _
    · obtain ⟨first, -, short⟩ := fits listed (Option.mem_toList.mp member)
      exact ⟨first, short⟩

/-- A run whose identifiers are drawn fresh and whose task updates are in time. -/
abbrev KeepsTasks (application : Application) (action : PipelineAction) : Prop :=
  DrawsFresh application action ∧ UpdatesInTime application action

theorem nextActionProjected_run {application : Application}
    (reached : pipeline.ReachableWhen KeepsTasks application) :
    NextActionProjected application := by
  refine reached.invariant NextActionProjected ?_ ?_
  · intro first opened
    obtain ⟨tasks, replayed, columns, -⟩ := opened.tasks
    exact ⟨tasks, replayed, columns⟩
  · intro before action after projected met committed
    exact nextActionProjected_step projected met.1 met.2 committed

/-- In every run whose identifiers are drawn fresh and whose task updates are in time, the tasks
replay and the columns of the row project the first pending one. -/
theorem nextAction_projected {application : Application}
    (reached : pipeline.ReachableWhen KeepsTasks application) :
    ∃ tasks, taskSnapshots (orderedEvents application.events) = .ok tasks ∧
      tasks.Pairwise taskLe ∧
        application.nextAction.title =
          (tasks.find? fun task => task.status = .pending).map TaskResponse.title ∧
        application.nextAction.dueAt =
          (tasks.find? fun task => task.status = .pending).bind TaskResponse.dueAt ∧
        application.nextAction = projection (nextAction tasks) := by
  obtain ⟨tasks, replayed, columns⟩ := nextActionProjected_run reached
  exact ⟨tasks, replayed, (replay_iff.mp replayed).2.2.sorted, by rw [columns]; rfl,
    by rw [columns]; rfl, columns⟩

end

/-! ### A clock that was set back -/

section

attribute [local instance] Pydantic.canonical TextTables.plain NamedIds.single

/-- One hour before the application is saved. -/
def beforeSaved : DateTime := ⟨2026, 1, 5, 8, 0, 0, 0, by decide⟩

/-- The identifier of a task. -/
def callId : DrawnId := ⟨"2c5ea4c0-4067-41fe-8dca-8f0a4e9b3c11", by decide⟩

def callRequest : ApplicationTaskCreate :=
  ⟨1, "Call", none, .normal, none, ⟨by decide, by decide, by decide⟩⟩

theorem stripped_none (text : String) (impossible : none = some text) : Stripped 500 text := by
  cases impossible

def callDone : ApplicationTaskUpdate :=
  ⟨2, none, none, none, none, some .completed, stripped_none⟩

theorem no_records_savedApplication :
    ∀ record ∈ taskRecords (savedApplication savedAt).events, record.id ≠ callId.1 := by
  rintro record ⟨event, member, read⟩
  rw [List.mem_singleton.mp member] at read
  cases read

/-- The task is created, completed an hour earlier, and never read again. -/
theorem exists_lateUpdate : ∃ created late,
    createTask callId callRequest savedAt (savedApplication savedAt) (savedApplication savedAt) =
        .ok created ∧
      updateTask callId.1 callDone beforeSaved created created = .ok late ∧
        taskSnapshots (orderedEvents late.events) =
          .error (.validation "Task revision history regressed") := by
  have ran : ∃ late, (do
      let created ← createTask callId callRequest savedAt (savedApplication savedAt)
        (savedApplication savedAt)
      updateTask callId.1 callDone beforeSaved created created) = .ok late :=
    ok_of_isOk (by decide +kernel)
  have replayed : (do
      let created ← createTask callId callRequest savedAt (savedApplication savedAt)
        (savedApplication savedAt)
      let late ← updateTask callId.1 callDone beforeSaved created created
      taskSnapshots (orderedEvents late.events)) =
        .error (.validation "Task revision history regressed") := by
    decide +kernel
  obtain ⟨late, ran⟩ := ran
  obtain ⟨created, made, updated⟩ := bind_ok_iff.mp ran
  rw [made] at replayed
  refine ⟨created, late, made, updated, ?_⟩
  change (updateTask callId.1 callDone beforeSaved created created >>= fun late =>
    taskSnapshots (orderedEvents late.events)) = _ at replayed
  rw [updated] at replayed
  exact replayed

/-- The call is created, and it is the next action. -/
theorem nextAction_projected_created : ∃ created,
    createTask callId callRequest savedAt (savedApplication savedAt) (savedApplication savedAt) =
        .ok created ∧
      ∃ tasks, taskSnapshots (orderedEvents created.events) = .ok tasks ∧
        tasks.Pairwise taskLe ∧
          created.nextAction.title =
            (tasks.find? fun task => task.status = .pending).map TaskResponse.title ∧
          created.nextAction.dueAt =
            (tasks.find? fun task => task.status = .pending).bind TaskResponse.dueAt ∧
          created.nextAction = projection (nextAction tasks) := by
  obtain ⟨created, late, made, -, -⟩ := exists_lateUpdate
  have keeps : KeepsTasks (savedApplication savedAt)
      (.request (.createTask callId callRequest savedAt)) :=
    ⟨no_records_savedApplication, trivial⟩
  exact ⟨created, made, nextAction_projected (.step (.initial (opened_savedApplication savedAt))
    keeps (step_request _ made))⟩

/-- Completed by a clock that was set back, the call leaves a timeline without a next action. -/
theorem nextAction_not_projected :
    ¬∀ application, pipeline.Reachable application → NextActionProjected application := by
  intro claimed
  obtain ⟨created, late, made, updated, regressed⟩ := exists_lateUpdate
  obtain ⟨tasks, replayed, -⟩ := claimed late (.step (.step
    (.initial (opened_savedApplication savedAt)) trivial
    (step_request (.createTask callId callRequest savedAt) made)) trivial
    (step_request (.updateTask callId.1 callDone beforeSaved) updated))
  rw [regressed] at replayed
  cases replayed

end

end CareerOS
