/-
This file is what the timeline of tasks is for: a board that shows, for every
task of an application, the field values accepted last. The board is kept here
without a timeline, and the timeline's replay is shown to be that board after
any sequence of accepted task requests, with every read and the backup of the
application intact.

Two things a request may do are outside of it, and both are accepted by the
writer. An update whose clock is behind the last update of its task is committed
and then refused by every replay. A title that starts with U+0000 is empty for
the database, and the agenda takes the row for an invalid one.
-/

import CareerOS.Applications.Reads
import CareerOS.Applications.TaskHistory
import CareerOS.Portability.TaskEvents

namespace CareerOS

/-! ### The board -/

/-- What an owner sets on a task. -/
structure TaskFields where
  title : String
  status : TaskStatus
  priority : TaskPriority
  dueAt : Option DateTime
  reminderAt : Option DateTime

def TaskResponse.fields (task : TaskResponse) : TaskFields where
  title := task.title
  status := task.status
  priority := task.priority
  dueAt := task.dueAt
  reminderAt := task.reminderAt

/-- The fields of a new task. -/
def TaskFields.new (data : ApplicationTaskCreate) : TaskFields where
  title := data.title
  status := .pending
  priority := data.priority
  dueAt := data.dueAt
  reminderAt := data.reminderAt

/-- A field takes the value a request names, and a task without a due time has no reminder. -/
def TaskFields.edit (fields : TaskFields) (data : ApplicationTaskUpdate) : TaskFields where
  title := data.title.getD fields.title
  status := data.status.getD fields.status
  priority := data.priority.getD fields.priority
  dueAt := data.dueAt.getD fields.dueAt
  reminderAt :=
    if data.dueAt.getD fields.dueAt = none then none else data.reminderAt.getD fields.reminderAt

/-- The tasks of an application by their identifiers. -/
abbrev TaskBoard := String → Option TaskFields

/-- The two requests that write tasks. -/
inductive TaskRequest
  | create (drawn : DrawnId) (data : ApplicationTaskCreate) (now : DateTime)
  | update (taskId : String) (data : ApplicationTaskUpdate) (now : DateTime)

/-- What a request does to the board. -/
def TaskRequest.onBoard (board : TaskBoard) : TaskRequest → TaskBoard
  | .create drawn data _ => Function.update board drawn.1 (some (.new data))
  | .update taskId data _ =>
    Function.update board taskId ((board taskId).map fun fields => fields.edit data)

/-- A list of tasks shows a board. -/
def Displays (board : TaskBoard) (tasks : List TaskResponse) : Prop :=
  ∀ id fields, board id = some fields ↔ ∃ task ∈ tasks, task.id = id ∧ task.fields = fields

variable {tasks : List TaskResponse} {board : TaskBoard}

theorem Displays.create (displays : Displays board tasks) {task : TaskResponse}
    (fresh : ∀ other ∈ tasks, other.id ≠ task.id) :
    Displays (Function.update board task.id (some task.fields)) (sortTasks (tasks ++ [task])) := by
  intro id fields
  simp only [(sortTasks_perm _).mem_iff, List.mem_append, List.mem_singleton]
  by_cases same : id = task.id
  · subst same
    rw [Function.update_self, Option.some.injEq]
    constructor
    · rintro rfl
      exact ⟨task, Or.inr rfl, rfl, rfl⟩
    · rintro ⟨other, earlier | rfl, sameId, rfl⟩
      · exact absurd sameId (fresh other earlier)
      · rfl
  · rw [Function.update_of_ne same, displays]
    constructor
    · rintro ⟨other, member, found⟩
      exact ⟨other, Or.inl member, found⟩
    · rintro ⟨other, earlier | rfl, sameId, found⟩
      · exact ⟨other, earlier, sameId, found⟩
      · exact absurd sameId.symm same

variable {data : ApplicationTaskUpdate}

theorem Displays.update
    (displays : Displays board tasks) (distinct : (tasks.map TaskResponse.id).Nodup)
    {current updated : TaskResponse} (member : current ∈ tasks) (same : updated.id = current.id)
    (edited : updated.fields = current.fields.edit data) :
    Displays (Function.update board current.id ((board current.id).map fun fields =>
      fields.edit data)) (sortTasks (replaceTask updated tasks)) := by
  intro id fields
  have only : ∀ other ∈ tasks, other.id = current.id → other = current :=
    fun other inside sameId => List.inj_on_of_nodup_map distinct inside member sameId
  have shown : board current.id = some current.fields :=
    (displays _ _).mpr ⟨current, member, rfl, rfl⟩
  simp only [(sortTasks_perm _).mem_iff, replaceTask, List.mem_map]
  by_cases sameId : id = current.id
  · subst sameId
    rw [Function.update_self, shown, Option.map_some, Option.some.injEq, ← edited]
    constructor
    · rintro rfl
      exact ⟨updated, ⟨current, member, if_pos same.symm⟩, same, rfl⟩
    · rintro ⟨other, ⟨listed, inside, rfl⟩, otherId, rfl⟩
      by_cases replaced : listed.id = updated.id
      · rw [if_pos replaced]
      · rw [if_neg replaced] at otherId
        exact absurd (otherId.trans same.symm) replaced
  · rw [Function.update_of_ne sameId, displays]
    constructor
    · rintro ⟨other, inside, rfl, found⟩
      have kept : other.id ≠ updated.id := fun equal => sameId (equal.trans same)
      exact ⟨other, ⟨other, inside, if_neg kept⟩, rfl, found⟩
    · rintro ⟨other, ⟨listed, inside, rfl⟩, otherId, found⟩
      by_cases replaced : listed.id = updated.id
      · rw [if_pos replaced] at otherId
        exact absurd (otherId.symm.trans same) sameId
      · rw [if_neg replaced] at otherId found
        exact ⟨listed, inside, otherId, found⟩

/-! ### What the tasks of a row are held to -/

section

variable [Pydantic]

/-- An application whose tasks replay and are projected, with the sizes its reads rely on. -/
structure Settled (application : Application) (tasks : List TaskResponse) : Prop where
  replayed : taskSnapshots (orderedEvents application.events) = .ok tasks
  columns : application.nextAction = projection (nextAction tasks)
  short : ∀ task ∈ tasks, task.title.length ≤ 500
  counted : ∀ task ∈ tasks, task.revision ≤ application.revision
  revision : 1 ≤ application.revision
  title : Bounded 240 application.jobTitle
  company : Bounded 240 application.jobCompany

/-- An event without a task record keeps the tasks of the row. -/
theorem Settled.same {before after : Application}
    {event : ApplicationEvent} (settled : Settled before tasks)
    (appended : after.events = before.events ++ [event])
    (other : event.eventType.isTask = false) (columns : after.nextAction = before.nextAction)
    (counted : after.revision = before.revision + 1) (title : Bounded 240 after.jobTitle)
    (company : Bounded 240 after.jobCompany) : Settled after tasks := by
  refine ⟨?_, columns.trans settled.columns, settled.short, fun task member => ?_, ?_, title,
    company⟩
  · rw [appended]
    exact replay_same (readTaskEvent_other other) settled.replayed
  · have := settled.counted task member
    omega
  · omega

variable {application next : Application} {now : DateTime}

theorem Settled.create
    (settled : Settled application tasks) {drawn : DrawnId} {data : ApplicationTaskCreate}
    (fresh : ∀ record ∈ taskRecords application.events, record.id ≠ drawn.1)
    (committed : createTask drawn data now application application = .ok next) :
    Settled next (sortTasks (tasks ++ [newTask drawn data now])) := by
  obtain ⟨replays, columns⟩ := createTask_projected fresh settled.replayed committed
  obtain ⟨expected, -, -, listed, again, rfl⟩ := createTask_ok committed
  refine ⟨replays, columns, fun task member => ?_, fun task member => ?_, Nat.le_add_left 1 _,
    settled.title, settled.company⟩
  · rcases List.mem_append.mp ((sortTasks_perm _).mem_iff.mp member) with earlier | isNew
    · exact settled.short task earlier
    · rw [List.mem_singleton.mp isNew]
      exact data.titleFits.short
  · show task.revision ≤ data.expectedRevision + 1
    rcases List.mem_append.mp ((sortTasks_perm _).mem_iff.mp member) with earlier | isNew
    · have := settled.counted task earlier
      omega
    · rw [List.mem_singleton.mp isNew]
      exact Nat.le_add_left 1 _

/-- The task an accepted update is about, and the row it leaves. -/
theorem Settled.update
    (settled : Settled application tasks) {taskId : String}
    (inTime : ∀ record ∈ taskRecords application.events, record.id = taskId →
      record.updatedAt ≤ now)
    (committed : updateTask taskId data now application application = .ok next) :
    ∃ task ∈ tasks, task.id = taskId ∧
      next.events = application.events ++
        [taskEvent (updateEventType task (updatedTask task data now))
          (updatedTask task data now) now] ∧
      next.jobSnapshot = application.jobSnapshot ∧
      next.revision ≤ maxInteger ∧
      Settled next (sortTasks (replaceTask (updatedTask task data now) tasks)) := by
  obtain ⟨task, member, rfl, replays, columns⟩ :=
    updateTask_projected inTime settled.replayed committed
  obtain ⟨expected, -, small, listed, again, found, foundMember, foundId, rfl⟩ :=
    updateTask_ok committed
  have distinct := (replay_iff.mp settled.replayed).2.2.distinct
  rw [settled.replayed] at again
  cases again
  have same : found = task := List.inj_on_of_nodup_map distinct foundMember member foundId
  subst same
  have short : (updatedTask found data now).title.length ≤ 500 := by
    show (data.title.getD found.title).length ≤ 500
    cases named : data.title with
    | none => exact settled.short found member
    | some title => exact (data.titleFits title named).short
  have counted : (updatedTask found data now).revision ≤ data.expectedRevision + 1 := by
    have := settled.counted found member
    show found.revision + 1 ≤ _
    omega
  refine ⟨found, member, rfl, rfl, rfl, small, replays, columns, fun task inside => ?_,
    fun task inside => ?_, Nat.le_add_left 1 _, settled.title, settled.company⟩
  · obtain ⟨earlier, inTasks, rfl⟩ := List.mem_map.mp ((sortTasks_perm _).mem_iff.mp inside)
    split
    · exact short
    · exact settled.short earlier inTasks
  · obtain ⟨earlier, inTasks, rfl⟩ := List.mem_map.mp ((sortTasks_perm _).mem_iff.mp inside)
    show _ ≤ data.expectedRevision + 1
    split
    · exact counted
    · have := settled.counted earlier inTasks
      omega

variable [TextTables] [NamedIds] {application : Application}

theorem Opened.bounded (opened : Opened application) :
    Bounded 240 application.jobTitle ∧ Bounded 240 application.jobCompany := by
  cases opened with
  | created made =>
    obtain ⟨job, snapshot, -, -, rfl⟩ := create_ok made
    exact ⟨bounded_snapshotText (by decide) _, bounded_snapshotText (by decide) _⟩
  | discovered discovery now =>
    have title := discovery.vacancy.titleFits
    have company := discovery.vacancy.companyFits
    constructor
    · refine bounded_slice (fun empty => ?_) (by decide)
      rw [empty] at title
      exact absurd title.1 (by decide)
    · refine bounded_slice (fun empty => ?_) (by decide)
      rw [empty] at company
      exact absurd company.1 (by decide)
  | imported planned =>
    obtain ⟨task, timeline, last, stage, -, -, -, -, rfl⟩ := planApplication_ok planned
    exact ⟨bounded_snapshotText (by decide) _, bounded_snapshotText (by decide) _⟩

theorem Opened.settled (opened : Opened application) :
    ∃ tasks, Settled application tasks := by
  obtain ⟨tasks, replayed, columns, fits⟩ := opened.tasks
  have revision : 1 ≤ application.revision := opened.consistent.revision_pos
  refine ⟨tasks, replayed, columns, fun task member => (fits task member).2, fun task member => ?_,
    revision, opened.bounded.1, opened.bounded.2⟩
  rw [(fits task member).1]
  exact revision

theorem settled_step {action : PipelineAction}
    (settled : Settled application tasks) (keeps : KeepsTasks application action)
    (committed : pipeline.step application action = .ok next) : ∃ tasks, Settled next tasks := by
  obtain ⟨fresh, inTime⟩ := keeps
  cases action with
  | request request =>
    have attempted := mapError_ok_iff.mp committed
    cases request with
    | appendEvent data now =>
      obtain ⟨expected, -, stage, -, rfl⟩ := appendEvent_ok attempted
      exact ⟨tasks, settled.same rfl (EventType.isTask_of_isInput data.rules.kind) rfl
        (congrArg (· + 1) expected.symm) settled.title settled.company⟩
    | updatePreparation surroundings data now =>
      obtain ⟨expected, -, payload, rfl⟩ := updatePreparation_ok attempted
      exact ⟨tasks, settled.same rfl rfl rfl (congrArg (· + 1) expected.symm)
        (bounded_snapshotText (by decide) _) (bounded_snapshotText (by decide) _)⟩
    | createTask drawn data now => exact ⟨_, settled.create fresh attempted⟩
    | updateTask taskId data now =>
      obtain ⟨task, -, -, -, -, -, updated⟩ := settled.update inTime attempted
      exact ⟨_, updated⟩
    | publishDossier facts data =>
      obtain ⟨expected, version, readiness, materials, -, rfl⟩ := publishDossier_ok attempted
      exact ⟨tasks, settled.same rfl rfl rfl (congrArg (· + 1) expected.symm) settled.title
        settled.company⟩
  | discovered discovery now =>
    rw [discovered_ok committed]
    exact ⟨tasks, settled.same rfl rfl rfl rfl settled.title settled.company⟩
  | restored identity archived =>
    obtain ⟨revision, -, events, recomputed⟩ := restoreApplication_ok (mapError_ok_iff.mp committed)
    obtain ⟨latest, restored, -, replayed, columns⟩ := canonicalProjection_ok_iff.mp recomputed
    have unchanged : restored = tasks := by
      rw [events, settled.replayed] at replayed
      cases replayed
      rfl
    subst unchanged
    refine ⟨restored, replayed, congrArg CanonicalProjection.nextAction columns, settled.short,
      by rw [revision]; exact settled.counted, by rw [revision]; exact settled.revision, ?_, ?_⟩
    · rw [show next.jobTitle = _ from congrArg CanonicalProjection.jobTitle columns]
      exact bounded_snapshotText (by decide) _
    · rw [show next.jobCompany = _ from congrArg CanonicalProjection.jobCompany columns]
      exact bounded_snapshotText (by decide) _

theorem settled_run (reached : pipeline.ReachableWhen KeepsTasks application) :
    ∃ tasks, Settled application tasks :=
  reached.invariant (fun application => ∃ tasks, Settled application tasks)
    (fun _ opened => opened.settled)
    fun _ _ _ ⟨_, settled⟩ keeps committed => settled_step settled keeps committed

/-! ### Runs of task requests -/

/-- A task request on an application. -/
def TaskRequest.write (application : Application) :
    TaskRequest → Except ApplicationError Application
  | .create drawn data now => createTask drawn data now application application
  | .update taskId data now => updateTask taskId data now application application

/-- Task requests on an application, with the board they make. A run starts at any application
the pipeline reaches in time that a backup accepts beside the given job row. -/
def taskBoards (job : Option Job) :
    Machine (Application × TaskBoard) TaskRequest ApplicationError where
  initial := fun state => pipeline.ReachableWhen KeepsTasks state.1 ∧ BackedUp job state.1 ∧
    ∀ tasks, taskSnapshots (orderedEvents state.1.events) = .ok tasks →
      Displays state.2 tasks ∧ ∀ task ∈ tasks, sqliteLength task.title ≠ 0
  step := fun state request =>
    (request.write state.1).map fun next => (next, request.onBoard state.2)

theorem step_taskRequest (job : Option Job) (request : TaskRequest)
    (board : TaskBoard) (written : request.write application = .ok next) :
    (taskBoards job).step (application, board) request = .ok (next, request.onBoard board) :=
  map_ok_iff.mpr ⟨next, written, rfl⟩

/-- A request the timeline and the database can carry: a new identifier is new, the clock of an
update is not behind a recorded update of its task, and no title starts with U+0000. -/
def Carried (state : Application × TaskBoard) : TaskRequest → Prop
  | .create drawn data _ =>
    (∀ record ∈ taskRecords state.1.events, record.id ≠ drawn.1) ∧ sqliteLength data.title ≠ 0
  | .update taskId data now =>
    (∀ record ∈ taskRecords state.1.events, record.id = taskId → record.updatedAt ≤ now) ∧
      ∀ title, data.title = some title → sqliteLength title ≠ 0

/-- What a run of carried requests keeps. -/
structure Kept (job : Option Job) (application : Application) (board : TaskBoard)
    (tasks : List TaskResponse) : Prop extends Settled application tasks where
  displays : Displays board tasks
  visible : ∀ task ∈ tasks, sqliteLength task.title ≠ 0
  backed : BackedUp job application

variable {job : Option Job}

section

omit [NamedIds]

/-- The backup reads the record of a task. -/
theorem backedUp_taskEvent {before after : Application}
    (backed : BackedUp job before) {eventType : EventType} {task : TaskResponse}
    (appended : after.events = before.events ++ [taskEvent eventType task now])
    (snapshot : after.jobSnapshot = before.jobSnapshot) (isTask : eventType.isTask = true)
    (short : task.title.length ≤ 500) (small : task.revision ≤ maxInteger) :
    BackedUp job after := by
  obtain ⟨valid, events⟩ := (backedUp_iff job before).mp backed
  refine (backedUp_iff job after).mpr ⟨?_, fun event member => ?_⟩
  · unfold exportApplication at valid ⊢
    rw [snapshot]
    exact valid
  rw [appended] at member
  rcases List.mem_append.mp member with earlier | isLast
  · exact events event earlier
  · rw [List.mem_singleton.mp isLast]
    exact validateEvent_taskEvent isTask short small

theorem Kept.create (kept : Kept job application board tasks) {drawn : DrawnId}
    {data : ApplicationTaskCreate} (carried : Carried (application, board) (.create drawn data now))
    (committed : createTask drawn data now application application = .ok next) :
    Kept job next (TaskRequest.onBoard board (.create drawn data now))
      (sortTasks (tasks ++ [newTask drawn data now])) := by
  obtain ⟨fresh, visible⟩ := carried
  have settled := kept.toSettled.create fresh committed
  obtain ⟨-, -, -, listed, again, rfl⟩ := createTask_ok committed
  have unlisted : ∀ other ∈ tasks, other.id ≠ (newTask drawn data now).id := fun other member =>
    fresh other ((replay_iff.mp kept.replayed).2.2.mem other |>.mp member).member
  refine ⟨settled, kept.displays.create unlisted, fun task member => ?_, ?_⟩
  · rcases List.mem_append.mp ((sortTasks_perm _).mem_iff.mp member) with earlier | isNew
    · exact kept.visible task earlier
    · rw [List.mem_singleton.mp isNew]
      exact visible
  · exact backedUp_taskEvent kept.backed rfl rfl rfl data.titleFits.short
      (by decide : 1 ≤ maxInteger)

theorem Kept.update (kept : Kept job application board tasks) {taskId : String}
    (carried : Carried (application, board) (.update taskId data now))
    (committed : updateTask taskId data now application application = .ok next) :
    ∃ tasks, Kept job next (TaskRequest.onBoard board (.update taskId data now)) tasks := by
  obtain ⟨inTime, named⟩ := carried
  obtain ⟨task, member, rfl, appended, snapshot, small, settled⟩ :=
    kept.toSettled.update inTime committed
  have distinct := (replay_iff.mp kept.replayed).2.2.distinct
  have updated : updatedTask task data now ∈
      sortTasks (replaceTask (updatedTask task data now) tasks) :=
    (sortTasks_perm _).mem_iff.mpr (List.mem_map.mpr ⟨task, member, if_pos rfl⟩)
  have edited : (updatedTask task data now).fields = task.fields.edit data := rfl
  have sameId : (updatedTask task data now).id = task.id := rfl
  have visible : sqliteLength (updatedTask task data now).title ≠ 0 := by
    show sqliteLength (data.title.getD task.title) ≠ 0
    cases given : data.title with
    | none => exact kept.visible task member
    | some title => exact named title given
  refine ⟨_, settled, kept.displays.update distinct member sameId edited, fun other inside => ?_, ?_⟩
  · obtain ⟨earlier, inTasks, rfl⟩ := List.mem_map.mp ((sortTasks_perm _).mem_iff.mp inside)
    split
    · exact visible
    · exact kept.visible earlier inTasks
  · exact backedUp_taskEvent kept.backed appended snapshot
      (fitsKind_updatedTask task data now).isTask (settled.short _ updated)
      ((settled.counted _ updated).trans small)

theorem Kept.step {state next : Application × TaskBoard}
    (kept : Kept job state.1 state.2 tasks) {request : TaskRequest}
    (carried : Carried state request)
    (committed : (request.write state.1).map (fun next => (next, request.onBoard state.2)) =
      .ok next) : ∃ tasks, Kept job next.1 next.2 tasks := by
  obtain ⟨written, wrote, rfl⟩ := map_ok_iff.mp committed
  cases request with
  | create drawn data now => exact ⟨_, kept.create carried wrote⟩
  | update taskId data now => exact kept.update carried wrote

end

theorem Kept.opened (starts : (taskBoards job).initial (application, board)) :
    ∃ tasks, Kept job application board tasks := by
  obtain ⟨reached, backed, shows⟩ := starts
  obtain ⟨tasks, settled⟩ := settled_run reached
  obtain ⟨displays, visible⟩ := shows tasks settled.replayed
  exact ⟨tasks, settled, displays, visible, backed⟩

/-- After any accepted task requests that are carried, the timeline replays to the board of the
accepted field values, and the application is read, listed and backed up; nor does it take the
agenda away from the other applications of the owner. -/
theorem tasks_replayed {job : Option Job} {application : Application} {board : TaskBoard}
    (reached : (taskBoards job).ReachableWhen Carried (application, board)) :
    (∃ tasks, taskSnapshots (orderedEvents application.events) = .ok tasks ∧
        Displays board tasks) ∧
      (∀ surroundings, ∃ view, response surroundings application = .ok view) ∧
      (∃ entry, summary application = .ok entry) ∧
      (∀ window limit before after,
        (∃ agenda, buildAgenda window limit (before ++ after) = .ok agenda) →
          ∃ agenda, buildAgenda window limit (before ++ application :: after) = .ok agenda) ∧
      BackedUp job application := by
  obtain ⟨tasks, kept⟩ : ∃ tasks, Kept job application board tasks :=
    reached.invariant (fun state => ∃ tasks, Kept job state.1 state.2 tasks)
      (fun _ starts => Kept.opened starts)
      fun _ _ _ ⟨_, kept⟩ carried committed => kept.step carried committed
  have shown : ∀ task ∈ nextAction tasks, ShownTitle task.title := fun task isNext =>
    ⟨kept.short task (List.mem_of_find?_eq_some isNext),
      kept.visible task (List.mem_of_find?_eq_some isNext)⟩
  have ready := agendaReady kept.columns shown kept.revision kept.title kept.company
  exact ⟨⟨tasks, kept.replayed, kept.displays⟩,
    fun surroundings => (response_ok_iff surroundings application).mpr ⟨tasks, kept.replayed⟩,
    summary_ok kept.columns shown,
    fun window limit before after built => buildAgenda_insert ready window limit before after built,
    kept.backed⟩

end

/-! ### A call, done too early -/

section

attribute [local instance] Pydantic.canonical TextTables.plain NamedIds.single

theorem initial_savedApplication :
    (taskBoards none).initial (savedApplication savedAt, fun _ => none) := by
  have empty : taskSnapshots (orderedEvents (savedApplication savedAt).events) = .ok [] := rfl
  refine ⟨.initial (opened_savedApplication savedAt), rfl, fun tasks replayed => ?_⟩
  rw [empty] at replayed
  cases replayed
  refine ⟨fun id fields => ⟨nofun, ?_⟩, fun _ impossible => absurd impossible List.not_mem_nil⟩
  rintro ⟨task, impossible, -⟩
  exact absurd impossible List.not_mem_nil

/-- The call is created, and the timeline shows it. -/
theorem tasks_replayed_created : ∃ created,
    createTask callId callRequest savedAt (savedApplication savedAt) (savedApplication savedAt) =
        .ok created ∧
      ∃ tasks, taskSnapshots (orderedEvents created.events) = .ok tasks ∧
        Displays (TaskRequest.onBoard (fun _ => none) (.create callId callRequest savedAt))
          tasks := by
  obtain ⟨created, late, made, -, -⟩ := exists_lateUpdate
  have carried : Carried (savedApplication savedAt, fun _ => none)
      (.create callId callRequest savedAt) :=
    ⟨no_records_savedApplication, by decide⟩
  exact ⟨created, made, (tasks_replayed (.step (.initial initial_savedApplication) carried
    (step_taskRequest none _ _ made))).1⟩

/-- Completed by a clock that was set back, the call takes the application away. -/
theorem tasks_not_replayed :
    ¬∀ application board, (taskBoards none).Reachable (application, board) →
      ∃ tasks, taskSnapshots (orderedEvents application.events) = .ok tasks := by
  intro claimed
  obtain ⟨created, late, made, updated, regressed⟩ := exists_lateUpdate
  obtain ⟨tasks, replayed⟩ := claimed late _ (.step (.step (.initial initial_savedApplication)
    trivial (step_taskRequest none (.create callId callRequest savedAt) _ made)) trivial
    (step_taskRequest none (.update callId.1 callDone beforeSaved) _ updated))
  rw [regressed] at replayed
  cases replayed

end

end CareerOS
