/-
This file is the reads of the applications: the full response, which replays the
timeline, and the board and the agenda, which read the projected columns alone.
The agenda is built for all applications of the owner at once, so one row with
an invalid projection takes the agenda away from all of them.
-/

import CareerOS.Applications.Service

namespace CareerOS

/-! ### The response -/

/-- `ApplicationResponse`. -/
structure ApplicationResponse where
  jobId : Option Nat
  resumeVersionId : Option String
  revision : Nat
  currentStage : Stage
  jobSnapshot : Dict String Json
  events : List ApplicationEvent
  tasks : List TaskResponse

/-- `_response`, which `get` and every writer return. -/
def response [Pydantic] (surroundings : Surroundings) (application : Application) :
    Except ApplicationError ApplicationResponse := do
  let tasks ← taskSnapshots (orderedEvents application.events)
  return {
    jobId := application.jobId
    resumeVersionId := application.resumeVersionId
    revision := application.revision
    currentStage := application.currentStage
    jobSnapshot := safeSnapshot surroundings application
    events := orderedEvents application.events
    tasks := tasks }

/-! ### The board -/

/-- A text of bounded length that is not empty. -/
structure Bounded (limit : Nat) (text : String) : Prop where
  inhabited : 1 ≤ text.length
  short : text.length ≤ limit

instance (limit : Nat) (text : String) : Decidable (Bounded limit text) :=
  decidable_of_iff (1 ≤ text.length ∧ text.length ≤ limit)
    ⟨fun both => ⟨both.1, both.2⟩, fun bounded => ⟨bounded.1, bounded.2⟩⟩

theorem bounded_slice {text : String} {limit : Nat} (solid : text ≠ "") (positive : 1 ≤ limit) :
    Bounded limit (Text.slice text limit) := by
  have some := Text.length_pos_of_ne solid
  constructor
  · rw [Text.length_slice]
    omega
  · exact Text.length_slice_le _ _

/-- The projected title and company of a snapshot are never empty. -/
theorem bounded_snapshotText {key fallback : String} (solid : fallback ≠ "")
    (snapshot : Dict String Json) :
    Bounded 240 (Text.slice (snapshotText key fallback snapshot) 240) := by
  refine bounded_slice ?_ (by decide)
  unfold snapshotText Text.orElse
  split
  · split
    · exact solid
    · assumption
  · exact solid

/-- `ApplicationNextAction`. -/
structure ApplicationNextAction where
  id : String
  title : String
  dueAt : Option DateTime
  priority : TaskPriority
  idFits : Bounded 36 id
  titleFits : Bounded 500 title

/-- The schema of a next action. -/
def ApplicationNextAction.validate (id title : String) (dueAt : Option DateTime)
    (priority : TaskPriority) : Except ApplicationError ApplicationNextAction :=
  if idFits : Bounded 36 id then
    if titleFits : Bounded 500 title then .ok ⟨id, title, dueAt, priority, idFits, titleFits⟩
    else .error (.validation "Next-action projection is invalid")
  else .error (.validation "Next-action projection is invalid")

/-- The next action of a row: all three columns of its identity, or none. -/
def projectedNextAction (columns : NextActionColumns) :
    Except ApplicationError (Option ApplicationNextAction) :=
  match columns.taskId, columns.title, columns.priority with
  | none, none, none => .ok none
  | some id, some title, some priority =>
    (ApplicationNextAction.validate id title columns.dueAt priority).map some
  | _, _, _ => .error (.validation "Next-action projection is incomplete")

/-- `ApplicationSummary`. -/
structure ApplicationSummary where
  jobId : Option Nat
  resumeVersionId : Option String
  revision : Nat
  currentStage : Stage
  title : String
  company : String
  location : Option String
  latestEventAt : DateTime
  nextAction : Option ApplicationNextAction

/-- `list`, for one row. -/
def summary (application : Application) : Except ApplicationError ApplicationSummary := do
  let nextAction ← projectedNextAction application.nextAction
  return {
    jobId := application.jobId
    resumeVersionId := application.resumeVersionId
    revision := application.revision
    currentStage := application.currentStage
    title := application.jobTitle
    company := application.jobCompany
    location := application.jobLocation
    latestEventAt := application.latestEventAt
    nextAction := nextAction }

/-! ### The agenda -/

/-- `ApplicationAgendaState`, and the two states no item has. -/
inductive AgendaState
  | overdue
  | today
  | upcoming
  | unscheduled
  | needsAction
  | later
  | invalid
  deriving DecidableEq

/-- The window `_window` accepted. -/
structure AgendaWindow where
  generatedAt : DateTime
  todayEnd : DateTime
  horizonEnd : DateTime
  dayAhead : generatedAt < todayEnd
  horizonAhead : generatedAt ≤ horizonEnd

/-- `length(text)` of SQLite: the characters before the first U+0000. -/
def sqliteLength (text : String) : Nat :=
  (text.toList.takeWhile fun letter => letter.toNat ≠ 0).length

/-- `_state_expression`; a priority is always a known one. -/
def agendaState (window : AgendaWindow) (columns : NextActionColumns) : AgendaState :=
  match columns.taskId, columns.title, columns.priority with
  | some id, some title, some _ =>
    if sqliteLength id = 0 ∨ sqliteLength title = 0 then .invalid
    else
      match columns.dueAt with
      | none => .unscheduled
      | some due =>
        if due < window.generatedAt then .overdue
        else if due < window.todayEnd then .today
        else if due ≤ window.horizonEnd then .upcoming
        else .later
  | none, none, none => if columns.dueAt.isNone then .needsAction else .invalid
  | _, _, _ => .invalid

/-- `CLOSED_STAGES`. -/
def Stage.isClosed (stage : Stage) : Bool := [Stage.rejected, .withdrawn, .archived].contains stage

/-- `VISIBLE_STATES`. -/
def AgendaState.isVisible (state : AgendaState) : Bool := state ≠ .later && state ≠ .invalid

/-- `ApplicationAgendaItem`. -/
structure AgendaItem where
  applicationRevision : Nat
  title : String
  company : String
  currentStage : Stage
  latestEventAt : DateTime
  state : AgendaState
  nextAction : Option ApplicationNextAction

/-- `_next_action` of the agenda. -/
def agendaNextAction (columns : NextActionColumns) :
    Except ApplicationError (Option ApplicationNextAction) := do
  let nextAction ← projectedNextAction columns
  refuseWhen (nextAction.isNone ∧ columns.dueAt.isSome)
    (.validation "Next-action projection is incomplete")
  return nextAction

/-- `action_matches_state`. -/
def actionMatchesState (state : AgendaState) (nextAction : Option ApplicationNextAction) : Bool :=
  match state, nextAction with
  | .needsAction, none => true
  | .needsAction, some _ => false
  | _, none => false
  | .unscheduled, some action => action.dueAt.isNone
  | .later, some _ => true
  | .invalid, some _ => true
  | _, some action => action.dueAt.isSome

/-- One item of the agenda. -/
def agendaItem (window : AgendaWindow) (application : Application) :
    Except ApplicationError AgendaItem := do
  let nextAction ← agendaNextAction application.nextAction
  let state := agendaState window application.nextAction
  refuseWhen (¬(1 ≤ application.revision ∧ Bounded 240 application.jobTitle ∧
      Bounded 240 application.jobCompany ∧ actionMatchesState state nextAction))
    (.validation "Application agenda projection is invalid")
  return {
    applicationRevision := application.revision
    title := application.jobTitle
    company := application.jobCompany
    currentStage := application.currentStage
    latestEventAt := application.latestEventAt
    state := state
    nextAction := nextAction }

/-- `ApplicationAgendaResponse`. -/
structure Agenda where
  window : AgendaWindow
  activeCount : Nat
  visibleCount : Nat
  laterCount : Nat
  truncatedCount : Nat
  items : List AgendaItem

/-- `build`, on the rows in the order they are ranked. -/
def buildAgenda (window : AgendaWindow) (limit : Nat) (ranked : List Application) :
    Except ApplicationError Agenda := do
  refuseWhen (¬(1 ≤ limit ∧ limit ≤ 200)) (.validation "Agenda limit must be between 1 and 200")
  let active := ranked.filter fun application => !application.currentStage.isClosed
  let stateOf := fun application : Application => agendaState window application.nextAction
  let visible := active.filter fun application => (stateOf application).isVisible
  refuseWhen (active.any fun application => stateOf application = .invalid)
    (.validation "Next-action projection is incomplete")
  let items ← (visible.take limit).mapM (agendaItem window)
  let laterCount := active.countP fun application => stateOf application = .later
  return {
    window := window
    activeCount := active.length
    visibleCount := active.length - laterCount
    laterCount := laterCount
    truncatedCount := active.length - laterCount - items.length
    items := items }

/-! ### When the reads succeed -/

/-- A row the agenda classifies and makes an item of, whatever the window. -/
structure AgendaReady (application : Application) : Prop where
  classified : ∀ window, agendaState window application.nextAction ≠ .invalid
  listed : ∀ window, ∃ item, agendaItem window application = .ok item

/-- An application is read when its timeline replays. -/
theorem response_ok_iff [Pydantic] (surroundings : Surroundings) (application : Application) :
    (∃ view, response surroundings application = .ok view) ↔
      ∃ tasks, taskSnapshots (orderedEvents application.events) = .ok tasks := by
  simp only [response, bind_ok_iff, pure_ok_iff]
  exact ⟨fun ⟨_, tasks, replayed, _⟩ => ⟨tasks, replayed⟩,
    fun ⟨tasks, replayed⟩ => ⟨_, tasks, replayed, rfl⟩⟩

theorem buildAgenda_ok_iff (window : AgendaWindow) (limit : Nat) (ranked : List Application) :
    (∃ agenda, buildAgenda window limit ranked = .ok agenda) ↔
      (1 ≤ limit ∧ limit ≤ 200) ∧
        (∀ application ∈ ranked.filter fun application => !application.currentStage.isClosed,
          agendaState window application.nextAction ≠ .invalid) ∧
        ∀ application ∈ ((ranked.filter fun application => !application.currentStage.isClosed).filter
          fun application => (agendaState window application.nextAction).isVisible).take limit,
            ∃ item, agendaItem window application = .ok item := by
  rw [← mapM_ok_iff]
  simp only [buildAgenda, bind_ok_iff, refuseWhen_ok_iff, pure_ok_iff, not_not, List.any_eq_true,
    not_exists, decide_eq_true_eq]
  constructor
  · rintro ⟨_, -, fits, -, valid, items, built, -⟩
    exact ⟨fits, fun application member bad => valid application ⟨member, bad⟩, items, built⟩
  · rintro ⟨fits, valid, items, built⟩
    exact ⟨_, (), fits, (), fun application both => valid application both.1 both.2, items, built,
      rfl⟩

theorem mem_take_insert {Item : Type} {before after : List Item} {new : Item} {count : Nat}
    {item : Item} (member : item ∈ (before ++ new :: after).take count) :
    item = new ∨ item ∈ (before ++ after).take count := by
  rw [List.take_append] at member ⊢
  rcases List.mem_append.mp member with early | late
  · exact Or.inr (List.mem_append_left _ early)
  · cases room : count - before.length with
    | zero =>
      rw [room] at late
      cases late
    | succ rest =>
      rw [room, List.take_succ_cons] at late
      rcases List.mem_cons.mp late with isNew | inside
      · exact Or.inl isNew
      · exact Or.inr (List.mem_append_right _
          ((List.take_subset_take_left after (Nat.le_succ rest)) inside))

variable {application : Application}

/-- An application the agenda is ready for never takes the agenda away from the others. -/
theorem buildAgenda_insert (ready : AgendaReady application)
    (window : AgendaWindow) (limit : Nat) (before after : List Application)
    (built : ∃ agenda, buildAgenda window limit (before ++ after) = .ok agenda) :
    ∃ agenda, buildAgenda window limit (before ++ application :: after) = .ok agenda := by
  rw [buildAgenda_ok_iff] at built ⊢
  obtain ⟨fits, valid, listed⟩ := built
  refine ⟨fits, ?_, ?_⟩
  · intro other member
    rw [List.mem_filter, List.mem_append, List.mem_cons] at member
    rcases member with ⟨earlier | rfl | later, isOpen⟩
    · exact valid other (List.mem_filter.mpr ⟨List.mem_append_left _ earlier, isOpen⟩)
    · exact ready.classified window
    · exact valid other (List.mem_filter.mpr ⟨List.mem_append_right _ later, isOpen⟩)
  · intro other member
    simp only [List.filter_append, List.filter_cons] at member
    simp only [List.filter_append] at listed
    split at member
    · rw [List.filter_cons] at member
      split at member
      · rcases mem_take_insert member with rfl | inside
        · exact ready.listed window
        · exact listed other inside
      · exact listed other member
    · exact listed other member

/-! ### Projected tasks -/

/-- A task title that fits its column and that the database does not take for empty. -/
structure ShownTitle (title : String) : Prop where
  short : title.length ≤ 500
  visible : sqliteLength title ≠ 0

theorem ShownTitle.bounded {title : String} (shown : ShownTitle title) : Bounded 500 title := by
  refine ⟨?_, shown.short⟩
  have some := shown.visible
  have le : sqliteLength title ≤ title.length := by
    rw [← String.length_toList]
    exact (List.takeWhile_prefix _).length_le
  omega

/-- The identifier of a task does not look empty to the database. -/
theorem sqliteLength_id (task : TaskResponse) : sqliteLength task.id ≠ 0 := by
  have canonical := task.canonical
  have length := task.id_length
  unfold canonicalUuid at canonical
  unfold sqliteLength
  rw [← String.length_toList] at length
  cases letters : task.id.toList with
  | nil =>
    rw [letters] at length
    cases length
  | cons first rest =>
    rw [letters] at canonical
    simp only [List.zipIdx_cons, List.all_cons, Bool.and_eq_true] at canonical
    have digit : first.toNat ≠ 0 := by
      have := canonical.2.1
      simp at this
      omega
    simp [digit]

variable {next : Option TaskResponse}

theorem projectedNextAction_projection (shown : ∀ task ∈ next, ShownTitle task.title) :
    ∃ action, projectedNextAction (projection next) = .ok action ∧
      action.isSome = next.isSome ∧ ∀ found ∈ action, found.dueAt = (projection next).dueAt := by
  cases next with
  | none => exact ⟨none, rfl, rfl, nofun⟩
  | some task =>
    have idFits : Bounded 36 task.id := ⟨by rw [task.id_length]; decide, task.id_length.le⟩
    have titleFits := (shown task rfl).bounded
    refine ⟨some ⟨task.id, task.title, task.dueAt, task.priority, idFits, titleFits⟩, ?_, rfl, ?_⟩
    · show Except.map some (ApplicationNextAction.validate _ _ _ _) = _
      unfold ApplicationNextAction.validate
      rw [dif_pos idFits, dif_pos titleFits]
      rfl
    · rintro found same
      cases same
      rfl

/-- A row that projects a shown task, or none, is listed on the board. -/
theorem summary_ok (columns : application.nextAction = projection next)
    (shown : ∀ task ∈ next, ShownTitle task.title) :
    ∃ entry, summary application = .ok entry := by
  obtain ⟨action, read, -⟩ := projectedNextAction_projection shown
  unfold summary
  rw [columns, read]
  exact ⟨_, rfl⟩

/-- The state of a shown task is known, and fits its due time. -/
theorem agendaState_projection (window : AgendaWindow)
    (shown : ∀ task ∈ next, ShownTitle task.title) {action : Option ApplicationNextAction}
    (kept : action.isSome = next.isSome)
    (dated : ∀ found ∈ action, found.dueAt = (projection next).dueAt) :
    agendaState window (projection next) ≠ .invalid ∧
      actionMatchesState (agendaState window (projection next)) action = true := by
  cases next with
  | none =>
    cases action with
    | none => exact ⟨nofun, rfl⟩
    | some found => cases kept
  | some task =>
    cases action with
    | none => cases kept
    | some found =>
      have due : found.dueAt = task.dueAt := dated found rfl
      have state : agendaState window (projection (some task)) =
          match task.dueAt with
          | none => .unscheduled
          | some due =>
            if due < window.generatedAt then .overdue
            else if due < window.todayEnd then .today
            else if due ≤ window.horizonEnd then .upcoming
            else .later := by
        refine if_neg ?_
        rintro (noId | noTitle)
        · exact sqliteLength_id task noId
        · exact (shown task rfl).visible noTitle
      rw [state]
      cases dueAt : task.dueAt with
      | none =>
        refine ⟨nofun, ?_⟩
        show found.dueAt.isNone = true
        rw [due, dueAt]
        rfl
      | some moment =>
        have isDue : found.dueAt.isSome = true := by
          rw [due, dueAt]
          rfl
        simp only
        split_ifs
        · exact ⟨nofun, isDue⟩
        · exact ⟨nofun, isDue⟩
        · exact ⟨nofun, isDue⟩
        · exact ⟨nofun, rfl⟩

/-- A row that projects a shown task, or none, is no danger to the agenda. -/
theorem agendaReady (columns : application.nextAction = projection next)
    (shown : ∀ task ∈ next, ShownTitle task.title) (revision : 1 ≤ application.revision)
    (title : Bounded 240 application.jobTitle) (company : Bounded 240 application.jobCompany) :
    AgendaReady application := by
  obtain ⟨action, read, kept, dated⟩ := projectedNextAction_projection shown
  refine ⟨fun window => ?_, fun window => ?_⟩
  · rw [columns]
    exact (agendaState_projection window shown kept dated).1
  · have complete : ¬(action.isNone ∧ application.nextAction.dueAt.isSome) := by
      rw [columns]
      rintro ⟨missing, due⟩
      cases next with
      | none => cases due
      | some task =>
        rw [Option.isNone_iff_eq_none.mp missing] at kept
        cases kept
    have item : ∃ item, agendaItem window application = .ok item := by
      simp only [agendaItem, agendaNextAction, bind_ok_iff, refuseWhen_ok_iff, pure_ok_iff,
        not_not]
      refine ⟨_, action, ⟨action, by rw [columns]; exact read, (), complete, rfl⟩, (), ?_, rfl⟩
      refine ⟨revision, title, company, ?_⟩
      rw [columns]
      exact (agendaState_projection window shown kept dated).2
    exact item

end CareerOS
