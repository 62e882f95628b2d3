/-
This file is the daily agenda as it is read from the table: one statement that
classifies the open applications of the owner by their next action, ranks those
that can be seen, counts the others, and returns the first of the ranked rows
beside the counts. The states follow from the due time and three instants: now, the
end of the local day and the horizon.
-/

import CareerOS.Applications.Reads
import CareerOS.Applications.TaskCalendar

namespace CareerOS

/-! ### Instants -/

namespace DateTime

/-- The same time of the next day, or nothing where that overflows. -/
def nextDay (moment : DateTime) : Option DateTime :=
  let ⟨year, month, day, hour, minute, second, microsecond, _⟩ := moment
  if day < daysInMonth year month then ofFields year month (day + 1) hour minute second microsecond
  else if month < 12 then ofFields year (month + 1) 1 hour minute second microsecond
  else ofFields (year + 1) 1 1 hour minute second microsecond

/-- `moment + timedelta(days=days)`. -/
def plusDays (moment : DateTime) : Nat → Option DateTime
  | 0 => some moment
  | days + 1 => moment.nextDay.bind fun next => next.plusDays days

theorem lt_of_nextDay {moment next : DateTime} (reached : moment.nextDay = some next) :
    moment < next := by
  obtain ⟨year, month, day, hour, minute, second, microsecond, valid⟩ := moment
  have days := daysInMonth_le year month
  have lastMonth := valid.2.1.2
  have lastDay := valid.2.2.1.2
  rw [lt_iff]
  unfold nextDay at reached
  dsimp only at reached
  split at reached
  · rw [rank_ofFields reached]
    simp only [rank]
    omega
  · split at reached
    · rw [rank_ofFields reached]
      simp only [rank]
      omega
    · rw [rank_ofFields reached]
      simp only [rank]
      omega

theorem le_of_plusDays {days : Nat} : ∀ {moment later : DateTime},
    moment.plusDays days = some later → moment ≤ later := by
  induction days with
  | zero =>
    intro moment later same
    exact (Option.some.inj same).le
  | succ days inductionHypothesis =>
    intro moment later same
    obtain ⟨next, stepped, rest⟩ := Option.bind_eq_some_iff.mp same
    exact (lt_of_nextDay stepped).le.trans (inductionHypothesis rest)

end DateTime

namespace ApplicationAgenda

/-- An instant with its time zone, or one that has none. -/
def aware (instant : Option DateTime) (message : String) : Except ApplicationError DateTime :=
  match instant with
  | some moment => .ok moment
  | none => .error (.validation message)

/-- The microseconds of 26 hours. -/
def longestDay : Nat := 26 * 3600 * 1000000

/-- `_window`. -/
def window (generatedAt : DateTime) (localDayEnd : Option DateTime) (horizonDays : Nat) :
    Except ApplicationError AgendaWindow := do
  let dayEnd ← aware localDayEnd "Local day boundary must include a timezone"
  if ahead : generatedAt < dayEnd then
    let latest := microsecondsOf generatedAt + longestDay
    refuseWhen (microsecondsOf DateTime.max < latest) .overflow
    refuseWhen (latest < microsecondsOf dayEnd)
      (.validation "Local day boundary cannot be more than 26 hours ahead")
    match reached : generatedAt.plusDays horizonDays with
    | some horizonEnd =>
      .ok ⟨generatedAt, dayEnd, horizonEnd, ahead, DateTime.le_of_plusDays reached⟩
    | none => .error .overflow
  else .error (.validation "Local day boundary must be in the future")

/-! ### Rows -/

/-- The columns of `applications` that the agenda reads. -/
structure AgendaRow where
  applicationId : String
  userId : Nat
  revision : Int
  currentStage : String
  jobTitle : String
  jobCompany : String
  latestEventAt : DateTime
  nextActionTaskId : Option String
  nextActionTitle : Option String
  nextActionAt : Option DateTime
  nextActionPriority : Option String

/-- The table, with its primary key. -/
structure AgendaTable where
  rows : List AgendaRow
  distinct : (rows.map AgendaRow.applicationId).Nodup

/-- `CLOSED_STAGES`. -/
def closedStages : List String := ["rejected", "withdrawn", "archived"]

/-- `VISIBLE_STATES`. -/
def visibleStates : List AgendaState := [.overdue, .today, .upcoming, .unscheduled, .needsAction]

/-- `_state_expression`. -/
def stateExpression (window : AgendaWindow) (row : AgendaRow) : AgendaState :=
  let identityAbsent :=
    row.nextActionTaskId = none ∧ row.nextActionTitle = none ∧ row.nextActionPriority = none
  let identityIncomplete :=
    row.nextActionTaskId = none ∨ row.nextActionTitle = none ∨ row.nextActionPriority = none
  if identityAbsent ∧ row.nextActionAt = none then .needsAction
  else if identityIncomplete then .invalid
  else if row.nextActionPriority.getD "" ∉ ["low", "normal", "high", "urgent"] then .invalid
  else if sqliteLength (row.nextActionTaskId.getD "") = 0 ∨
      sqliteLength (row.nextActionTitle.getD "") = 0 then .invalid
  else
    match row.nextActionAt with
    | none => .unscheduled
    | some due =>
      if due < window.generatedAt then .overdue
      else if due < window.todayEnd then .today
      else if due ≤ window.horizonEnd then .upcoming
      else .later

/-- `agenda_classified`, without the state. -/
def classified (table : AgendaTable) (userId : Nat) : List AgendaRow :=
  table.rows.filter fun row => row.userId = userId ∧ row.currentStage ∉ closedStages

/-- `state_order`. -/
def stateOrder (state : AgendaState) : Nat := visibleStates.idxOf state

/-- `priority_order`. -/
def priorityOrder (priority : Option String) : Nat :=
  ["urgent", "high", "normal", "low"].idxOf (priority.getD "")

/-- `item_order`; a due time that is missing comes first. -/
def itemOrder (window : AgendaWindow) (row : AgendaRow) :
    Nat ×ₗ WithBot DateTime ×ₗ Nat ×ₗ DateTime ×ₗ String :=
  toLex (stateOrder (stateExpression window row), toLex (row.nextActionAt,
    toLex (priorityOrder row.nextActionPriority, toLex (row.latestEventAt, row.applicationId))))

/-- `agenda_ranked`: the rows that can be seen, by their rank. -/
def ranked (window : AgendaWindow) (rows : List AgendaRow) : List AgendaRow :=
  (rows.filter fun row => stateExpression window row ∈ visibleStates).insertionSort
    fun first second => itemOrder window first ≤ itemOrder window second

/-- How many of the rows have a state. -/
def stateCount (window : AgendaWindow) (rows : List AgendaRow) (state : AgendaState) : Nat :=
  rows.countP fun row => stateExpression window row = state

/-! ### Items -/

/-- `_next_action`. -/
def rowNextAction (row : AgendaRow) : Except ApplicationError (Option ApplicationNextAction) :=
  match row.nextActionTaskId, row.nextActionTitle, row.nextActionPriority with
  | none, none, none =>
    if row.nextActionAt.isSome then .error (.validation "Next-action projection is incomplete")
    else .ok none
  | some id, some title, some priority =>
    match TaskPriority.ofName priority with
    | some priority => (ApplicationNextAction.validate id title row.nextActionAt priority).map some
    | none => .error (.validation "Next-action projection is invalid")
  | _, _, _ => .error (.validation "Next-action projection is incomplete")

/-- A stage by its name. -/
def stageOf (name : String) : Option Stage :=
  [Stage.saved, .preparing, .applied, .screening, .interview, .offer, .accepted, .rejected,
    .withdrawn, .archived].find? fun stage => stage.name = name

/-- `ApplicationAgendaItem`. -/
structure ApplicationAgendaItem where
  applicationId : String
  applicationRevision : Int
  title : String
  company : String
  currentStage : Stage
  latestEventAt : DateTime
  state : AgendaState
  nextAction : Option ApplicationNextAction

/-- The item of a row. -/
def rowItem (window : AgendaWindow) (row : AgendaRow) :
    Except ApplicationError ApplicationAgendaItem := do
  let nextAction ← rowNextAction row
  let state := stateExpression window row
  let invalid := ApplicationError.validation "Application agenda projection is invalid"
  match stageOf row.currentStage with
  | none => throw invalid
  | some stage =>
    refuseWhen (¬(Bounded 36 row.applicationId ∧ 1 ≤ row.revision ∧ Bounded 240 row.jobTitle ∧
      Bounded 240 row.jobCompany ∧ state ∈ visibleStates ∧ actionMatchesState state nextAction))
      invalid
    return {
      applicationId := row.applicationId
      applicationRevision := row.revision
      title := row.jobTitle
      company := row.jobCompany
      currentStage := stage
      latestEventAt := row.latestEventAt
      state := state
      nextAction := nextAction }

/-! ### The response -/

/-- `ApplicationAgendaResponse`. -/
structure ApplicationAgendaResponse where
  generatedAt : DateTime
  localDayEnd : DateTime
  horizonEnd : DateTime
  activeCount : Int
  visibleCount : Int
  laterCount : Int
  truncatedCount : Int
  items : List ApplicationAgendaItem

/-- The fields and `counts_are_coherent` of the response. -/
structure Coherent (response : ApplicationAgendaResponse) : Prop where
  active : 0 ≤ response.activeCount
  visible : 0 ≤ response.visibleCount
  later : 0 ≤ response.laterCount
  truncated : 0 ≤ response.truncatedCount
  items : response.items.length ≤ 200
  dayEnd : response.generatedAt < response.localDayEnd
  horizon : response.generatedAt ≤ response.horizonEnd
  counted : response.activeCount = response.visibleCount + response.laterCount
  shown : response.truncatedCount = response.visibleCount - response.items.length

instance (response : ApplicationAgendaResponse) : Decidable (Coherent response) :=
  decidable_of_iff (0 ≤ response.activeCount ∧ 0 ≤ response.visibleCount ∧
      0 ≤ response.laterCount ∧ 0 ≤ response.truncatedCount ∧ response.items.length ≤ 200 ∧
      response.generatedAt < response.localDayEnd ∧ response.generatedAt ≤ response.horizonEnd ∧
      response.activeCount = response.visibleCount + response.laterCount ∧
      response.truncatedCount = response.visibleCount - response.items.length)
    ⟨fun ⟨active, visible, later, truncated, items, dayEnd, horizon, counted, shown⟩ =>
      ⟨active, visible, later, truncated, items, dayEnd, horizon, counted, shown⟩,
      fun ⟨active, visible, later, truncated, items, dayEnd, horizon, counted, shown⟩ =>
      ⟨active, visible, later, truncated, items, dayEnd, horizon, counted, shown⟩⟩

/-- What `build` makes of the window and the rows of the owner. -/
def fromRows (window : AgendaWindow) (rows : List AgendaRow) (limit : Nat) :
    Except ApplicationError ApplicationAgendaResponse := do
  refuseWhen (stateCount window rows .invalid ≠ 0)
    (.validation "Next-action projection is incomplete")
  let items ← ((ranked window rows).take limit).mapM (rowItem window)
  let activeCount : Int := rows.length
  let laterCount : Int := stateCount window rows .later
  let visibleCount := activeCount - laterCount
  let response : ApplicationAgendaResponse := {
    generatedAt := window.generatedAt
    localDayEnd := window.todayEnd
    horizonEnd := window.horizonEnd
    activeCount
    visibleCount
    laterCount
    truncatedCount := visibleCount - items.length
    items }
  refuseWhen (¬Coherent response) (.validation "Application agenda response is invalid")
  return response

/-- `build`. -/
def build (table : AgendaTable) (userId : Nat) (localDayEnd : Option DateTime)
    (horizonDays limit : Int) (now : Option DateTime) :
    Except ApplicationError ApplicationAgendaResponse := do
  refuseWhen (¬(1 ≤ horizonDays ∧ horizonDays ≤ 30))
    (.validation "Agenda horizon must be between 1 and 30 days")
  refuseWhen (¬(1 ≤ limit ∧ limit ≤ 200)) (.validation "Agenda limit must be between 1 and 200")
  let generatedAt ← aware now "Agenda time must include a timezone"
  let window ← window generatedAt localDayEnd horizonDays.toNat
  fromRows window (classified table userId) limit.toNat

/-! ### States -/

section

variable {window : AgendaWindow} {row : AgendaRow} {rows : List AgendaRow}

/-- A state that is not invalid follows from the due time, and without one from whether there is a
next action. -/
theorem stateExpression_of_valid (valid : stateExpression window row ≠ .invalid) :
    stateExpression window row =
      match row.nextActionAt with
      | none => if row.nextActionTaskId = none then .needsAction else .unscheduled
      | some due =>
        if due < window.generatedAt then .overdue
        else if due < window.todayEnd then .today
        else if due ≤ window.horizonEnd then .upcoming
        else .later := by
  unfold stateExpression at valid ⊢
  dsimp only at valid ⊢
  by_cases absent : (row.nextActionTaskId = none ∧ row.nextActionTitle = none ∧
      row.nextActionPriority = none) ∧ row.nextActionAt = none
  · rw [if_pos absent, absent.2]
    exact (if_pos absent.1.1).symm
  rw [if_neg absent] at valid ⊢
  by_cases incomplete : row.nextActionTaskId = none ∨ row.nextActionTitle = none ∨
      row.nextActionPriority = none
  · exact absurd (if_pos incomplete) valid
  rw [if_neg incomplete] at valid ⊢
  by_cases unknown : row.nextActionPriority.getD "" ∉ ["low", "normal", "high", "urgent"]
  · exact absurd (if_pos unknown) valid
  rw [if_neg unknown] at valid ⊢
  by_cases empty : sqliteLength (row.nextActionTaskId.getD "") = 0 ∨
      sqliteLength (row.nextActionTitle.getD "") = 0
  · exact absurd (if_pos empty) valid
  rw [if_neg empty, if_neg fun missing => incomplete (.inl missing)]

/-- The states of the rows with a due time are four stretches of time. -/
theorem stateExpression_dated (valid : stateExpression window row ≠ .invalid) {due : DateTime}
    (dated : row.nextActionAt = some due) :
    (stateExpression window row = .overdue ↔ due < window.generatedAt) ∧
      (stateExpression window row = .today ↔ window.generatedAt ≤ due ∧ due < window.todayEnd) ∧
      (stateExpression window row = .upcoming ↔
        window.todayEnd ≤ due ∧ due ≤ window.horizonEnd) ∧
      (stateExpression window row = .later ↔
        window.todayEnd ≤ due ∧ window.horizonEnd < due) := by
  have dayAhead := window.dayAhead
  rw [stateExpression_of_valid valid, dated]
  dsimp only
  split_ifs with past today upcoming
  · have before : ¬window.todayEnd ≤ due := not_le.mpr (past.trans dayAhead)
    exact ⟨⟨fun _ => past, fun _ => rfl⟩, ⟨nofun, fun both => absurd past (not_lt.mpr both.1)⟩,
      ⟨nofun, fun both => absurd both.1 before⟩, ⟨nofun, fun both => absurd both.1 before⟩⟩
  · exact ⟨⟨nofun, fun early => absurd early past⟩,
      ⟨fun _ => ⟨not_lt.mp past, today⟩, fun _ => rfl⟩,
      ⟨nofun, fun both => absurd today (not_lt.mpr both.1)⟩,
      ⟨nofun, fun both => absurd today (not_lt.mpr both.1)⟩⟩
  · exact ⟨⟨nofun, fun early => absurd early past⟩, ⟨nofun, fun both => absurd both.2 today⟩,
      ⟨fun _ => ⟨not_lt.mp today, upcoming⟩, fun _ => rfl⟩,
      ⟨nofun, fun both => absurd upcoming (not_le.mpr both.2)⟩⟩
  · exact ⟨⟨nofun, fun early => absurd early past⟩, ⟨nofun, fun both => absurd both.2 today⟩,
      ⟨nofun, fun both => absurd both.2 upcoming⟩,
      ⟨fun _ => ⟨not_lt.mp today, not_le.mp upcoming⟩, fun _ => rfl⟩⟩

/-- A row without a due time has no next action or an unscheduled one. -/
theorem stateExpression_undated (valid : stateExpression window row ≠ .invalid)
    (undated : row.nextActionAt = none) :
    stateExpression window row =
      if row.nextActionTaskId = none then .needsAction else .unscheduled := by
  rw [stateExpression_of_valid valid, undated]

/-! ### Counts -/

/-- Every row has one of the seven states. -/
theorem sum_stateCount (window : AgendaWindow) (rows : List AgendaRow) :
    rows.length = (visibleStates.map (stateCount window rows)).sum +
      stateCount window rows .later + stateCount window rows .invalid := by
  induction rows with
  | nil => rfl
  | cons row rest inductionHypothesis =>
    unfold stateCount visibleStates at inductionHypothesis ⊢
    simp only [List.length_cons, List.countP_cons, List.map_cons, List.map_nil, List.sum_cons,
      List.sum_nil] at inductionHypothesis ⊢
    rw [inductionHypothesis]
    cases stateExpression window row <;> simp <;> omega

/-! ### Order -/

theorem perm_ranked (window : AgendaWindow) (rows : List AgendaRow) :
    (ranked window rows).Perm
      (rows.filter fun row => stateExpression window row ∈ visibleStates) :=
  List.perm_insertionSort _ _

theorem applicationId_of_itemOrder {first second : AgendaRow}
    (same : itemOrder window first = itemOrder window second) :
    first.applicationId = second.applicationId :=
  congrArg (fun key => (ofLex (ofLex (ofLex (ofLex key).2).2).2).2) same

theorem nodup_ranked (distinct : (rows.map AgendaRow.applicationId).Nodup) :
    ((ranked window rows).map AgendaRow.applicationId).Nodup :=
  ((perm_ranked window rows).map _).nodup_iff.mpr
    (distinct.sublist (List.filter_sublist.map _))

/-- The ranked rows are in the order of the agenda, no two alike. -/
theorem ranked_strict (distinct : (rows.map AgendaRow.applicationId).Nodup) :
    (ranked window rows).Pairwise fun first second =>
      itemOrder window first < itemOrder window second := by
  have apart : (ranked window rows).Pairwise fun first second =>
      first.applicationId ≠ second.applicationId := List.pairwise_map.mp (nodup_ranked distinct)
  have sorted : (ranked window rows).Pairwise fun first second =>
      itemOrder window first ≤ itemOrder window second := List.pairwise_insertionSort _ _
  exact (sorted.and apart).imp fun both =>
    lt_of_le_of_ne both.1 (mt applicationId_of_itemOrder both.2)

/-! ### The agenda as a whole -/

/-- An item shows its row. -/
structure Shows (window : AgendaWindow) (row : AgendaRow) (item : ApplicationAgendaItem) :
    Prop where
  applicationId : item.applicationId = row.applicationId
  revision : item.applicationRevision = row.revision
  title : item.title = row.jobTitle
  company : item.company = row.jobCompany
  stage : item.currentStage.name = row.currentStage
  latestEventAt : item.latestEventAt = row.latestEventAt
  state : item.state = stateExpression window row
  nextAction : rowNextAction row = .ok item.nextAction

theorem shows_of_rowItem {item : ApplicationAgendaItem} (read : rowItem window row = .ok item) :
    Shows window row item := by
  unfold rowItem at read
  obtain ⟨nextAction, action, rest⟩ := bind_ok_iff.mp read
  cases staged : stageOf row.currentStage with
  | none =>
    rw [staged] at rest
    cases rest
  | some stage =>
    rw [staged] at rest
    obtain ⟨-, -, made⟩ := bind_ok_iff.mp rest
    obtain rfl := Except.ok.inj made
    have named := List.find?_some staged
    exact ⟨rfl, rfl, rfl, rfl, of_decide_eq_true named, rfl, rfl, action⟩

/-- The counts of an agenda are those of the states, which part time at the three instants; its
items are the first rows in the order of the agenda, and what it leaves out is counted. -/
structure AgendaAddsUp (window : AgendaWindow) (rows : List AgendaRow) (limit : Nat)
    (agenda : ApplicationAgendaResponse) : Prop where
  instants : agenda.generatedAt = window.generatedAt ∧ agenda.localDayEnd = window.todayEnd ∧
    agenda.horizonEnd = window.horizonEnd
  active : agenda.activeCount = rows.length
  later : agenda.laterCount = stateCount window rows .later
  invalid : stateCount window rows .invalid = 0
  visible : agenda.visibleCount = (visibleStates.map (stateCount window rows)).sum
  partition : rows.length =
    (visibleStates.map (stateCount window rows)).sum + stateCount window rows .later
  dated : ∀ row ∈ rows, ∀ due, row.nextActionAt = some due →
    (stateExpression window row = .overdue ↔ due < window.generatedAt) ∧
      (stateExpression window row = .today ↔ window.generatedAt ≤ due ∧ due < window.todayEnd) ∧
      (stateExpression window row = .upcoming ↔
        window.todayEnd ≤ due ∧ due ≤ window.horizonEnd) ∧
      (stateExpression window row = .later ↔ window.todayEnd ≤ due ∧ window.horizonEnd < due)
  undated : ∀ row ∈ rows, row.nextActionAt = none → stateExpression window row =
    if row.nextActionTaskId = none then .needsAction else .unscheduled
  first : ∃ order : List AgendaRow,
    order.Perm (rows.filter fun row => stateExpression window row ∈ visibleStates) ∧
      (order.Pairwise fun first second => itemOrder window first < itemOrder window second) ∧
      List.Forall₂ (Shows window) (order.take limit) agenda.items
  distinct : (agenda.items.map ApplicationAgendaItem.applicationId).Nodup
  truncated : agenda.truncatedCount = agenda.visibleCount - agenda.items.length

theorem valid_of_stateCount (none : stateCount window rows .invalid = 0) {row : AgendaRow}
    (member : row ∈ rows) : stateExpression window row ≠ .invalid := fun invalid =>
  List.countP_eq_zero.mp none row member (decide_eq_true invalid)

theorem addsUp_of_fromRows (distinct : (rows.map AgendaRow.applicationId).Nodup) {limit : Nat}
    {agenda : ApplicationAgendaResponse} (built : fromRows window rows limit = .ok agenda) :
    AgendaAddsUp window rows limit agenda := by
  unfold fromRows at built
  simp only [bind_ok_iff, refuseWhen_ok_iff, pure_ok_iff, not_not] at built
  obtain ⟨-, invalid, items, read, -, coherent, rfl⟩ := built
  have shown : List.Forall₂ (Shows window) ((ranked window rows).take limit) items :=
    (mapM_ok_iff_forall₂.mp read).imp fun _ _ => shows_of_rowItem
  have strict := @ranked_strict window rows distinct
  have ids : items.map ApplicationAgendaItem.applicationId =
      ((ranked window rows).take limit).map AgendaRow.applicationId := by
    rw [← List.forall₂_eq_eq_eq, List.forall₂_map_left_iff, List.forall₂_map_right_iff]
    exact shown.flip.imp fun _ _ shows => shows.applicationId
  have partition := sum_stateCount window rows
  rw [invalid, Nat.add_zero] at partition
  exact {
    instants := ⟨rfl, rfl, rfl⟩
    active := rfl
    later := rfl
    invalid
    visible := by
      dsimp only
      omega
    partition
    dated := fun row member _ => stateExpression_dated (valid_of_stateCount invalid member)
    undated := fun row member => stateExpression_undated (valid_of_stateCount invalid member)
    first := ⟨ranked window rows, perm_ranked window rows, strict, shown⟩
    distinct := by
      rw [ids]
      exact (nodup_ranked distinct).sublist ((List.take_sublist limit _).map _)
    truncated := rfl }

end

/-- Whatever the table, the window and the limit, an agenda that is returned adds up. -/
theorem agenda_adds_up (table : AgendaTable) (userId : Nat) (localDayEnd : Option DateTime)
    (horizonDays limit : Int) (now : Option DateTime) (agenda : ApplicationAgendaResponse)
    (built : build table userId localDayEnd horizonDays limit now = .ok agenda) :
    ∃ generatedAt agendaWindow, now = some generatedAt ∧
      window generatedAt localDayEnd horizonDays.toNat = .ok agendaWindow ∧
      AgendaAddsUp agendaWindow (classified table userId) limit.toNat agenda := by
  unfold build at built
  simp only [bind_ok_iff, refuseWhen_ok_iff, not_not] at built
  obtain ⟨-, -, -, -, generatedAt, isAware, agendaWindow, windowed, read⟩ := built
  cases now with
  | none => cases isAware
  | some moment =>
    obtain rfl := Except.ok.inj isAware
    exact ⟨moment, agendaWindow, rfl, windowed,
      addsUp_of_fromRows (table.distinct.sublist (List.filter_sublist.map _)) read⟩

/-- Noon of a day of January. -/
def noonOf (day : Nat) (valid : ValidTime 2026 1 day 12 0 0 0) : DateTime :=
  ⟨2026, 1, day, 12, 0, 0, 0, valid⟩

/-- An application with a call to make. -/
def callRow (applicationId : String) (due : DateTime) : AgendaRow :=
  ⟨applicationId, 7, 3, "applied", "Nurse", "Clinic", noonOf 1 (by decide), some "t-1", some "Call",
    some due, some "high"⟩

/-- One call is overdue, one is due after the horizon, and the third application is closed. -/
def callTable : AgendaTable where
  rows := [callRow "b" (noonOf 20 (by decide)), callRow "a" (noonOf 2 (by decide)),
    { callRow "c" (noonOf 3 (by decide)) with currentStage := "rejected" }]
  distinct := by decide

/-- Of the two open applications one is shown. -/
theorem agenda_adds_up_call : ∃ agenda agendaWindow,
    AgendaAddsUp agendaWindow (classified callTable 7) 1 agenda ∧
      agenda.items.map ApplicationAgendaItem.applicationId = ["a"] ∧ agenda.laterCount = 1 := by
  have shown : ((build callTable 7 (some (noonOf 6 (by decide))) 7 1
      (some (noonOf 5 (by decide)))).toOption.map fun agenda =>
        (agenda.items.map ApplicationAgendaItem.applicationId, agenda.laterCount)) =
      some (["a"], 1) := by decide +kernel
  obtain ⟨agenda, returned⟩ := ok_of_isOk (show (build callTable 7
    (some (noonOf 6 (by decide))) 7 1 (some (noonOf 5 (by decide)))).isOk = true by decide +kernel)
  rw [returned] at shown
  obtain ⟨ids, later⟩ := Prod.mk.inj (Option.some.inj shown)
  obtain ⟨generatedAt, agendaWindow, -, -, right⟩ :=
    agenda_adds_up callTable 7 _ 7 1 _ agenda returned
  exact ⟨agenda, agendaWindow, right, ids, later⟩

end ApplicationAgenda

end CareerOS
