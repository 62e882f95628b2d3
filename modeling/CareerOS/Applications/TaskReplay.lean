/-
This file is the replay of the tasks out of the timeline. The replay reads the
task events in the order of the timeline, files every record under its task and
its revision, and then checks each task's history: revisions from one on without
a gap, one creation time, and update times that never go back. Any failure makes
the whole application unreadable.

What the replay computes is stated without its dictionaries: it succeeds exactly
when every task event can be read and the records form a sound log of versions,
and it returns the newest version of every task in the order tasks are shown.
That depends on which events there are, not on the order they are read in.
-/

import CareerOS.Applications.Models
import CareerOS.Library.Versions

namespace CareerOS

/-- The status a kind of task event must carry. -/
def expectedStatus : EventType → Option TaskStatus
  | .taskCompleted => some .completed
  | .taskReopened => some .pending
  | .taskCancelled => some .cancelled
  | _ => none

/-- The dictionaries the replay fills. -/
structure ReplayState where
  histories : Dict String (Dict Nat TaskResponse)
  canonicalByRevision : Dict (String × Nat) Json

section

variable [Pydantic]

/-- The record of one event, if the replay does not pass over it. -/
def readTaskEvent (event : ApplicationEvent) : Except ApplicationError (Option TaskResponse) :=
  if event.eventType.isTask = false then .ok none
  else
    match Dict.lookup "task" event.payload with
    | some (.obj payload) =>
      match TaskResponse.modelValidate .lax (.obj payload) with
      | none => .error (.validation "Invalid task event payload")
      | some task =>
        if event.eventType = .taskCreated ∧ (task.revision ≠ 1 ∨ task.status ≠ .pending) then
          .error (.validation "Invalid task creation event")
        else if event.eventType ≠ .taskCreated ∧ task.revision ≤ 1 then
          .error (.validation "Task revision regressed")
        else
          match expectedStatus event.eventType with
          | some status =>
            if task.status ≠ status then
              .error (.validation "Task event status is inconsistent")
            else .ok (some task)
          | none => .ok (some task)
    | _ => .ok none

/-- The dictionaries with one more record. -/
def ReplayState.file (state : ReplayState) (task : TaskResponse) : ReplayState where
  histories := Dict.assign task.id
    (Dict.assign task.revision task ((Dict.lookup task.id state.histories).getD [])) state.histories
  canonicalByRevision :=
    Dict.assign (task.id, task.revision) task.modelDump state.canonicalByRevision

/-- File one record unless it contradicts one filed before. Two texts with sorted keys are equal
when the trees they are written from are. -/
def recordTask (state : ReplayState) (task : TaskResponse) :
    Except ApplicationError ReplayState :=
  match Dict.lookup (task.id, task.revision) state.canonicalByRevision with
  | some previousCanonical =>
    if previousCanonical ≠ task.modelDump then
      .error (.validation "Conflicting duplicate task revision")
    else .ok (state.file task)
  | none => .ok (state.file task)

/-- The first loop of the replay. -/
def fileEvents : ReplayState → List ApplicationEvent → Except ApplicationError ReplayState
  | state, [] => .ok state
  | state, event :: rest =>
    match readTaskEvent event with
    | .error refusal => .error refusal
    | .ok none => fileEvents state rest
    | .ok (some task) =>
      match recordTask state task with
      | .error refusal => .error refusal
      | .ok next => fileEvents next rest

/-- The check that a history never goes back, from its first record on. -/
def checkRegression (createdAt previousUpdatedAt : DateTime) :
    List TaskResponse → Except ApplicationError Unit
  | [] => .ok ()
  | task :: rest =>
    if task.createdAt ≠ createdAt ∨ task.updatedAt < previousUpdatedAt then
      .error (.validation "Task revision history regressed")
    else checkRegression createdAt task.updatedAt rest

/-- The newest version of one task, after its history was checked. -/
def closeHistory (revisions : Dict Nat TaskResponse) : Except ApplicationError TaskResponse :=
  let highest := (Dict.keys revisions).max?.getD 0
  let range := List.range' 1 highest
  if (Dict.keys revisions).all range.contains ∧ range.all (Dict.keys revisions).contains then
    match range.filterMap fun revision => Dict.lookup revision revisions with
    | [] => .error (.validation "Task revision history is incomplete")
    | first :: rest =>
      match checkRegression first.createdAt first.updatedAt rest with
      | .error refusal => .error refusal
      | .ok () => .ok (rest.getLast?.getD first)
  else .error (.validation "Task revision history is incomplete")

/-- The second loop of the replay. -/
def closeHistories : Dict String (Dict Nat TaskResponse) →
    Except ApplicationError (List TaskResponse)
  | [] => .ok []
  | (_, revisions) :: rest =>
    match closeHistory revisions, closeHistories rest with
    | .ok task, .ok tasks => .ok (task :: tasks)
    | .error refusal, _ => .error refusal
    | _, .error refusal => .error refusal

/-- `_task_snapshots` on the events in the order they are read. -/
def taskSnapshots (events : List ApplicationEvent) : Except ApplicationError (List TaskResponse) :=
  match fileEvents ⟨[], []⟩ events with
  | .error refusal => .error refusal
  | .ok state =>
    match closeHistories state.histories with
    | .error refusal => .error refusal
    | .ok current => .ok (sortTasks current)

/-! ### The records of a timeline -/

/-- A task record is a version of its task. -/
def taskVersions : Versioning TaskResponse String where
  key := TaskResponse.id
  version := TaskResponse.revision
  follows := fun first second =>
    first.createdAt = second.createdAt ∧ first.updatedAt ≤ second.updatedAt

/-- The task records in a timeline. -/
def taskRecords (events : List ApplicationEvent) : Set TaskResponse :=
  {task | ∃ event ∈ events, readTaskEvent event = .ok (some task)}

/-- Every event of the timeline can be read. -/
def Readable (events : List ApplicationEvent) : Prop :=
  ∀ event ∈ events, ∃ record, readTaskEvent event = .ok record

/-- One revision of a task has one record. -/
def Functional (records : Set TaskResponse) : Prop :=
  ∀ first ∈ records, ∀ second ∈ records, first.id = second.id →
    first.revision = second.revision → first = second

/-- The newest record of every task of a log, each once, in the order tasks are shown. -/
structure Shown (records : Set TaskResponse) (tasks : List TaskResponse) : Prop where
  sorted : tasks.Pairwise taskLe
  distinct : (tasks.map TaskResponse.id).Nodup
  mem : ∀ task, task ∈ tasks ↔ taskVersions.Latest records task

variable {records : Set TaskResponse}

omit [Pydantic] in
/-- There is one way to show a log. -/
theorem Shown.unique {first second : List TaskResponse}
    (firstShown : Shown records first) (secondShown : Shown records second) : first = second := by
  have perm : first.Perm second := by
    rw [List.perm_ext_iff_of_nodup firstShown.distinct.of_map secondShown.distinct.of_map]
    exact fun task => (firstShown.mem task).trans (secondShown.mem task).symm
  refine perm.eq_of_pairwise ?_ firstShown.sorted secondShown.sorted
  intro one two oneMember twoMember le ge
  have same : one.id = two.id := id_eq_of_key (le_antisymm le ge)
  exact List.inj_on_of_nodup_map firstShown.distinct oneMember (perm.mem_iff.mpr twoMember) same

omit [Pydantic] in
/-- Sorting a list of the newest records shows the log. -/
theorem Shown.of_sort {tasks : List TaskResponse} (distinct : (tasks.map TaskResponse.id).Nodup)
    (mem : ∀ task, task ∈ tasks ↔ taskVersions.Latest records task) :
    Shown records (sortTasks tasks) where
  sorted := List.pairwise_insertionSort taskLe tasks
  distinct := (((sortTasks_perm tasks).map TaskResponse.id).nodup_iff).mpr distinct
  mem := fun task => (sortTasks_perm tasks).mem_iff.trans (mem task)

theorem taskRecords_nil : taskRecords [] = ∅ := by
  ext task
  simp [taskRecords]

theorem taskRecords_cons (event : ApplicationEvent) (events : List ApplicationEvent) :
    taskRecords (event :: events) =
      {task | readTaskEvent event = .ok (some task)} ∪ taskRecords events := by
  ext task
  simp [taskRecords]

theorem taskRecords_append (first second : List ApplicationEvent) :
    taskRecords (first ++ second) = taskRecords first ∪ taskRecords second := by
  ext task
  simp [taskRecords, or_and_right, exists_or]

theorem taskRecords_orderedEvents (events : List ApplicationEvent) :
    taskRecords (orderedEvents events) = taskRecords events := by
  ext task
  simp [taskRecords, mem_orderedEvents]

theorem readable_orderedEvents (events : List ApplicationEvent) :
    Readable (orderedEvents events) ↔ Readable events := by
  simp [Readable, mem_orderedEvents]

theorem taskRecords_finite (events : List ApplicationEvent) : (taskRecords events).Finite := by
  refine (events.filterMap fun event =>
    match readTaskEvent event with
    | .ok record => record
    | .error _ => none).finite_toSet.subset ?_
  rintro task ⟨event, member, read⟩
  exact List.mem_filterMap.mpr ⟨event, member, by rw [read]⟩

/-! ### The first loop -/

/-- The record filed under a task and a revision. -/
def ReplayState.find (state : ReplayState) (id : String) (revision : Nat) :
    Option TaskResponse :=
  (Dict.lookup id state.histories).bind (Dict.lookup revision)

/-- What the dictionaries hold once the given records were filed. -/
structure Filed (state : ReplayState) (seen : Set TaskResponse) : Prop where
  found : ∀ id revision task, state.find id revision = some task ↔
    task ∈ seen ∧ task.id = id ∧ task.revision = revision
  canonical : ∀ id revision, Dict.lookup (id, revision) state.canonicalByRevision =
    (state.find id revision).map TaskResponse.modelDump
  distinct : (Dict.keys state.histories).Nodup
  inhabited : ∀ id revisions, Dict.lookup id state.histories = some revisions →
    ∃ task ∈ seen, task.id = id

theorem filed_empty : Filed ⟨[], []⟩ ∅ where
  found := by
    intro id revision task
    constructor
    · intro impossible
      cases impossible
    · rintro ⟨impossible, -⟩
      exact impossible.elim
  canonical := fun _ _ => rfl
  distinct := List.nodup_nil
  inhabited := fun _ _ impossible => by cases impossible

theorem find_file (state : ReplayState) (task : TaskResponse) (id : String) (revision : Nat) :
    (state.file task).find id revision =
      if id = task.id ∧ revision = task.revision then some task else state.find id revision := by
  unfold ReplayState.find ReplayState.file
  by_cases sameId : id = task.id
  · subst sameId
    rw [Dict.lookup_assign_self, Option.bind_some]
    by_cases sameRevision : revision = task.revision
    · subst sameRevision
      rw [Dict.lookup_assign_self, if_pos ⟨rfl, rfl⟩]
    · rw [Dict.lookup_assign_of_ne sameRevision, if_neg fun both => sameRevision both.2]
      cases Dict.lookup task.id state.histories <;> rfl
  · rw [Dict.lookup_assign_of_ne sameId, if_neg fun both => sameId both.1]

variable {state : ReplayState} {seen : Set TaskResponse}

theorem Filed.file (filed : Filed state seen) {task : TaskResponse}
    (agrees : ∀ other ∈ seen, other.id = task.id → other.revision = task.revision → other = task) :
    Filed (state.file task) (insert task seen) where
  found := by
    intro id revision other
    rw [find_file]
    split
    · rename_i same
      obtain ⟨rfl, rfl⟩ := same
      constructor
      · intro equal
        cases equal
        exact ⟨Or.inl rfl, rfl, rfl⟩
      · rintro ⟨rfl | member, sameId, sameRevision⟩
        · rfl
        · rw [agrees other member sameId sameRevision]
    · rename_i different
      rw [filed.found]
      constructor
      · exact fun ⟨member, sameId, sameRevision⟩ => ⟨Or.inr member, sameId, sameRevision⟩
      · rintro ⟨rfl | member, sameId, sameRevision⟩
        · exact absurd ⟨sameId.symm, sameRevision.symm⟩ different
        · exact ⟨member, sameId, sameRevision⟩
  canonical := by
    intro id revision
    rw [find_file]
    by_cases same : id = task.id ∧ revision = task.revision
    · rw [if_pos same, same.1, same.2]
      exact Dict.lookup_assign_self _ _ _
    · rw [if_neg same, ← filed.canonical]
      exact Dict.lookup_assign_of_ne (fun equal => same (Prod.mk.inj equal)) _ _
  distinct := Dict.nodup_keys_assign _ filed.distinct
  inhabited := by
    intro id revisions found
    by_cases same : id = task.id
    · exact ⟨task, Or.inl rfl, same.symm⟩
    · unfold ReplayState.file at found
      rw [Dict.lookup_assign_of_ne same] at found
      obtain ⟨other, member, sameId⟩ := filed.inhabited id revisions found
      exact ⟨other, Or.inr member, sameId⟩

/-- A record is filed unless another record of its revision was. -/
theorem recordTask_spec (filed : Filed state seen) (task : TaskResponse) :
    ((∀ other ∈ seen, other.id = task.id → other.revision = task.revision → other = task) ∧
        recordTask state task = .ok (state.file task)) ∨
      ((∃ other ∈ seen, other.id = task.id ∧ other.revision = task.revision ∧ other ≠ task) ∧
        ∃ refusal, recordTask state task = .error refusal) := by
  unfold recordTask
  rw [filed.canonical]
  cases previous : state.find task.id task.revision with
  | none =>
    refine Or.inl ⟨fun other member sameId sameRevision => ?_, rfl⟩
    have present := (filed.found task.id task.revision other).mpr ⟨member, sameId, sameRevision⟩
    rw [previous] at present
    cases present
  | some other =>
    obtain ⟨member, sameId, sameRevision⟩ := (filed.found _ _ _).mp previous
    simp only [Option.map_some]
    by_cases same : other = task
    · subst same
      refine Or.inl ⟨fun third thirdMember thirdId thirdRevision => ?_, if_neg (by simp)⟩
      have present := (filed.found _ _ third).mpr ⟨thirdMember, thirdId, thirdRevision⟩
      rw [previous] at present
      exact (Option.some.inj present).symm
    · refine Or.inr ⟨⟨other, member, sameId, sameRevision, same⟩, _, if_pos fun equal => ?_⟩
      exact same (TaskResponse.modelDump_injective equal)

/-- The first loop files every record, or there is one it could not read or file. -/
theorem fileEvents_spec (filed : Filed state seen)
    (functional : Functional seen) (events : List ApplicationEvent) :
    (∃ next, fileEvents state events = .ok next ∧ Filed next (seen ∪ taskRecords events) ∧
        Readable events ∧ Functional (seen ∪ taskRecords events)) ∨
      ((∃ refusal, fileEvents state events = .error refusal) ∧
        ¬(Readable events ∧ Functional (seen ∪ taskRecords events))) := by
  induction events generalizing state seen with
  | nil =>
    rw [taskRecords_nil, Set.union_empty]
    refine Or.inl ⟨state, rfl, filed, ?_, functional⟩
    intro event impossible
    cases impossible
  | cons event rest inductionHypothesis =>
    have readableCons : Readable (event :: rest) ↔
        (∃ record, readTaskEvent event = .ok record) ∧ Readable rest := by
      simp [Readable]
    unfold fileEvents
    rw [taskRecords_cons, readableCons]
    cases read : readTaskEvent event with
    | error refusal =>
      refine Or.inr ⟨⟨refusal, rfl⟩, ?_⟩
      rintro ⟨⟨⟨_, impossible⟩, _⟩, _⟩
      cases impossible
    | ok record =>
      cases record with
      | none =>
        have none : {task : TaskResponse | (Except.ok none : Except ApplicationError _) =
            .ok (some task)} = ∅ := by
          ext task
          simp
        rw [none, Set.empty_union]
        simpa using inductionHypothesis filed functional
      | some task =>
        have single : {other : TaskResponse | (Except.ok (some task) : Except ApplicationError _) =
            .ok (some other)} = {task} := by
          ext other
          simp [eq_comm]
        have union : seen ∪ ({task} ∪ taskRecords rest) = insert task seen ∪ taskRecords rest := by
          rw [← Set.union_assoc, Set.union_singleton]
        rw [single, union]
        rcases recordTask_spec filed task with
          ⟨agrees, recorded⟩ | ⟨⟨other, member, sameId, sameRevision, different⟩, refusal, refused⟩
        · have functionalNext : Functional (insert task seen) := by
            rintro first (rfl | firstMember) second (rfl | secondMember) sameId sameRevision
            · rfl
            · exact (agrees second secondMember sameId.symm sameRevision.symm).symm
            · exact agrees first firstMember sameId sameRevision
            · exact functional first firstMember second secondMember sameId sameRevision
          simp only [recorded]
          simpa using inductionHypothesis (filed.file agrees) functionalNext
        · simp only [refused]
          refine Or.inr ⟨⟨refusal, rfl⟩, fun both => different ?_⟩
          exact both.2 other (Or.inl (Or.inr member)) task (Or.inl (Or.inl rfl)) sameId sameRevision

/-! ### The second loop -/

omit [Pydantic] in
/-- The regression check along consecutive revisions, from one that is there. -/
theorem checkRegression_ok_iff (revisions : Dict Nat TaskResponse) {start count : Nat}
    {previous : TaskResponse} (found : Dict.lookup start revisions = some previous)
    (present : ∀ revision, start < revision → revision ≤ start + count →
      ∃ task, Dict.lookup revision revisions = some task) :
    checkRegression previous.createdAt previous.updatedAt
        ((List.range' (start + 1) count).filterMap fun r => Dict.lookup r revisions) = .ok () ↔
      ∀ revision, start ≤ revision → revision < start + count → ∀ first second,
        Dict.lookup revision revisions = some first →
        Dict.lookup (revision + 1) revisions = some second → taskVersions.follows first second := by
  induction count generalizing start previous with
  | zero =>
    refine ⟨fun _ revision above below => ?_, fun _ => rfl⟩
    omega
  | succ count inductionHypothesis =>
    obtain ⟨task, taskFound⟩ := present (start + 1) (by omega) (by omega)
    have later := inductionHypothesis taskFound fun revision above below =>
      present revision (by omega) (by omega)
    rw [List.range'_succ, List.filterMap_cons, taskFound]
    show (if task.createdAt ≠ previous.createdAt ∨ task.updatedAt < previous.updatedAt then _
      else _) = _ ↔ _
    by_cases regressed : task.createdAt ≠ previous.createdAt ∨ task.updatedAt < previous.updatedAt
    · rw [if_pos regressed]
      constructor
      · intro impossible
        cases impossible
      · intro linked
        obtain ⟨created, updated⟩ := linked start le_rfl (by omega) previous task found taskFound
        rcases regressed with different | earlier
        · exact absurd created.symm different
        · exact absurd earlier (not_lt.mpr updated)
    · rw [if_neg regressed]
      obtain ⟨created, updated⟩ := not_or.mp regressed
      rw [not_not] at created
      rw [← created, later]
      constructor
      · intro linked revision above below first second firstFound secondFound
        rcases Nat.eq_or_lt_of_le above with same | above
        · subst same
          rw [found] at firstFound
          rw [taskFound] at secondFound
          cases firstFound
          cases secondFound
          exact ⟨created.symm, not_lt.mp updated⟩
        · exact linked revision above (by omega) first second firstFound secondFound
      · exact fun linked revision above below => linked revision (by omega) (by omega)

/-- Revisions from one up to the highest, each following from the one before. -/
structure History (revisions : Dict Nat TaskResponse) (highest : Nat) : Prop where
  present : ∀ revision, (∃ task, Dict.lookup revision revisions = some task) ↔
    1 ≤ revision ∧ revision ≤ highest
  linked : ∀ revision first second, Dict.lookup revision revisions = some first →
    Dict.lookup (revision + 1) revisions = some second → taskVersions.follows first second

variable {revisions : Dict Nat TaskResponse}

section

omit [Pydantic]

/-- The completeness check asks for exactly the revisions from one up to the highest. -/
theorem completeness_iff (revisions : Dict Nat TaskResponse) :
    ((Dict.keys revisions).all
          (List.range' 1 ((Dict.keys revisions).max?.getD 0)).contains = true ∧
        (List.range' 1 ((Dict.keys revisions).max?.getD 0)).all
          (Dict.keys revisions).contains = true) ↔
      ∀ revision, (∃ task, Dict.lookup revision revisions = some task) ↔
        1 ≤ revision ∧ revision ≤ (Dict.keys revisions).max?.getD 0 := by
  simp only [List.all_eq_true, List.contains_iff_mem, ← Dict.mem_keys_iff, List.mem_range'_1]
  constructor
  · rintro ⟨inside, outside⟩ revision
    refine ⟨fun member => ?_, fun bounds => outside revision (by omega)⟩
    have := inside revision member
    omega
  · intro exactly
    refine ⟨fun revision member => ?_, fun revision bounds => (exactly revision).mpr (by omega)⟩
    have := (exactly revision).mp member
    omega

/-- The highest revision of a history is the largest of its keys. -/
theorem History.highest_eq {highest : Nat}
    (history : History revisions highest) (positive : 1 ≤ highest) :
    (Dict.keys revisions).max?.getD 0 = highest := by
  have top : highest ∈ Dict.keys revisions :=
    (Dict.mem_keys_iff _ _).mpr ((history.present highest).mpr ⟨positive, le_rfl⟩)
  have largest : (Dict.keys revisions).max? = some highest := by
    rw [List.max?_eq_some_iff]
    refine ⟨top, fun revision member => ?_⟩
    exact ((history.present revision).mp ((Dict.mem_keys_iff _ _).mp member)).2
  rw [largest]
  rfl

/-- The second loop accepts exactly the histories and returns their last record. -/
theorem closeHistory_ok_iff (revisions : Dict Nat TaskResponse) (current : TaskResponse) :
    closeHistory revisions = .ok current ↔
      ∃ highest, History revisions highest ∧ Dict.lookup highest revisions = some current := by
  have unfolded : ∀ highest, 1 ≤ highest → (Dict.keys revisions).max?.getD 0 = highest →
      (∀ revision, (∃ task, Dict.lookup revision revisions = some task) ↔
        1 ≤ revision ∧ revision ≤ highest) →
      (closeHistory revisions = .ok current ↔
        History revisions highest ∧ Dict.lookup highest revisions = some current) := by
    intro highest positive largest present
    obtain ⟨count, rfl⟩ : ∃ count, highest = count + 1 := ⟨highest - 1, by omega⟩
    obtain ⟨first, firstFound⟩ := (present 1).mpr ⟨le_rfl, positive⟩
    obtain ⟨last, lastFound⟩ := (present (count + 1)).mpr ⟨positive, le_rfl⟩
    have ordered : (List.range' 1 (count + 1)).filterMap (fun r => Dict.lookup r revisions) =
        first :: (List.range' 2 count).filterMap fun r => Dict.lookup r revisions := by
      rw [List.range'_succ, List.filterMap_cons, firstFound]
    have lastOf : ((List.range' 2 count).filterMap
        fun r => Dict.lookup r revisions).getLast?.getD first = last := by
      have whole := congrArg List.getLast? ordered
      rw [List.getLast?_cons, List.range'_concat, List.filterMap_append,
        List.filterMap_cons, Nat.one_mul, Nat.add_comm 1 count, lastFound, List.filterMap_nil,
        List.getLast?_concat] at whole
      exact (Option.some.inj whole).symm
    have check := @checkRegression_ok_iff revisions 1 count first firstFound
      fun revision above below => (present revision).mpr ⟨by omega, by omega⟩
    have complete := (completeness_iff revisions).mpr (by rw [largest]; exact present)
    unfold closeHistory
    rw [largest] at complete ⊢
    rw [if_pos complete, ordered]
    simp only
    cases checked : checkRegression first.createdAt first.updatedAt
        ((List.range' 2 count).filterMap fun r => Dict.lookup r revisions) with
    | error refusal =>
      rw [checked] at check
      constructor
      · intro impossible
        cases impossible
      · rintro ⟨history, _⟩
        have := check.mpr fun revision _ _ => history.linked revision
        cases this
    | ok _ =>
      have linked := check.mp checked
      rw [lastOf, lastFound]
      constructor
      · intro same
        cases same
        refine ⟨⟨present, fun revision one two oneFound twoFound => ?_⟩, rfl⟩
        have := (present revision).mp ⟨one, oneFound⟩
        have := (present (revision + 1)).mp ⟨two, twoFound⟩
        exact linked revision (by omega) (by omega) one two oneFound twoFound
      · rintro ⟨_, same⟩
        cases same
        rfl
  constructor
  · intro closed
    by_cases complete : (Dict.keys revisions).all
          (List.range' 1 ((Dict.keys revisions).max?.getD 0)).contains = true ∧
        (List.range' 1 ((Dict.keys revisions).max?.getD 0)).all
          (Dict.keys revisions).contains = true
    · by_cases positive : 1 ≤ (Dict.keys revisions).max?.getD 0
      · exact ⟨_, (unfolded _ positive rfl ((completeness_iff revisions).mp complete)).mp closed⟩
      · have zero : (Dict.keys revisions).max?.getD 0 = 0 := by omega
        unfold closeHistory at closed
        rw [if_pos complete, zero] at closed
        cases closed
    · unfold closeHistory at closed
      rw [if_neg complete] at closed
      cases closed
  · rintro ⟨highest, history, found⟩
    have positive := ((history.present highest).mp ⟨current, found⟩).1
    exact (unfolded highest positive (history.highest_eq positive) history.present).mpr
      ⟨history, found⟩

theorem closeHistories_cons_ok_iff (history : String × Dict Nat TaskResponse)
    (rest : Dict String (Dict Nat TaskResponse)) (tasks : List TaskResponse) :
    closeHistories (history :: rest) = .ok tasks ↔ ∃ task others,
      closeHistory history.2 = .ok task ∧ closeHistories rest = .ok others ∧
        tasks = task :: others := by
  rw [closeHistories]
  cases closeHistory history.2 <;> cases closeHistories rest <;> simp [eq_comm]

/-- When all histories close, they close one by one, in order. -/
theorem closeHistories_ok_iff (histories : Dict String (Dict Nat TaskResponse))
    (tasks : List TaskResponse) :
    closeHistories histories = .ok tasks ↔
      List.Forall₂ (fun history task => closeHistory history.2 = .ok task) histories tasks := by
  induction histories generalizing tasks with
  | nil => simp [closeHistories, eq_comm]
  | cons history rest inductionHypothesis =>
    rw [closeHistories_cons_ok_iff, List.forall₂_cons_left_iff]
    simp only [inductionHypothesis]

/-- A member of one of two related lists has a partner in the other. -/
theorem exists_partner {First Second : Type*} {related : First → Second → Prop}
    {firsts : List First} {seconds : List Second} (pairs : List.Forall₂ related firsts seconds)
    {first : First} (member : first ∈ firsts) : ∃ second ∈ seconds, related first second := by
  induction pairs with
  | nil => cases member
  | cons head _ inductionHypothesis =>
    rcases List.mem_cons.mp member with rfl | inside
    · exact ⟨_, List.mem_cons_self, head⟩
    · obtain ⟨second, secondMember, pair⟩ := inductionHypothesis inside
      exact ⟨second, List.mem_cons_of_mem _ secondMember, pair⟩

theorem closeHistories_total {histories : Dict String (Dict Nat TaskResponse)}
    (each : ∀ history ∈ histories, ∃ task, closeHistory history.2 = .ok task) :
    ∃ tasks, closeHistories histories = .ok tasks := by
  induction histories with
  | nil => exact ⟨[], rfl⟩
  | cons history rest inductionHypothesis =>
    obtain ⟨task, closedHead⟩ := each history List.mem_cons_self
    obtain ⟨others, closedRest⟩ :=
      inductionHypothesis fun other member => each other (List.mem_cons_of_mem _ member)
    exact ⟨task :: others, (closeHistories_cons_ok_iff _ _ _).mpr
      ⟨task, others, closedHead, closedRest, rfl⟩⟩

end

/-- The items filed under a task are its records. -/
theorem Filed.lookup_iff
    (filed : Filed state records) {id : String}
    (entry : Dict.lookup id state.histories = some revisions) (revision : Nat)
    (task : TaskResponse) : Dict.lookup revision revisions = some task ↔
      task ∈ records ∧ task.id = id ∧ task.revision = revision := by
  rw [← filed.found]
  unfold ReplayState.find
  rw [entry, Option.bind_some]

theorem Filed.entry_of_mem
    (filed : Filed state records) {task : TaskResponse} (member : task ∈ records) :
    ∃ revisions, Dict.lookup task.id state.histories = some revisions := by
  have found := (filed.found task.id task.revision task).mpr ⟨member, rfl, rfl⟩
  unfold ReplayState.find at found
  cases entry : Dict.lookup task.id state.histories with
  | none =>
    rw [entry] at found
    cases found
  | some revisions => exact ⟨revisions, rfl⟩

/-- What a history that closes says about the records of its task. -/
theorem Filed.closed (filed : Filed state records) {id : String}
    (entry : Dict.lookup id state.histories = some revisions) {current : TaskResponse}
    (closed : closeHistory revisions = .ok current) :
    taskVersions.Latest records current ∧ current.id = id ∧
      ∀ task ∈ records, task.id = id → 1 < task.revision → ∃ previous ∈ records,
        previous.id = task.id ∧ previous.revision + 1 = task.revision ∧
          taskVersions.follows previous task := by
  obtain ⟨highest, history, found⟩ := (closeHistory_ok_iff revisions current).mp closed
  obtain ⟨member, sameId, top⟩ := (filed.lookup_iff entry highest current).mp found
  refine ⟨⟨member, ?_⟩, sameId, ?_⟩
  · intro task taskMember same
    have present := (filed.lookup_iff entry task.revision task).mpr
      ⟨taskMember, same.trans sameId, rfl⟩
    have := ((history.present task.revision).mp ⟨task, present⟩).2
    show task.revision ≤ current.revision
    omega
  · intro task taskMember taskId later
    have present := (filed.lookup_iff entry task.revision task).mpr ⟨taskMember, taskId, rfl⟩
    have bounds := (history.present task.revision).mp ⟨task, present⟩
    obtain ⟨previous, previousFound⟩ :=
      (history.present (task.revision - 1)).mpr ⟨by omega, by omega⟩
    obtain ⟨previousMember, previousId, previousRevision⟩ :=
      (filed.lookup_iff entry _ previous).mp previousFound
    have next : task.revision - 1 + 1 = task.revision := by omega
    refine ⟨previous, previousMember, previousId.trans taskId.symm, by omega, ?_⟩
    exact history.linked _ previous task previousFound (by rw [next]; exact present)

/-- In a sound log the history of a task closes with its newest record. -/
theorem Filed.closes
    (filed : Filed state records) (sound : taskVersions.Sound records) {id : String}
    (entry : Dict.lookup id state.histories = some revisions) {current : TaskResponse}
    (latest : taskVersions.Latest records current) (sameId : current.id = id) :
    closeHistory revisions = .ok current := by
  rw [closeHistory_ok_iff]
  refine ⟨current.revision, ⟨fun revision => ⟨?_, ?_⟩, ?_⟩, ?_⟩
  · rintro ⟨task, found⟩
    obtain ⟨member, taskId, rfl⟩ := (filed.lookup_iff entry revision task).mp found
    exact ⟨sound.positive task member, latest.newest task member (taskId.trans sameId.symm)⟩
  · rintro ⟨positive, below⟩
    obtain ⟨task, member, taskId, rfl⟩ := sound.exists_version latest.member positive below
    exact ⟨task, (filed.lookup_iff entry _ task).mpr ⟨member, taskId.trans sameId, rfl⟩⟩
  · intro revision first second firstFound secondFound
    obtain ⟨firstMember, firstId, firstRevision⟩ := (filed.lookup_iff entry _ _).mp firstFound
    obtain ⟨secondMember, secondId, secondRevision⟩ := (filed.lookup_iff entry _ _).mp secondFound
    have later : 1 < second.revision := by
      have := sound.positive first firstMember
      have : taskVersions.version first = first.revision := rfl
      omega
    obtain ⟨previous, previousMember, same, next, follows⟩ :=
      sound.gapless second secondMember later
    have sameRevision : previous.revision = first.revision := by
      have : taskVersions.version previous = previous.revision := rfl
      have : taskVersions.version second = second.revision := rfl
      omega
    have sameRecord : previous = first := sound.functional previous previousMember first firstMember
      (same.trans (secondId.trans firstId.symm)) sameRevision
    rwa [sameRecord] at follows
  · exact (filed.lookup_iff entry _ current).mpr ⟨latest.member, sameId, rfl⟩

/-! ### The replay -/

/-- The records the histories close with carry the tasks they are filed under. -/
theorem Filed.ids_of_closed
    (filed : Filed state records) {histories : Dict String (Dict Nat TaskResponse)}
    {tasks : List TaskResponse} (inside : ∀ history ∈ histories, history ∈ state.histories)
    (related : List.Forall₂ (fun history task => closeHistory history.2 = .ok task) histories tasks) :
    tasks.map TaskResponse.id = Dict.keys histories := by
  induction related with
  | nil => rfl
  | @cons history task histories tasks closedHead _ inductionHypothesis =>
    have entry := (Dict.mem_iff_lookup filed.distinct _ _).mp
      (inside history List.mem_cons_self)
    rw [List.map_cons, inductionHypothesis fun other member =>
      inside other (List.mem_cons_of_mem _ member), (filed.closed entry closedHead).2.1]
    rfl

/-- When the histories close, the log is sound and the records they close with show it. -/
theorem Filed.shown_of_closed
    (filed : Filed state records) (functional : Functional records) {current : List TaskResponse}
    (closed : closeHistories state.histories = .ok current) :
    taskVersions.Sound records ∧ Shown records (sortTasks current) := by
  have related := (closeHistories_ok_iff _ _).mp closed
  have entryOf : ∀ history ∈ state.histories,
      Dict.lookup history.1 state.histories = some history.2 :=
    fun history member => (Dict.mem_iff_lookup filed.distinct _ _).mp member
  have closesTo : ∀ task ∈ records, ∃ last ∈ current, taskVersions.Latest records last ∧
      last.id = task.id ∧ (1 < task.revision → ∃ previous ∈ records, previous.id = task.id ∧
        previous.revision + 1 = task.revision ∧ taskVersions.follows previous task) := by
    intro task member
    obtain ⟨revisions, entry⟩ := filed.entry_of_mem member
    have inside := (Dict.mem_iff_lookup filed.distinct _ _).mpr entry
    obtain ⟨last, lastMember, closedEntry⟩ := exists_partner related inside
    obtain ⟨latest, sameId, linked⟩ := filed.closed entry closedEntry
    exact ⟨last, lastMember, latest, sameId, linked task member rfl⟩
  have sound : taskVersions.Sound records := by
    refine ⟨fun task _ => task.positive, functional, fun task member later => ?_⟩
    obtain ⟨-, -, -, -, linked⟩ := closesTo task member
    exact linked later
  have ids := filed.ids_of_closed (fun _ member => member) related
  refine ⟨sound, Shown.of_sort (by rw [ids]; exact filed.distinct) fun task => ⟨?_, ?_⟩⟩
  · intro member
    obtain ⟨history, historyMember, closedEntry⟩ := exists_partner related.flip member
    exact (filed.closed (entryOf history historyMember) closedEntry).1
  · intro latest
    obtain ⟨last, lastMember, lastLatest, sameId, -⟩ := closesTo task latest.member
    rwa [latest.unique sound lastLatest sameId.symm]

/-- In a sound log every history closes. -/
theorem Filed.closes_all {events : List ApplicationEvent}
    (filed : Filed state (taskRecords events)) (sound : taskVersions.Sound (taskRecords events)) :
    ∃ current, closeHistories state.histories = .ok current := by
  refine closeHistories_total fun history member => ?_
  have entry := (Dict.mem_iff_lookup filed.distinct _ _).mp member
  obtain ⟨task, taskMember, taskId⟩ := filed.inhabited _ _ entry
  obtain ⟨current, latest, currentId⟩ :=
    Versioning.exists_latest (taskRecords_finite events) taskMember
  exact ⟨current, filed.closes sound entry latest (currentId.trans taskId)⟩

/-- The replay succeeds exactly on timelines whose task events can be read and whose records are
a sound log of versions, and returns the newest record of every task. -/
theorem taskSnapshots_ok_iff (events : List ApplicationEvent) (tasks : List TaskResponse) :
    taskSnapshots events = .ok tasks ↔
      Readable events ∧ taskVersions.Sound (taskRecords events) ∧
        Shown (taskRecords events) tasks := by
  have noRecords : Functional ∅ := fun _ impossible => impossible.elim
  unfold taskSnapshots
  rcases fileEvents_spec filed_empty noRecords events with
    ⟨state, ran, filed, readable, functional⟩ | ⟨⟨refusal, ran⟩, unsound⟩
  · rw [Set.empty_union] at filed functional
    rw [ran]
    cases closed : closeHistories state.histories with
    | error refusal =>
      refine ⟨fun impossible => ?_, fun ⟨_, sound, _⟩ => ?_⟩
      · simp only [closed] at impossible
        cases impossible
      · obtain ⟨current, success⟩ := filed.closes_all sound
        rw [closed] at success
        cases success
    | ok current =>
      obtain ⟨sound, shown⟩ := filed.shown_of_closed functional closed
      simp only [closed]
      constructor
      · intro same
        cases same
        exact ⟨readable, sound, shown⟩
      · rintro ⟨_, _, other⟩
        rw [shown.unique other]
  · rw [Set.empty_union] at unsound
    rw [ran]
    constructor
    · intro impossible
      cases impossible
    · rintro ⟨readable, sound, _⟩
      exact absurd ⟨readable, sound.functional⟩ unsound

end

end CareerOS
