/-
This file is the task as it is kept in the timeline: the record a task event
carries, how it is written into the payload of the event and read back, and the
order in which tasks are shown.

A task record cannot be built without a canonical identifier and a positive
revision, which is what its schema checks on every read.
-/

import CareerOS.Applications.Vocabulary
import CareerOS.Library.Pydantic
import CareerOS.Library.Text

namespace CareerOS

/-- `ApplicationTaskResponse`. -/
structure TaskResponse where
  id : String
  title : String
  status : TaskStatus
  priority : TaskPriority
  dueAt : Option DateTime
  reminderAt : Option DateTime
  completedAt : Option DateTime
  revision : Nat
  createdAt : DateTime
  updatedAt : DateTime
  canonical : canonicalUuid id = true
  positive : 1 ≤ revision
  deriving DecidableEq

namespace TaskResponse

variable [Pydantic]

/-- A time that may be missing, in a JSON document. -/
def dumpTime (moment : Option DateTime) : Json :=
  match moment with
  | some moment => .str (Pydantic.dumpDateTime moment)
  | none => .null

/-- The items of a task record. -/
def dumpFields (task : TaskResponse) : Dict String Json := [
  ("id", .str task.id),
  ("title", .str task.title),
  ("status", .str task.status.name),
  ("priority", .str task.priority.name),
  ("due_at", dumpTime task.dueAt),
  ("reminder_at", dumpTime task.reminderAt),
  ("completed_at", dumpTime task.completedAt),
  ("revision", .int task.revision),
  ("created_at", .str (Pydantic.dumpDateTime task.createdAt)),
  ("updated_at", .str (Pydantic.dumpDateTime task.updatedAt))]

/-- `model_dump(mode="json")`. -/
def modelDump (task : TaskResponse) : Json := .obj task.dumpFields

/-- The fields of the schema. -/
def modelFields : List String :=
  ["id", "title", "status", "priority", "due_at", "reminder_at", "completed_at", "revision",
    "created_at", "updated_at"]

/-- A required field that must be a string. -/
def readText (key : String) (fields : Dict String Json) : Option String :=
  match Dict.lookup key fields with
  | some (.str text) => some text
  | _ => none

/-- A required field that may be null. -/
def readTime (mode : ReadMode) (key : String) (fields : Dict String Json) :
    Option (Option DateTime) :=
  match Dict.lookup key fields with
  | none => none
  | some .null => some none
  | some value => (Pydantic.readDateTime mode value).map some

/-- A required field that may not be null. -/
def readMoment (mode : ReadMode) (key : String) (fields : Dict String Json) :
    Option DateTime :=
  (Dict.lookup key fields).bind (Pydantic.readDateTime mode)

/-- `model_validate`; nothing stands for the `ValidationError`. -/
def modelValidate (mode : ReadMode) (value : Json) : Option TaskResponse :=
  match value with
  | .obj fields => do
    let id ← readText "id" fields
    let title ← readText "title" fields
    let status ← (readText "status" fields).bind TaskStatus.ofName
    let priority ← (readText "priority" fields).bind TaskPriority.ofName
    let dueAt ← readTime mode "due_at" fields
    let reminderAt ← readTime mode "reminder_at" fields
    let completedAt ← readTime mode "completed_at" fields
    let revision ← (Dict.lookup "revision" fields).bind (Pydantic.readInt mode)
    let createdAt ← readMoment mode "created_at" fields
    let updatedAt ← readMoment mode "updated_at" fields
    if canonical : canonicalUuid id = true then
      if positive : 1 ≤ revision.toNat then
        some ⟨id, title, status, priority, dueAt, reminderAt, completedAt, revision.toNat, createdAt,
          updatedAt, canonical, positive⟩
      else none
    else none
  | _ => none

theorem readTime_dumpTime (mode : ReadMode) (key : String) (moment : Option DateTime)
    (fields : Dict String Json) (found : Dict.lookup key fields = some (dumpTime moment)) :
    readTime mode key fields = some moment := by
  unfold readTime
  rw [found]
  cases moment with
  | none => rfl
  | some moment =>
    show (Pydantic.readDateTime mode (.str (Pydantic.dumpDateTime moment))).map some = _
    rw [Pydantic.readDateTime_dump]
    rfl

/-- A task read from what was written for it is the task, in either mode. -/
@[simp] theorem modelValidate_modelDump (mode : ReadMode) (task : TaskResponse) :
    modelValidate mode task.modelDump = some task := by
  unfold modelDump dumpFields modelValidate
  simp only
  rw [readTime_dumpTime mode "due_at" task.dueAt _ (by simp),
    readTime_dumpTime mode "reminder_at" task.reminderAt _ (by simp),
    readTime_dumpTime mode "completed_at" task.completedAt _ (by simp)]
  simp only [readText, readMoment, Dict.lookup_cons, String.reduceEq, if_true, if_false,
    Option.bind_eq_bind, Option.bind_some, TaskStatus.ofName_name, TaskPriority.ofName_name,
    Pydantic.readInt_int, Pydantic.readDateTime_dump, Int.toNat_natCast]
  rw [dif_pos task.canonical, dif_pos task.positive]

/-- Two tasks with one text are one task. -/
theorem modelDump_injective : Function.Injective modelDump := by
  intro first second same
  have read := modelValidate_modelDump .lax first
  rw [same, modelValidate_modelDump] at read
  exact (Option.some.inj read).symm

omit [Pydantic] in
theorem id_length (task : TaskResponse) : task.id.length = 36 :=
  length_of_canonicalUuid task.canonical

end TaskResponse

/-! ### The order tasks are shown in -/

/-- The first component of a task's key: pending tasks come first. -/
def TaskResponse.settled (task : TaskResponse) : Bool := decide (task.status ≠ .pending)

/-- `_task_sort_key`. -/
def taskSortKey (task : TaskResponse) : Bool ×ₗ DateTime ×ₗ Nat ×ₗ DateTime ×ₗ String :=
  toLex (task.settled, toLex (task.dueAt.getD DateTime.max, toLex (task.priority.order,
    toLex (task.createdAt, task.id))))

/-- Not after in the order of the keys. -/
def taskLe (first second : TaskResponse) : Prop := taskSortKey first ≤ taskSortKey second

instance : DecidableRel taskLe := fun first second =>
  inferInstanceAs (Decidable (taskSortKey first ≤ taskSortKey second))

/-- `sorted(tasks, key=_task_sort_key)`. -/
def sortTasks (tasks : List TaskResponse) : List TaskResponse := tasks.insertionSort taskLe

/-- `_next_action`: the first pending task of a sorted list. -/
def nextAction (tasks : List TaskResponse) : Option TaskResponse :=
  tasks.find? fun task => task.status = .pending

instance : Std.Total taskLe := ⟨fun first second => le_total (taskSortKey first) (taskSortKey second)⟩

instance : IsTrans TaskResponse taskLe :=
  ⟨fun first second third => le_trans (a := taskSortKey first) (b := taskSortKey second)
    (c := taskSortKey third)⟩

theorem sortTasks_perm (tasks : List TaskResponse) : (sortTasks tasks).Perm tasks :=
  List.perm_insertionSort taskLe tasks

theorem id_eq_of_key {first second : TaskResponse} (same : taskSortKey first = taskSortKey second) :
    first.id = second.id := by
  have fields := congrArg (fun key => (ofLex (ofLex (ofLex (ofLex key).2).2).2).2) same
  exact fields

end CareerOS
