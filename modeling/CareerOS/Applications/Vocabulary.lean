/-
This file is the vocabulary of the application pipeline: its stages and the
moves between them, the kinds of timeline events, and the priorities and states
of a task, each with the word it is stored under.
-/

namespace CareerOS

/-- `ApplicationStage`. -/
inductive Stage
  | saved
  | preparing
  | applied
  | screening
  | interview
  | offer
  | accepted
  | rejected
  | withdrawn
  | archived
  deriving DecidableEq

/-- `TRANSITIONS`. -/
def transitions : Stage → List Stage
  | .saved => [.preparing, .applied, .withdrawn, .archived]
  | .preparing => [.saved, .applied, .withdrawn, .archived]
  | .applied => [.screening, .interview, .rejected, .withdrawn, .archived]
  | .screening => [.interview, .offer, .rejected, .withdrawn, .archived]
  | .interview => [.interview, .offer, .rejected, .withdrawn, .archived]
  | .offer => [.accepted, .rejected, .withdrawn, .archived]
  | .accepted => [.archived]
  | .rejected => [.archived]
  | .withdrawn => [.archived]
  | .archived => []

def Stage.name : Stage → String
  | .saved => "saved"
  | .preparing => "preparing"
  | .applied => "applied"
  | .screening => "screening"
  | .interview => "interview"
  | .offer => "offer"
  | .accepted => "accepted"
  | .rejected => "rejected"
  | .withdrawn => "withdrawn"
  | .archived => "archived"

/-- `InitialApplicationStage`. -/
def Stage.isInitial (stage : Stage) : Bool := [Stage.saved, .preparing, .applied].contains stage

/-- `ApplicationEventType`. -/
inductive EventType
  | stage
  | note
  | task
  | contact
  | interview
  | preparation
  | taskCreated
  | taskUpdated
  | taskCompleted
  | taskReopened
  | taskCancelled
  | dossierPublished
  deriving DecidableEq

/-- `ApplicationEventInputType`. -/
def EventType.isInput (kind : EventType) : Bool :=
  [EventType.stage, .note, .task, .contact, .interview].contains kind

/-- The events the replay of tasks reads. -/
def EventType.isTask (kind : EventType) : Bool :=
  [EventType.taskCreated, .taskUpdated, .taskCompleted, .taskReopened, .taskCancelled].contains
    kind

/-- The kinds whose request needs a note. -/
def EventType.needsNote (kind : EventType) : Bool :=
  [EventType.note, .contact, .interview].contains kind

/-- `ApplicationTaskPriority`. -/
inductive TaskPriority
  | low
  | normal
  | high
  | urgent
  deriving DecidableEq

def TaskPriority.name : TaskPriority → String
  | .low => "low"
  | .normal => "normal"
  | .high => "high"
  | .urgent => "urgent"

/-- `{"urgent": 0, "high": 1, "normal": 2, "low": 3}`. -/
def TaskPriority.order : TaskPriority → Nat
  | .urgent => 0
  | .high => 1
  | .normal => 2
  | .low => 3

/-- `ApplicationTaskStatus`. -/
inductive TaskStatus
  | pending
  | completed
  | cancelled
  deriving DecidableEq

def TaskStatus.name : TaskStatus → String
  | .pending => "pending"
  | .completed => "completed"
  | .cancelled => "cancelled"

/-- The priority stored under a word. -/
def TaskPriority.ofName (name : String) : Option TaskPriority :=
  [TaskPriority.low, .normal, .high, .urgent].find? fun priority => priority.name = name

/-- The status stored under a word. -/
def TaskStatus.ofName (name : String) : Option TaskStatus :=
  [TaskStatus.pending, .completed, .cancelled].find? fun status => status.name = name

@[simp] theorem TaskPriority.ofName_name (priority : TaskPriority) :
    TaskPriority.ofName priority.name = some priority := by
  cases priority <;> rfl

@[simp] theorem TaskStatus.ofName_name (status : TaskStatus) :
    TaskStatus.ofName status.name = some status := by
  cases status <;> rfl

end CareerOS
