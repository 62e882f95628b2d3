/-
This file is the stored state of one application: its row with the columns that
project the timeline, and the append-only timeline itself. Reading the timeline
orders it by when the events occurred and, among those, by when they were
recorded.
-/

import CareerOS.Applications.Tasks

namespace CareerOS

/-- The exceptions of the application service, with their messages. -/
inductive ApplicationError
  | notFound (detail : String)
  | conflict (detail : String)
  | validation (detail : String)
  /-- The `OverflowError` of a number no integer column holds. -/
  | overflow
  deriving DecidableEq

/-- The largest number an integer column holds. -/
def maxInteger : Nat := 2 ^ 63 - 1

/-- `ApplicationEvent`. -/
structure ApplicationEvent where
  eventType : EventType
  stage : Option Stage
  occurredAt : DateTime
  note : Option String
  payload : Dict String Json
  createdAt : DateTime
  deriving DecidableEq

/-- The columns that project the first pending task. -/
structure NextActionColumns where
  taskId : Option String
  title : Option String
  dueAt : Option DateTime
  priority : Option TaskPriority
  deriving DecidableEq

/-- `_projection`. -/
def projection (nextAction : Option TaskResponse) : NextActionColumns where
  taskId := nextAction.map TaskResponse.id
  title := nextAction.map TaskResponse.title
  dueAt := nextAction.bind TaskResponse.dueAt
  priority := nextAction.map TaskResponse.priority

/-- `Application`, with its events in the order they were appended. -/
structure Application where
  jobId : Option Nat
  scrapedJobId : Option Nat
  resumeVersionId : Option String
  revision : Nat
  currentStage : Stage
  jobSnapshot : Dict String Json
  jobTitle : String
  jobCompany : String
  jobLocation : Option String
  latestEventAt : DateTime
  nextAction : NextActionColumns
  events : List ApplicationEvent
  deriving DecidableEq

/-- `order_by="ApplicationEvent.occurred_at, ApplicationEvent.created_at"`. -/
def ApplicationEvent.orderKey (event : ApplicationEvent) : DateTime ×ₗ DateTime :=
  toLex (event.occurredAt, event.createdAt)

/-- The timeline as it is read; events of one moment keep the order they were appended in. -/
def orderedEvents (events : List ApplicationEvent) : List ApplicationEvent :=
  events.insertionSort fun first second => first.orderKey ≤ second.orderKey

theorem mem_orderedEvents {event : ApplicationEvent} {events : List ApplicationEvent} :
    event ∈ orderedEvents events ↔ event ∈ events :=
  (List.perm_insertionSort _ events).mem_iff

/-- The stage of a stage event. -/
def ApplicationEvent.stageReached (event : ApplicationEvent) : Option Stage :=
  if event.eventType = .stage then event.stage else none

/-- The stages an application went through, in the order their events were appended. -/
def Application.stages (application : Application) : List Stage :=
  application.events.filterMap ApplicationEvent.stageReached

/-! ### The columns that project the snapshot -/

/-- `str(snapshot.get(key) or fallback)` for a key that holds a text or null. -/
def snapshotText (key fallback : String) (snapshot : Dict String Json) : String :=
  match Dict.lookup key snapshot with
  | some (.str text) => Text.orElse text fallback
  | _ => fallback

/-- `str(snapshot["location"])[:500] if snapshot.get("location") is not None else None`. -/
def projectedLocation (snapshot : Dict String Json) : Option String :=
  match Dict.lookup "location" snapshot with
  | some (.str text) => some (Text.slice text 500)
  | _ => none

def projectedTitle (snapshot : Dict String Json) : String :=
  Text.slice (snapshotText "title" "Untitled role" snapshot) 240

def projectedCompany (snapshot : Dict String Json) : String :=
  Text.slice (snapshotText "company" "Unknown company" snapshot) 240

end CareerOS
