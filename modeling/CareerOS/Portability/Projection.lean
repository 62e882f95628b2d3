/-
This file is the projection of an application that a restore recomputes from the
snapshot and the timeline, and the row a restore writes: what the archive holds
of the row is compared with the recomputed columns, and then the columns are the
recomputed ones. The snapshot crosses the restore without its match, and the
identifiers of the listing are mapped to those of the new vault.
-/

import CareerOS.Applications.Snapshots
import CareerOS.Applications.TaskReplay
import CareerOS.Library.Outcome

namespace CareerOS

/-- The columns that project an application's snapshot and timeline. -/
structure CanonicalProjection where
  jobTitle : String
  jobCompany : String
  jobLocation : Option String
  latestEventAt : DateTime
  nextAction : NextActionColumns
  deriving DecidableEq

/-- The columns an application holds. -/
def Application.projected (application : Application) : CanonicalProjection where
  jobTitle := application.jobTitle
  jobCompany := application.jobCompany
  jobLocation := application.jobLocation
  latestEventAt := application.latestEventAt
  nextAction := application.nextAction

/-- The latest moment of a timeline. -/
def latestOccurrence (events : List ApplicationEvent) : Except String DateTime :=
  match (events.map ApplicationEvent.occurredAt).max? with
  | none => .error "Archive application must contain at least one timeline event"
  | some latest => .ok latest

/-- The moments of a timeline. -/
def occurrences (events : List ApplicationEvent) : Set DateTime :=
  {moment | ∃ event ∈ events, event.occurredAt = moment}

variable {events : List ApplicationEvent}

theorem latestOccurrence_ok_iff {latest : DateTime} :
    latestOccurrence events = .ok latest ↔ IsGreatest (occurrences events) latest := by
  have greatest : IsGreatest (occurrences events) latest ↔
      (events.map ApplicationEvent.occurredAt).max? = some latest := by
    rw [List.max?_eq_some_iff]
    simp [IsGreatest, occurrences, upperBounds]
  rw [greatest]
  unfold latestOccurrence
  cases (events.map ApplicationEvent.occurredAt).max? <;> simp

/-- The replay of the tasks, with the refusal of a restore. -/
def archivedTasks [Pydantic] (events : List ApplicationEvent) :
    Except String (List TaskResponse) :=
  match taskSnapshots events with
  | .error _ => .error "Archive application task history is invalid"
  | .ok tasks => .ok tasks

/-- `_canonical_application_projection_parts`. -/
def canonicalProjection [Pydantic] (snapshot : Dict String Json)
    (events : List ApplicationEvent) : Except String CanonicalProjection := do
  let latest ← latestOccurrence events
  let tasks ← archivedTasks events
  return {
    jobTitle := projectedTitle snapshot
    jobCompany := projectedCompany snapshot
    jobLocation := projectedLocation snapshot
    latestEventAt := latest
    nextAction := projection (nextAction tasks) }

/-- `_rebuild_application_projections` for one application. The archive holds the columns it was
exported with, or none of them. -/
def rebuildProjection [Pydantic] (archived : Option CanonicalProjection)
    (application : Application) : Except String Application := do
  let canonical ← canonicalProjection application.jobSnapshot (orderedEvents application.events)
  refuseWhen (archived.any fun columns => columns ≠ canonical)
    "Archive application projections are inconsistent with its snapshot or timeline"
  return { application with
    jobTitle := canonical.jobTitle
    jobCompany := canonical.jobCompany
    jobLocation := canonical.jobLocation
    latestEventAt := canonical.latestEventAt
    nextAction := canonical.nextAction }

/-- What a restore gives the row of an application besides its own columns. -/
structure RestoredIdentity where
  jobId : Option Nat
  scrapedJobId : Option Nat
  quarantineReason : String

/-- The row of an application as it is written before its columns are rebuilt. -/
def Application.restoredRow (application : Application) (identity : RestoredIdentity) :
    Application :=
  { application with
    jobId := identity.jobId
    scrapedJobId := identity.scrapedJobId
    jobSnapshot :=
      sanitizeApplicationSnapshot application.jobSnapshot none identity.quarantineReason }

/-- `restore_archive` for one application. -/
def restoreApplication [Pydantic] (identity : RestoredIdentity)
    (archived : Option CanonicalProjection) (application : Application) :
    Except String Application :=
  rebuildProjection archived (application.restoredRow identity)

variable [Pydantic]

theorem archivedTasks_ok_iff {tasks : List TaskResponse} :
    archivedTasks events = .ok tasks ↔ taskSnapshots events = .ok tasks := by
  unfold archivedTasks
  cases taskSnapshots events <;> simp

theorem canonicalProjection_ok_iff {snapshot : Dict String Json} {canonical : CanonicalProjection} :
    canonicalProjection snapshot events = .ok canonical ↔
      ∃ latest tasks, IsGreatest (occurrences events) latest ∧ taskSnapshots events = .ok tasks ∧
        canonical = {
          jobTitle := projectedTitle snapshot
          jobCompany := projectedCompany snapshot
          jobLocation := projectedLocation snapshot
          latestEventAt := latest
          nextAction := projection (nextAction tasks) } := by
  simp only [canonicalProjection, bind_ok_iff, pure_ok_iff, latestOccurrence_ok_iff,
    archivedTasks_ok_iff]
  constructor
  · rintro ⟨latest, greatest, tasks, replayed, rfl⟩
    exact ⟨latest, tasks, greatest, replayed, rfl⟩
  · rintro ⟨latest, tasks, greatest, replayed, rfl⟩
    exact ⟨latest, greatest, tasks, replayed, rfl⟩

/-- A restored application has the timeline it had, and the columns its timeline projects to. -/
theorem restoreApplication_ok {identity : RestoredIdentity}
    {archived : Option CanonicalProjection} {application restored : Application}
    (accepted : restoreApplication identity archived application = .ok restored) :
    restored.revision = application.revision ∧
      restored.currentStage = application.currentStage ∧
        restored.events = application.events ∧
          canonicalProjection restored.jobSnapshot (orderedEvents restored.events) =
            .ok restored.projected := by
  simp only [restoreApplication, rebuildProjection, bind_ok_iff, pure_ok_iff, refuseWhen_ok_iff]
    at accepted
  obtain ⟨canonical, recomputed, -, -, rfl⟩ := accepted
  exact ⟨rfl, rfl, rfl, recomputed⟩

end CareerOS
