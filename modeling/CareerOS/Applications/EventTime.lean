/-
This file is the projected moment of the latest event. The writers of the
timeline take the later of what the row holds and what the new event is dated
at, so the row holds the latest moment of its timeline. The acceptance of a
discovery assigns the time of the acceptance instead: the row is right after it
exactly when no event is dated later.
-/

import CareerOS.Applications.TaskHistory

namespace CareerOS

/-- The row holds the latest moment of its timeline. -/
def LatestProjected (application : Application) : Prop :=
  IsGreatest (occurrences application.events) application.latestEventAt

theorem occurrences_concat (events : List ApplicationEvent) (event : ApplicationEvent) :
    occurrences (events ++ [event]) = insert event.occurredAt (occurrences events) := by
  ext moment
  simp [occurrences, or_comm, eq_comm]

theorem occurrences_orderedEvents (events : List ApplicationEvent) :
    occurrences (orderedEvents events) = occurrences events := by
  ext moment
  simp [occurrences, mem_orderedEvents]

/-- A writer that takes the later moment keeps the projection. -/
theorem Wrote.latestProjected {before after : Application} {event : ApplicationEvent}
    (wrote : Wrote before after event) (projected : LatestProjected before)
    (later : after.latestEventAt = Max.max before.latestEventAt event.occurredAt) :
    LatestProjected after := by
  unfold LatestProjected
  rw [wrote.appended, occurrences_concat, later, max_comm]
  exact IsGreatest.insert event.occurredAt projected

section

variable [Pydantic] [TextTables] [NamedIds]

theorem Opened.latestProjected {application : Application} (opened : Opened application) :
    LatestProjected application := by
  have single : ∀ event : ApplicationEvent, IsGreatest (occurrences [event]) event.occurredAt := by
    intro event
    simp [occurrences, isGreatest_singleton]
  cases opened with
  | created made =>
    obtain ⟨job, snapshot, -, -, rfl⟩ := create_ok made
    exact single _
  | discovered discovery now => exact single _
  | imported planned =>
    obtain ⟨task, timeline, last, stage, -, dated, isLast, -, rfl⟩ := planApplication_ok planned
    refine ⟨⟨last, List.mem_of_getLast? isLast, rfl⟩, ?_⟩
    rintro _ ⟨event, member, rfl⟩
    exact plannedEvents_le_last dated isLast event member

/-- A discovery is accepted no earlier than the row's latest event. -/
def DiscoveredInTime (application : Application) : PipelineAction → Prop
  | .discovered _ now => application.latestEventAt ≤ now
  | _ => True

theorem latestProjected_step {application next : Application} {action : PipelineAction}
    (projected : LatestProjected application) (inTime : DiscoveredInTime application action)
    (committed : pipeline.step application action = .ok next) : LatestProjected next := by
  cases action with
  | request request =>
    obtain ⟨event, wrote, later⟩ := PipelineRequest.attempt_wrote (mapError_ok_iff.mp committed)
    exact wrote.latestProjected projected later
  | discovered discovery now =>
    obtain ⟨event, wrote, moment⟩ := observeAgain_wrote discovery now application
    rw [discovered_ok committed]
    refine wrote.latestProjected projected ?_
    rw [moment]
    exact (max_eq_right inTime).symm
  | restored identity archived =>
    obtain ⟨-, -, -, recomputed⟩ := restoreApplication_ok (mapError_ok_iff.mp committed)
    obtain ⟨latest, tasks, greatest, -, columns⟩ := canonicalProjection_ok_iff.mp recomputed
    unfold LatestProjected
    rw [← occurrences_orderedEvents, show next.latestEventAt = latest from
      congrArg CanonicalProjection.latestEventAt columns]
    exact greatest

omit [TextTables] [NamedIds] in
theorem canonicalProjection_of_latest {application : Application} {tasks : List TaskResponse}
    (projected : LatestProjected application)
    (replayed : taskSnapshots (orderedEvents application.events) = .ok tasks) :
    ∃ canonical, canonicalProjection application.jobSnapshot
        (orderedEvents application.events) = .ok canonical ∧
      canonical.latestEventAt = application.latestEventAt := by
  refine ⟨_, canonicalProjection_ok_iff.mpr
    ⟨application.latestEventAt, tasks, ?_, replayed, rfl⟩, rfl⟩
  rw [occurrences_orderedEvents]
  exact projected

/-- In every run whose discoveries are accepted no earlier than the row's latest event, the row
holds the latest moment of its timeline. A restore recomputes that moment whenever the tasks
replay, which they do in every run that keeps them. -/
theorem latestEventAt_projected {application : Application}
    (reached : pipeline.ReachableWhen DiscoveredInTime application) :
    IsGreatest (occurrences application.events) application.latestEventAt ∧
      (∀ tasks, taskSnapshots (orderedEvents application.events) = .ok tasks →
        ∃ canonical, canonicalProjection application.jobSnapshot
            (orderedEvents application.events) = .ok canonical ∧
          canonical.latestEventAt = application.latestEventAt) ∧
      (pipeline.ReachableWhen KeepsTasks application →
        ∃ canonical, canonicalProjection application.jobSnapshot
            (orderedEvents application.events) = .ok canonical ∧
          canonical.latestEventAt = application.latestEventAt) := by
  have projected : LatestProjected application :=
    reached.invariant LatestProjected (fun _ opened => opened.latestProjected)
      fun _ _ _ projected inTime committed => latestProjected_step projected inTime committed
  refine ⟨projected, fun tasks replayed => canonicalProjection_of_latest projected replayed, ?_⟩
  intro keeps
  obtain ⟨tasks, replayed, -⟩ := nextActionProjected_run keeps
  exact canonicalProjection_of_latest projected replayed

end

/-! ### A vacancy observed again -/

section

attribute [local instance] Pydantic.canonical TextTables.plain NamedIds.single

/-- A moment long after the application is saved. -/
def farAhead : DateTime := ⟨2030, 1, 1, 0, 0, 0, 0, by decide⟩

/-- A found application with a stage dated far ahead. -/
def datedAhead : Application :=
  Application.append { discoverApplication foundVacancy savedAt with
    currentStage := .preparing
    revision := 2
    latestEventAt := Max.max savedAt farAhead }
      ((stageRequest 1 .preparing (some farAhead)).event savedAt)

theorem step_datedAhead : pipeline.step (discoverApplication foundVacancy savedAt)
    (.request (.appendEvent (stageRequest 1 .preparing (some farAhead)) savedAt)) =
      .ok datedAhead := rfl

theorem step_observeAgain (now : DateTime) :
    pipeline.step datedAhead (.discovered foundVacancy now) =
      .ok (observeAgain foundVacancy now datedAhead) := rfl

theorem inTime_datedAhead : DiscoveredInTime datedAhead (.discovered foundVacancy farAhead) :=
  max_le (by decide : savedAt ≤ farAhead) le_rfl

/-- Observed again no earlier than its latest event, the row is right. -/
theorem latestEventAt_projected_observed :
    IsGreatest (occurrences (observeAgain foundVacancy farAhead datedAhead).events)
      (observeAgain foundVacancy farAhead datedAhead).latestEventAt :=
  (latestEventAt_projected (.step (.step (.initial (.discovered foundVacancy savedAt))
    (by exact trivial) step_datedAhead) inTime_datedAhead (step_observeAgain farAhead))).1

/-- Observed again, the vacancy takes the row back before its own latest event. -/
theorem latestEventAt_not_projected :
    ¬∀ application, pipeline.Reachable application →
      IsGreatest (occurrences application.events) application.latestEventAt := by
  intro claimed
  have greatest := claimed _ (.step (.step (.initial (.discovered foundVacancy savedAt)) trivial
    step_datedAhead) trivial (step_observeAgain savedAt))
  have ahead : farAhead ∈ occurrences (observeAgain foundVacancy savedAt datedAhead).events :=
    ⟨(stageRequest 1 .preparing (some farAhead)).event savedAt, by
      simp [observeAgain, datedAhead, Application.append], rfl⟩
  have late : farAhead ≤ savedAt := greatest.2 ahead
  revert late
  decide

end

end CareerOS
