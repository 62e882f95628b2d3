/-
This file is the life of one application: the ways it comes into being, and the
requests that write its timeline. Every request names the revision it expects,
is planned on the application it read, and is committed on the application the
row holds by then. The acceptance of a discovery is the one writer that expects
no revision: it reads and writes inside one transaction.

What every committed write does is said once: one revision further, one event
more, and the stage moves the way the event says.
-/

import CareerOS.AgentWork.Discovery
import CareerOS.Applications.Publication
import CareerOS.Campaigns.Planner
import CareerOS.Library.Optimistic
import CareerOS.Portability.Projection

namespace CareerOS

/-- A move the pipeline makes: along the transitions, or staying where it is. -/
def StageMove (before after : Stage) : Prop := before = after ∨ after ∈ transitions before

/-- What every write of a timeline does. -/
structure Wrote (before after : Application) (event : ApplicationEvent) : Prop where
  counted : after.revision = before.revision + 1
  appended : after.events = before.events ++ [event]
  moved : after.currentStage = event.stageReached.getD before.currentStage
  allowed : StageMove before.currentStage after.currentStage

/-- The revision counts the timeline, and the stages of the timeline are a path of moves that
ends at the current stage. -/
structure Consistent (application : Application) : Prop where
  counted : application.revision = application.events.length
  path : application.stages.IsChain StageMove
  ends : application.stages.getLast? = some application.currentStage

theorem Wrote.consistent {before after : Application} {event : ApplicationEvent}
    (wrote : Wrote before after event) (consistent : Consistent before) : Consistent after := by
  have stages : after.stages = before.stages ++ event.stageReached.toList := by
    unfold Application.stages
    rw [wrote.appended, List.filterMap_append]
    cases reached : event.stageReached <;> simp [reached]
  have moved := wrote.moved
  have allowed := wrote.allowed
  refine ⟨?_, ?_, ?_⟩
  · rw [wrote.counted, wrote.appended, List.length_append, consistent.counted]
    rfl
  · rw [stages]
    cases reached : event.stageReached with
    | none =>
      rw [Option.toList_none, List.append_nil]
      exact consistent.path
    | some stage =>
      rw [reached, Option.getD_some] at moved
      refine consistent.path.append (List.isChain_singleton stage) fun last isLast first isFirst => ?_
      rw [consistent.ends] at isLast
      cases isLast
      cases isFirst
      rwa [moved] at allowed
  · rw [stages, moved]
    cases reached : event.stageReached with
    | none =>
      rw [Option.toList_none, List.append_nil, Option.getD_none]
      exact consistent.ends
    | some stage => simp

variable {application : Application}

theorem Consistent.revision_pos (consistent : Consistent application) :
    1 ≤ application.revision := by
  rw [consistent.counted]
  have reached := consistent.ends
  unfold Application.stages at reached
  cases events : application.events with
  | nil =>
    rw [events] at reached
    cases reached
  | cons first rest => exact Nat.le_add_left 1 _

/-! ### Requests -/

variable [Pydantic] [TextTables] [NamedIds]

/-- The requests that write the timeline of an application, with what they read besides it. -/
inductive PipelineRequest
  | appendEvent (data : ApplicationEventCreate) (now : DateTime)
  | updatePreparation (surroundings : Surroundings) (data : ApplicationPreparationUpdate)
      (now : DateTime)
  | createTask (drawn : DrawnId) (data : ApplicationTaskCreate) (now : DateTime)
  | updateTask (taskId : String) (data : ApplicationTaskUpdate) (now : DateTime)
  | publishDossier (facts : PublicationFacts) (data : ApplicationDossierCreate)

omit [TextTables] [NamedIds] in
theorem stageReached_taskEvent (eventType : EventType) (task : TaskResponse) (now : DateTime) :
    (taskEvent eventType task now).stageReached = none :=
  ite_self none

namespace PipelineRequest

/-- The revision a request expects. -/
def expectedRevision : PipelineRequest → Nat
  | .appendEvent data _ => data.expectedRevision
  | .updatePreparation _ data _ => data.expectedRevision
  | .createTask _ data _ => data.expectedRevision
  | .updateTask _ data _ => data.expectedRevision
  | .publishDossier _ data => data.expectedRevision

/-- A request planned on the application it read and committed on the current one. A publication
reads inside its own transaction. -/
def attempt (request : PipelineRequest) (seen current : Application) :
    Except ApplicationError Application :=
  match request with
  | .appendEvent data now => CareerOS.appendEvent data now seen current
  | .updatePreparation surroundings data now =>
    CareerOS.updatePreparation surroundings data now seen current
  | .createTask drawn data now => CareerOS.createTask drawn data now seen current
  | .updateTask taskId data now => CareerOS.updateTask taskId data now seen current
  | .publishDossier facts data => CareerOS.publishDossier facts data current

omit [Pydantic] [TextTables] [NamedIds] in
theorem nextStage_ok {data : ApplicationEventCreate} {stage : Stage}
    (moved : nextStage application data = .ok stage) (now : DateTime) :
    stage = (data.event now).stageReached.getD application.currentStage ∧
      StageMove application.currentStage stage := by
  unfold nextStage at moved
  unfold ApplicationEvent.stageReached ApplicationEventCreate.event
  split at moved
  · rename_i isStage isGiven
    rw [isStage, isGiven, if_pos rfl, Option.getD_some]
    split at moved
    · rename_i same
      cases moved
      exact ⟨same.symm, Or.inl rfl⟩
    · split at moved
      · rename_i permitted
        cases moved
        exact ⟨rfl, Or.inr permitted⟩
      · cases moved
  · rename_i other
    cases moved
    refine ⟨?_, Or.inl rfl⟩
    split
    · rename_i isStage
      obtain ⟨stage, given⟩ := Option.isSome_iff_exists.mp (data.rules.stageIff.mp isStage)
      exact absurd given (other stage isStage)
    · rfl

omit [NamedIds] in
/-- A committed request swaps the revision it expects, and either read that revision or did not
depend on what it read. -/
theorem attempt_swaps {request : PipelineRequest} {seen current next : Application}
    (committed : request.attempt seen current = .ok next) :
    current.revision = request.expectedRevision ∧
      next.revision = request.expectedRevision + 1 ∧
        (seen.revision = request.expectedRevision ∨
          ∀ other, request.attempt other current = .ok next) := by
  cases request with
  | appendEvent data now =>
    obtain ⟨fresh, swapped, _, _, rfl⟩ := appendEvent_ok committed
    exact ⟨swapped, rfl, Or.inl fresh⟩
  | updatePreparation surroundings data now =>
    obtain ⟨fresh, swapped, _, rfl⟩ := updatePreparation_ok committed
    exact ⟨swapped, rfl, Or.inl fresh⟩
  | createTask drawn data now =>
    obtain ⟨fresh, swapped, -, _, _, rfl⟩ := createTask_ok committed
    exact ⟨swapped, rfl, Or.inl fresh⟩
  | updateTask taskId data now =>
    obtain ⟨fresh, swapped, -, _, _, _, _, _, rfl⟩ := updateTask_ok committed
    exact ⟨swapped, rfl, Or.inl fresh⟩
  | publishDossier facts data =>
    refine ⟨(publishDossier_ok committed).1, ?_, Or.inr fun _ => committed⟩
    obtain ⟨_, _, _, _, _, rfl⟩ := publishDossier_ok committed
    rfl

omit [NamedIds] in
/-- What a committed request writes. -/
theorem attempt_wrote {request : PipelineRequest} {current next : Application}
    (committed : request.attempt current current = .ok next) :
    ∃ event, Wrote current next event ∧
      next.latestEventAt = Max.max current.latestEventAt event.occurredAt := by
  cases request with
  | appendEvent data now =>
    obtain ⟨fresh, -, stage, moved, rfl⟩ := appendEvent_ok committed
    obtain ⟨reached, permitted⟩ := nextStage_ok moved now
    exact ⟨data.event now, ⟨by rw [fresh]; rfl, rfl, reached, permitted⟩, rfl⟩
  | updatePreparation surroundings data now =>
    obtain ⟨fresh, -, payload, rfl⟩ := updatePreparation_ok committed
    exact ⟨_, ⟨by rw [fresh]; rfl, rfl, rfl, Or.inl rfl⟩, rfl⟩
  | createTask drawn data now =>
    obtain ⟨fresh, -, -, tasks, replayed, rfl⟩ := createTask_ok committed
    exact ⟨_, ⟨by rw [fresh]; rfl, rfl, rfl, Or.inl rfl⟩, max_comm _ _⟩
  | updateTask taskId data now =>
    obtain ⟨fresh, -, -, tasks, replayed, task, member, same, rfl⟩ := updateTask_ok committed
    refine ⟨_, ⟨by rw [fresh]; rfl, rfl, ?_, Or.inl rfl⟩, max_comm _ _⟩
    rw [stageReached_taskEvent]
    rfl
  | publishDossier facts data =>
    obtain ⟨fresh, version, readiness, materials, -, rfl⟩ := publishDossier_ok committed
    exact ⟨_, ⟨by rw [fresh]; rfl, rfl, rfl, Or.inl rfl⟩, max_comm _ _⟩

end PipelineRequest

omit [TextTables] [NamedIds] in
/-- What the acceptance of a discovery writes. -/
theorem observeAgain_wrote (discovery : Discovery) (now : DateTime) (application : Application) :
    ∃ event, Wrote application (observeAgain discovery now application) event ∧
      event.occurredAt = now :=
  ⟨_, ⟨rfl, rfl, rfl, Or.inl rfl⟩, rfl⟩

/-! ### Opening an application -/

/-- The applications as they come into being. -/
inductive Opened [NamedIds] : Application → Prop
  | created {surroundings : Surroundings} {data : ApplicationCreate} {now : DateTime}
      {application : Application} (made : create surroundings data now = .ok application) :
      Opened application
  | discovered (discovery : Discovery) (now : DateTime) :
      Opened (discoverApplication discovery now)
  | imported {app : ParsedApplication} {fingerprint : String} {importedAt : DateTime}
      {identityScope : String} {snapshot : Dict String Json} {application : Application}
      (planned : planApplication app fingerprint importedAt identityScope snapshot =
        some application) : Opened application

omit [Pydantic] [NamedIds] in
/-- The stages a tracker status stands for are a path of the pipeline. -/
theorem resolveStagePath_path (app : ParsedApplication) :
    (resolveStagePath app).IsChain StageMove := by
  unfold resolveStagePath
  dsimp only
  have path : ∀ stages ∈ [[Stage.saved, .preparing], [.saved], [.saved, .preparing, .applied],
      [.saved, .preparing, .applied, .archived], [.saved, .archived]],
      stages.IsChain StageMove := by
    unfold StageMove
    decide
  split_ifs <;> exact path _ (by decide)

/-- A new application is consistent. -/
theorem Opened.consistent (opened : Opened application) :
    Consistent application := by
  cases opened with
  | created made =>
    obtain ⟨job, snapshot, -, -, rfl⟩ := create_ok made
    exact ⟨rfl, List.isChain_singleton _, rfl⟩
  | discovered discovery now => exact ⟨rfl, List.isChain_singleton _, rfl⟩
  | imported planned =>
    obtain ⟨task, timeline, last, stage, -, dated, -, isStage, rfl⟩ := planApplication_ok planned
    refine ⟨rfl, ?_, ?_⟩
    · exact (congrArg (List.IsChain StageMove) (stages_plannedEvents dated)).mpr
        (resolveStagePath_path _)
    · exact (congrArg List.getLast? (stages_plannedEvents dated)).trans isStage

/-! ### Runs of the pipeline -/

/-- Everything that can happen to an application. -/
inductive PipelineAction
  | request (request : PipelineRequest)
  | discovered (discovery : Discovery) (now : DateTime)
  | restored (identity : RestoredIdentity) (archived : Option CanonicalProjection)

/-- One application written by one writer at a time. -/
def pipeline : Machine Application PipelineAction (ApplicationError ⊕ String) where
  initial := Opened
  step := fun application action =>
    match action with
    | .request request => (request.attempt application application).mapError Sum.inl
    | .discovered discovery now => do
      -- the acceptance looks the application up by the catalog row
      refuseWhen (application.scrapedJobId ≠ some discovery.catalog.id) (.inr "another application")
      return observeAgain discovery now application
    | .restored identity archived =>
      (restoreApplication identity archived application).mapError Sum.inr

variable {application next : Application}

theorem step_request (request : PipelineRequest)
    (committed : request.attempt application application = .ok next) :
    pipeline.step application (.request request) = .ok next :=
  mapError_ok_iff.mpr committed

theorem discovered_ok {discovery : Discovery} {now : DateTime}
    (committed : pipeline.step application (.discovered discovery now) = .ok next) :
    next = observeAgain discovery now application := by
  obtain ⟨_, -, observed⟩ := bind_ok_iff.mp committed
  exact (pure_ok_iff.mp observed).symm

/-- A step of the pipeline keeps the application consistent. -/
theorem consistent_step {action : PipelineAction} (consistent : Consistent application)
    (committed : pipeline.step application action = .ok next) : Consistent next := by
  cases action with
  | request request =>
    obtain ⟨event, wrote, -⟩ := PipelineRequest.attempt_wrote (mapError_ok_iff.mp committed)
    exact wrote.consistent consistent
  | discovered discovery now =>
    obtain ⟨event, wrote, -⟩ := observeAgain_wrote discovery now application
    rw [discovered_ok committed]
    exact wrote.consistent consistent
  | restored identity archived =>
    obtain ⟨revision, stage, events, -⟩ := restoreApplication_ok (mapError_ok_iff.mp committed)
    refine ⟨?_, ?_, ?_⟩
    · rw [revision, events]
      exact consistent.counted
    · unfold Application.stages
      rw [events]
      exact consistent.path
    · unfold Application.stages
      rw [events, stage]
      exact consistent.ends

/-- Every application is consistent. -/
theorem pipeline_consistent (reached : pipeline.Reachable application) : Consistent application :=
  reached.invariant Consistent (fun _ opened => opened.consistent)
    fun _ _ _ consistent _ committed => consistent_step consistent committed

/-- The compare-and-swap of the requests. -/
def pipelineProtocol : Optimistic Application PipelineRequest ApplicationError where
  version := Application.revision
  expected := PipelineRequest.expectedRevision
  attempt := PipelineRequest.attempt
  attempt_version := by
    intro request seen current next committed
    obtain ⟨expected, swapped, -⟩ := PipelineRequest.attempt_swaps committed
    exact ⟨expected, by rw [swapped, expected]⟩
  attempt_stale := by
    intro request seen current next committed stale
    obtain ⟨expected, -, fresh | independent⟩ := PipelineRequest.attempt_swaps committed
    · exact absurd (fresh.trans expected.symm) stale
    · exact independent current

/-! ### One application that exists -/

/-- A vacancy typed in by hand. -/
def typedVacancy : ManualJobSnapshot where
  title := "Engineer"
  company := "Acme"
  description := none
  location := none
  externalUrl := none
  applicationUrl := none
  applicationEmail := none
  workload := none
  titleFits := ⟨by decide, by decide, by decide⟩
  companyFits := ⟨by decide, by decide, by decide⟩
  descriptionFits := by simp
  locationFits := by simp
  workloadFits := by simp
  externalUrlNormal := ⟨none, normalizeJobUrl_none⟩
  applicationUrlNormal := ⟨none, normalizeJobUrl_none⟩
  emailNormal := ⟨none, rfl⟩

/-- The application saved for it. -/
def savedApplication (now : DateTime) : Application :=
  createdApplication ⟨.manual typedVacancy, none, .saved, none, rfl⟩ none
    (manualSnapshot typedVacancy) now

theorem opened_savedApplication (now : DateTime) : Opened (savedApplication now) :=
  .created (show create ⟨fun _ => none, fun _ => false, fun _ => false⟩
    ⟨.manual typedVacancy, none, .saved, none, rfl⟩ now = .ok (savedApplication now) from rfl)

/-- A request that records a stage. -/
def stageRequest (expectedRevision : Nat) (stage : Stage) (occurredAt : Option DateTime) :
    ApplicationEventCreate :=
  ⟨expectedRevision, .stage, some stage, occurredAt, none, [],
    ⟨rfl, iff_of_true rfl rfl, by decide, rfl⟩⟩

/-- The morning the application is saved. -/
def savedAt : DateTime := ⟨2026, 1, 5, 9, 0, 0, 0, by decide⟩

/-- A vacancy an agent found, and its catalog row. -/
def foundVacancy : Discovery where
  requestId := "0e4a4c0e-2f7c-4c8e-9d0a-1f2e3d4c5b6a"
  proposalId := "7b1d9f52-6c3e-4a7d-8f10-2b3c4d5e6f70"
  vacancy := {
    title := "Engineer"
    company := "Acme"
    location := none
    externalUrl := "https://acme.example/jobs/1"
    sourceText := "We are looking for an engineer."
    observedAt := savedAt
    sourcePlatform := none
    gates := []
    scores := ⟨⟨80, "fits"⟩, ⟨80, "fits"⟩, ⟨80, "fits"⟩, ⟨80, "fits"⟩, ⟨80, "fits"⟩, ⟨80, "fits"⟩, 80⟩
    titleFits := by decide
    companyFits := by decide
    locationFits := by simp
    sourceTextFits := by decide }
  jobId := 1
  catalog := {
    id := 1
    externalUrl := "https://acme.example/jobs/1"
    identityDigest := "9f86d081884c7d659a2feaa0"
    contentRevision := 1
    digestLength := by decide }
  contentChanged := false

end CareerOS
