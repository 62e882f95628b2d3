/-
This file proves what becomes of the markers. An application that reaches a
milestone marks every row of its listing; from then on a row keeps its marker
in every run, as long as no update resets the marker of such a listing by an
explicit null. What one request does to the rows is said once, and a run is the
induction over its requests.
-/

import CareerOS.Applications.JobTracker
import CareerOS.Applications.Pipeline

namespace CareerOS

namespace JobTracker

section

variable [Pydantic] [TextTables]

/-! ### What a request does -/

/-- The request resets no marker by an explicit null that the timeline of an application has
set. -/
def KeepsMarkers (tracker : JobTracker) : Request → Prop
  | .updateJob userId jobId updates _ =>
    updates.applied = some none → ∀ job, tracker.requestedJob userId jobId = .ok job →
      job.applied = some true →
      tracker.logicalOpportunityReachedApplied userId job.scrapedJobId = false
  | _ => True

/-- The row of the same job. -/
structure SameJob (job next : TrackedJob) : Prop where
  id : next.id = job.id
  userId : next.userId = job.userId
  scrapedJobId : next.scrapedJobId = job.scrapedJobId

/-- The row of the same job after a request. Its marker stays when the request keeps markers and
the timeline of an application has set it. -/
structure KeptJob (tracker : JobTracker) (request : Request) (job next : TrackedJob) : Prop
    extends SameJob job next where
  marker : tracker.KeepsMarkers request →
    tracker.logicalOpportunityReachedApplied job.userId job.scrapedJobId = true →
    job.applied = some true → next.applied = some true

/-- The application after more of its timeline. -/
structure Followed (tracked next : TrackedApplication) : Prop where
  id : next.id = tracked.id
  userId : next.userId = tracked.userId
  jobId : next.application.jobId = tracked.application.jobId
  scrapedJobId : next.application.scrapedJobId = tracked.application.scrapedJobId
  milestones : tracked.application.events.any ApplicationEvent.isMilestone = true →
    next.application.events.any ApplicationEvent.isMilestone = true

/-- The application was made from an owned job and knows its listing, or from no job. -/
def Linked (tracker : JobTracker) (tracked : TrackedApplication) : Prop :=
  ∀ jobId, tracked.application.jobId = some jobId →
    ∃ job, tracker.jobs.find jobId = some job ∧
      tracked.application.scrapedJobId = some job.scrapedJobId

omit [Pydantic] [TextTables] in
theorem SameJob.refl (job : TrackedJob) : SameJob job job := ⟨rfl, rfl, rfl⟩

omit [Pydantic] [TextTables] in
theorem Followed.refl (tracked : TrackedApplication) : Followed tracked tracked :=
  ⟨rfl, rfl, rfl, rfl, fun reached => reached⟩

omit [Pydantic] in
theorem KeptJob.refl (tracker : JobTracker) (request : Request) (job : TrackedJob) :
    KeptJob tracker request job job :=
  ⟨SameJob.refl job, fun _ _ marker => marker⟩

variable {tracked : TrackedApplication} {job : TrackedJob} {application : Application}

section

omit [Pydantic] [TextTables]

variable {tracker : JobTracker} {userId : Nat}

theorem requestedJob_ok {jobId : Nat} (found : tracker.requestedJob userId jobId = .ok job) :
    tracker.jobs.find jobId = some job ∧ job.userId = userId := by
  unfold requestedJob at found
  cases read : tracker.jobs.find jobId with
  | none =>
    rw [read] at found
    cases found
  | some row =>
    rw [read] at found
    dsimp only at found
    split at found
    · cases found
    · rename_i owned
      cases found
      exact ⟨rfl, not_not.mp owned⟩

theorem ownedApplication_ok {applicationId : String}
    (found : tracker.ownedApplication userId applicationId = .ok tracked) :
    tracker.applications.find applicationId = some tracked ∧ tracked.userId = userId := by
  unfold ownedApplication at found
  split at found
  · rename_i row read
    cases found
    obtain ⟨read, owned⟩ := Option.filter_eq_some_iff.mp read
    exact ⟨read, beq_iff_eq.mp owned⟩
  · cases found

theorem ownedJob_some {jobId : Nat} (found : tracker.ownedJob userId jobId = some job) :
    tracker.jobs.find jobId = some job ∧ job.userId = userId := by
  obtain ⟨read, owned⟩ := Option.filter_eq_some_iff.mp found
  exact ⟨read, beq_iff_eq.mp owned⟩

theorem addApplication_ok {added : JobTracker}
    (inserted : tracker.addApplication tracked = .ok added) :
    ∃ fresh, added =
      { tracker with applications := tracker.applications.insert tracked fresh } := by
  unfold addApplication at inserted
  split at inserted
  · rename_i fresh
    cases inserted
    exact ⟨fresh, rfl⟩
  · cases inserted

theorem applications_syncLegacyAppliedMarkers (application : Application) (stage : Stage)
    (job : Option TrackedJob) :
    (tracker.syncLegacyAppliedMarkers userId application stage job).applications =
      tracker.applications := by
  unfold syncLegacyAppliedMarkers
  split
  · split <;> rfl
  · rfl

theorem marked_kept (userId scrapedJobId : Nat) (job : TrackedJob) :
    SameJob job (marked userId scrapedJobId job) ∧
      (job.applied = some true → (marked userId scrapedJobId job).applied = some true) := by
  unfold marked
  split
  · exact ⟨⟨rfl, rfl, rfl⟩, fun _ => rfl⟩
  · exact ⟨SameJob.refl job, fun marker => marker⟩

/-- A milestone of an application marks every row of its listing. -/
theorem syncLegacyAppliedMarkers_marks {stage : Stage}
    {job : Option TrackedJob} {scrapedJobId : Nat}
    (reached : applicationMilestoneStages.contains stage = true)
    (forListing : application.scrapedJobId = some scrapedJobId) (row : TrackedJob)
    (member : row ∈
      (tracker.syncLegacyAppliedMarkers userId application stage job).jobs.rows)
    (owned : row.userId = userId) (listing : row.scrapedJobId = scrapedJobId) :
    row.applied = some true := by
  unfold syncLegacyAppliedMarkers at member
  have marks : applicationReachedApplied application stage = true := by
    unfold applicationReachedApplied
    rw [reached, Bool.true_or]
  have target : tracker.markedListing userId application job = some scrapedJobId := by
    unfold markedListing
    rw [forListing]
    rfl
  rw [if_pos marks, target] at member
  dsimp only at member
  obtain ⟨old, -, rfl⟩ := Table.mem_update.mp member
  obtain ⟨same, -⟩ := marked_kept userId scrapedJobId old
  unfold marked
  split
  · rfl
  · rename_i unchanged
    rw [same.userId] at owned
    rw [same.scrapedJobId] at listing
    by_contra unmarked
    exact unchanged ⟨owned, listing, unmarked⟩

end

section

variable {before after : JobTracker} {request : Request} {now : DateTime}

section

omit [Pydantic]

theorem grew_syncLegacyAppliedMarkers {middle : JobTracker} (same : middle.jobs = before.jobs)
    (userId : Nat) (application : Application) (stage : Stage) (job : Option TrackedJob) :
    before.jobs.Grew (KeptJob before request) (fun _ => True)
      (middle.syncLegacyAppliedMarkers userId application stage job).jobs := by
  have unchanged : before.jobs.Grew (KeptJob before request) (fun _ => True) before.jobs :=
    Table.Grew.refl before.jobs fun row _ => KeptJob.refl before request row
  unfold syncLegacyAppliedMarkers
  split
  · split
    · rw [same]
      exact unchanged
    · rename_i scrapedJobId _
      dsimp only
      rw [same]
      refine Table.Grew.update fun row _ => ?_
      obtain ⟨kept, marker⟩ := marked_kept userId scrapedJobId row
      exact ⟨kept, fun _ _ => marker⟩
  · rw [same]
    exact unchanged

theorem grew_setJob {jobId : Nat} {change : TrackedJob → TrackedJob}
    {keeps : ∀ job, (change job).id = job.id}
    (changed : ∀ job ∈ before.jobs.rows, job.id = jobId →
      KeptJob before request job (change job)) :
    before.jobs.Grew (KeptJob before request) (fun _ => True)
      (before.setJob jobId change keeps).jobs := by
  unfold setJob
  dsimp only
  refine Table.Grew.update fun row member => ?_
  split
  · rename_i here
    exact changed row member here
  · exact KeptJob.refl before request row

theorem grew_addJob (userId scrapedJobId : Nat) (searchProfileId : Option Nat)
    (analysis : SavedAnalysis) :
    before.jobs.Grew (KeptJob before request) (fun _ => True)
      (before.addJob userId scrapedJobId searchProfileId analysis).jobs := by
  unfold addJob
  dsimp only
  exact Table.Grew.insert (fun row _ => KeptJob.refl before request row) trivial

/-- An update keeps the marker that a milestone has set, unless it is an explicit null. -/
theorem updatedJob_kept {userId jobId : Nat} {updates : JobUpdate}
    (found : before.requestedJob userId jobId = .ok job) (dismissedAt : Option (Option DateTime)) :
    KeptJob before (.updateJob userId jobId updates now) job
      (updatedJob (before.appliedUpdate userId job updates) dismissedAt updates job) where
  id := rfl
  userId := rfl
  scrapedJobId := rfl
  marker := by
    intro keeps reached marker
    obtain ⟨-, owned⟩ := requestedJob_ok found
    rw [owned] at reached
    show (before.appliedUpdate userId job updates).getD job.applied = some true
    unfold appliedUpdate
    cases asked : updates.applied with
    | none =>
      rw [ite_self]
      exact marker
    | some value =>
      cases value with
      | none =>
        have cleared := keeps asked job found marker
        rw [reached] at cleared
        cases cleared
      | some flag =>
        cases flag with
        | true => rfl
        | false =>
          rw [if_pos ⟨rfl, reached⟩]
          exact marker

end

/-- What a request does to the jobs. -/
theorem perform_jobs (done : before.perform request = .ok after) :
    before.jobs.Grew (KeptJob before request) (fun _ => True) after.jobs := by
  have unchanged : before.jobs.Grew (KeptJob before request) (fun _ => True) before.jobs :=
    Table.Grew.refl before.jobs fun row _ => KeptJob.refl before request row
  cases request with
  | createApplication userId drawn reads data now =>
    obtain ⟨application, -, rest⟩ := bind_ok_iff.mp done
    obtain ⟨added, inserted, rest⟩ := bind_ok_iff.mp rest
    obtain ⟨fresh, rfl⟩ := addApplication_ok inserted
    cases rest
    refine grew_syncLegacyAppliedMarkers (?_ : _ = before.jobs) _ _ _ _
    rfl
  | appendEvent userId applicationId data now =>
    obtain ⟨tracked, -, rest⟩ := bind_ok_iff.mp done
    obtain ⟨next, -, rest⟩ := bind_ok_iff.mp rest
    cases rest
    refine grew_syncLegacyAppliedMarkers (?_ : _ = before.jobs) _ _ _ _
    rfl
  | createJob userId scrapedJobId searchProfileId ownsProfile =>
    obtain ⟨-, -, rest⟩ := bind_ok_iff.mp done
    split at rest
    · cases rest
      exact unchanged
    · cases rest
      exact grew_addJob _ _ _ _
  | updateJob userId jobId updates now =>
    obtain ⟨job, found, rest⟩ := bind_ok_iff.mp done
    obtain ⟨-, -, rest⟩ := bind_ok_iff.mp rest
    cases rest
    refine grew_setJob fun row member here => ?_
    have read := Table.find_eq_some_iff.mpr ⟨member, here⟩
    rw [(requestedJob_ok found).1] at read
    cases read
    exact updatedJob_kept found _
  | recordView userId jobId now =>
    obtain ⟨job, -, rest⟩ := bind_ok_iff.mp done
    split at rest
    · cases rest
      exact unchanged
    · cases rest
      exact grew_setJob fun row _ _ => ⟨⟨rfl, rfl, rfl⟩, fun _ _ marker => marker⟩
  | deleteJob userId jobId now =>
    obtain ⟨job, -, rest⟩ := bind_ok_iff.mp done
    cases rest
    exact grew_setJob fun row _ _ => ⟨⟨rfl, rfl, rfl⟩, fun _ _ marker => marker⟩
  | saveSingleJob userId scrapedJobId searchProfileId analysis =>
    cases done
    unfold saveSingleJob
    split
    · exact grew_setJob fun row _ _ => ⟨⟨rfl, rfl, rfl⟩, fun _ _ marker => marker⟩
    · exact grew_addJob _ _ _ _

/-- A new application of an owner names the job it was made from, and the listing of the job. -/
theorem linked_createApplication {userId : Nat} {drawn : String} {reads : Reads}
    {data : ApplicationCreate}
    (made : create (before.surroundings userId reads) data now = .ok application) :
    before.Linked ⟨drawn, userId, application⟩ := by
  obtain ⟨job, snapshot, found, -, rfl⟩ := create_ok made
  intro jobId named
  cases job with
  | none => cases named
  | some job =>
    cases named
    unfold sourceJob at found
    split at found
    · cases found
    · rename_i askedId _
      split at found
      · cases found
      · rename_i owned
        cases found
        obtain ⟨row, read, rfl⟩ := Option.map_eq_some_iff.mp owned
        obtain ⟨read, -⟩ := ownedJob_some read
        have same : row.id = askedId := (Table.find_eq_some_iff.mp read).2
        refine ⟨row, ?_, rfl⟩
        show before.jobs.find row.id = some row
        rwa [same]

omit [Pydantic] [TextTables] in
/-- One more event of a timeline. -/
theorem followed_appendEvent {data : ApplicationEventCreate} {next : Application}
    (committed : appendEvent data now tracked.application tracked.application = .ok next) :
    Followed tracked { tracked with application := next } := by
  obtain ⟨-, -, stage, -, rfl⟩ := appendEvent_ok committed
  refine ⟨rfl, rfl, rfl, rfl, fun reached => ?_⟩
  show (tracked.application.events ++ [data.event now]).any ApplicationEvent.isMilestone = true
  rw [List.any_append, reached, Bool.true_or]

/-- Is the request one on jobs alone? -/
def Request.onJobs : Request → Bool
  | .createApplication .. | .appendEvent .. => false
  | _ => true

/-- A request on jobs leaves the applications. -/
theorem applications_perform (done : before.perform request = .ok after)
    (onJobs : request.onJobs = true) : after.applications = before.applications := by
  cases request with
  | createApplication => cases onJobs
  | appendEvent => cases onJobs
  | createJob userId scrapedJobId searchProfileId ownsProfile =>
    obtain ⟨-, -, rest⟩ := bind_ok_iff.mp done
    split at rest <;> cases rest <;> rfl
  | updateJob userId jobId updates now =>
    obtain ⟨job, -, rest⟩ := bind_ok_iff.mp done
    obtain ⟨-, -, rest⟩ := bind_ok_iff.mp rest
    cases rest
    rfl
  | recordView userId jobId now =>
    obtain ⟨job, -, rest⟩ := bind_ok_iff.mp done
    split at rest <;> cases rest <;> rfl
  | deleteJob userId jobId now =>
    obtain ⟨job, -, rest⟩ := bind_ok_iff.mp done
    cases rest
    rfl
  | saveSingleJob userId scrapedJobId searchProfileId analysis =>
    cases done
    unfold saveSingleJob
    split <;> rfl

/-- What a request does to the applications. -/
theorem perform_applications (done : before.perform request = .ok after) :
    before.applications.Grew Followed before.Linked after.applications := by
  cases request with
  | createApplication userId drawn reads data now =>
    obtain ⟨application, made, rest⟩ := bind_ok_iff.mp done
    obtain ⟨added, inserted, rest⟩ := bind_ok_iff.mp rest
    obtain ⟨fresh, rfl⟩ := addApplication_ok inserted
    cases rest
    rw [applications_syncLegacyAppliedMarkers]
    dsimp only
    exact Table.Grew.insert (fun tracked _ => Followed.refl tracked)
      (linked_createApplication (mapError_ok_iff.mp made))
  | appendEvent userId applicationId data now =>
    obtain ⟨tracked, found, rest⟩ := bind_ok_iff.mp done
    obtain ⟨next, committed, rest⟩ := bind_ok_iff.mp rest
    cases rest
    rw [applications_syncLegacyAppliedMarkers]
    unfold setApplication
    dsimp only
    refine Table.Grew.update fun row member => ?_
    by_cases here : row.id = applicationId
    · rw [if_pos here]
      have read := Table.find_eq_some_iff.mpr ⟨member, here⟩
      rw [(ownedApplication_ok found).1] at read
      cases read
      exact followed_appendEvent (mapError_ok_iff.mp committed)
    · rw [if_neg here]
      exact Followed.refl row
  | _ =>
    rw [applications_perform done rfl]
    exact Table.Grew.refl before.applications fun tracked _ => Followed.refl tracked

/-! ### Links -/

/-- A link stays while jobs keep their listings. -/
theorem Linked.stays (linked : before.Linked tracked)
    (done : before.perform request = .ok after) : after.Linked tracked := by
  intro jobId named
  obtain ⟨job, found, listing⟩ := linked jobId named
  obtain ⟨member, keyed⟩ := Table.find_eq_some_iff.mp found
  obtain ⟨next, inside, kept⟩ := (perform_jobs done).kept job member
  refine ⟨next, Table.find_eq_some_iff.mpr ⟨inside, kept.id.trans keyed⟩, ?_⟩
  rw [listing, kept.scrapedJobId]

theorem perform_linked (linked : ∀ tracked ∈ before.applications.rows, before.Linked tracked)
    (done : before.perform request = .ok after) :
    ∀ tracked ∈ after.applications.rows, after.Linked tracked := by
  intro tracked member
  rcases (perform_applications done).origin tracked member with ⟨old, inside, followed⟩ | new
  · intro jobId named
    rw [followed.jobId] at named
    rw [followed.scrapedJobId]
    exact (linked old inside).stays done jobId named
  · exact new.stays done

variable {tracker : JobTracker}

theorem reachable_linked (reached : (machineFrom fresh).Reachable tracker) :
    ∀ tracked ∈ tracker.applications.rows, tracker.Linked tracked := by
  refine Machine.ReachableWhen.invariant (fun state : JobTracker =>
    ∀ tracked ∈ state.applications.rows, state.Linked tracked) reached ?_ ?_
  · rintro first rfl tracked member
    cases member
  · intro state action next linked _ done
    exact perform_linked linked done

omit [Pydantic] [TextTables] in
/-- A linked application is for the listing it names. -/
theorem isFor_iff (linked : tracker.Linked tracked) (scrapedJobId : Nat) :
    tracker.isFor scrapedJobId tracked = true ↔
      tracked.application.scrapedJobId = some scrapedJobId := by
  unfold isFor
  rw [Bool.or_eq_true, beq_iff_eq, beq_iff_eq]
  refine ⟨fun either => ?_, Or.inl⟩
  rcases either with named | joined
  · exact named
  · obtain ⟨job, found, rfl⟩ := Option.map_eq_some_iff.mp joined
    obtain ⟨jobId, named, read⟩ := Option.bind_eq_some_iff.mp found
    obtain ⟨row, found, listing⟩ := linked jobId named
    rw [found] at read
    cases read
    exact listing

/-! ### Runs -/

/-- The opportunity has a timeline with a milestone. -/
def HasReached (tracker : JobTracker) (userId scrapedJobId : Nat) : Prop :=
  ∃ tracked ∈ tracker.applications.rows, tracked.userId = userId ∧
    tracked.application.scrapedJobId = some scrapedJobId ∧
      tracked.application.events.any ApplicationEvent.isMilestone = true

/-- The row of the job stands, with its marker. -/
def IsMarked (tracker : JobTracker) (job : TrackedJob) : Prop :=
  ∃ kept ∈ tracker.jobs.rows, SameJob job kept ∧ kept.applied = some true

omit [Pydantic] [TextTables] in
theorem HasReached.logical {userId scrapedJobId : Nat}
    (reached : tracker.HasReached userId scrapedJobId) :
    tracker.logicalOpportunityReachedApplied userId scrapedJobId = true := by
  obtain ⟨tracked, member, owned, listing, milestone⟩ := reached
  refine List.any_eq_true.mpr ⟨tracked, member, ?_⟩
  unfold isFor Application.reachedApplied
  rw [owned, listing, milestone, Bool.or_true, Bool.and_true, beq_self_eq_true, beq_self_eq_true,
    Bool.true_or, Bool.and_true]

theorem HasReached.stays {userId scrapedJobId : Nat}
    (reached : before.HasReached userId scrapedJobId) (done : before.perform request = .ok after) :
    after.HasReached userId scrapedJobId := by
  obtain ⟨tracked, member, owned, listing, milestone⟩ := reached
  obtain ⟨next, inside, followed⟩ := (perform_applications done).kept tracked member
  refine ⟨next, inside, followed.userId.trans owned, ?_, followed.milestones milestone⟩
  rw [followed.scrapedJobId, listing]

/-- A marker stays over one request. -/
theorem IsMarked.stays (isMarked : before.IsMarked job)
    (reached : before.HasReached job.userId job.scrapedJobId)
    (keeps : before.KeepsMarkers request) (done : before.perform request = .ok after) :
    after.IsMarked job := by
  obtain ⟨row, member, same, marker⟩ := isMarked
  obtain ⟨next, inside, kept⟩ := (perform_jobs done).kept row member
  refine ⟨next, inside, ⟨kept.id.trans same.id, kept.userId.trans same.userId,
    kept.scrapedJobId.trans same.scrapedJobId⟩, kept.marker keeps ?_ marker⟩
  rw [same.userId, same.scrapedJobId]
  exact reached.logical

/-- A marker stays in every run that resets none. -/
theorem IsMarked.lasts {tracker later : JobTracker}
    (isMarked : tracker.IsMarked job) (reached : tracker.HasReached job.userId job.scrapedJobId)
    (run : (machineFrom tracker).ReachableWhen KeepsMarkers later) : later.IsMarked job := by
  have both : later.HasReached job.userId job.scrapedJobId ∧ later.IsMarked job := by
    refine run.invariant (fun state => state.HasReached job.userId job.scrapedJobId ∧
      state.IsMarked job) ?_ ?_
    · rintro first rfl
      exact ⟨reached, isMarked⟩
    · rintro state action next ⟨reached, isMarked⟩ keeps done
      exact ⟨reached.stays done, isMarked.stays reached keeps done⟩
  exact both.2

/-! ### Reaching a milestone -/

omit [Pydantic] [TextTables] in
theorem stageReached_some {event : ApplicationEvent} {stage : Stage}
    (reached : event.stageReached = some stage) : event.stage = some stage := by
  unfold ApplicationEvent.stageReached at reached
  split at reached
  · exact reached
  · cases reached

omit [Pydantic] [TextTables] in
/-- An event that takes a timeline to a milestone has a milestone stage, and ends there. -/
theorem appendEvent_crosses {data : ApplicationEventCreate} {application next : Application}
    (committed : appendEvent data now application application = .ok next)
    (unreached : application.reachedApplied = false) (reached : next.reachedApplied = true) :
    applicationMilestoneStages.contains next.currentStage = true ∧
      next.events.any ApplicationEvent.isMilestone = true := by
  obtain ⟨-, -, stage, moved, rfl⟩ := appendEvent_ok committed
  obtain ⟨ends, -⟩ := PipelineRequest.nextStage_ok moved now
  obtain ⟨notHere, none⟩ := Bool.or_eq_false_iff.mp unreached
  have joined : (application.events ++ [data.event now]).any ApplicationEvent.isMilestone =
      (data.event now).isMilestone := by
    rw [List.any_append, none, Bool.false_or, List.any_cons, List.any_nil, Bool.or_false]
  show applicationMilestoneStages.contains stage = true ∧
    (application.events ++ [data.event now]).any ApplicationEvent.isMilestone = true
  rw [joined]
  rcases Bool.or_eq_true_iff.mp reached with here | timeline
  · replace here : applicationMilestoneStages.contains stage = true := here
    refine ⟨here, ?_⟩
    cases read : (data.event now).stageReached with
    | none =>
      -- Without a stage the timeline stays where it was, which is before the milestone.
      rw [read, Option.getD_none] at ends
      rw [ends, notHere] at here
      cases here
    | some reachedStage =>
      rw [read, Option.getD_some] at ends
      unfold ApplicationEvent.isMilestone
      rw [stageReached_some read, ← ends]
      exact here
  · have milestone : (data.event now).isMilestone = true := joined.symm.trans timeline
    refine ⟨?_, milestone⟩
    obtain ⟨named, given, isMilestone⟩ := (Option.any_eq_true _ _).mp milestone
    have isStage : (data.event now).eventType = .stage :=
      data.rules.stageIff.mpr (Option.isSome_of_eq_some given)
    have same : stage = named := by
      rw [ends, ApplicationEvent.stageReached, if_pos isStage, given, Option.getD_some]
    rw [same]
    exact isMilestone

/-- A new application at a milestone has it in its timeline. -/
theorem create_crosses {surroundings : Surroundings} {data : ApplicationCreate}
    (made : create surroundings data now = .ok application)
    (reached : application.reachedApplied = true) :
    applicationMilestoneStages.contains data.initialStage = true ∧
      application.events.any ApplicationEvent.isMilestone = true := by
  obtain ⟨job, snapshot, -, -, rfl⟩ := create_ok made
  rcases Bool.or_eq_true_iff.mp reached with here | timeline
  · replace here : applicationMilestoneStages.contains data.initialStage = true := here
    exact ⟨here, List.any_eq_true.mpr ⟨_, List.mem_singleton_self _, here⟩⟩
  · obtain ⟨event, member, milestone⟩ := List.any_eq_true.mp timeline
    cases List.mem_singleton.mp member
    exact ⟨milestone, timeline⟩

/-- The request that takes a timeline to a milestone marks every row of its listing. -/
theorem crossing_marks (done : before.perform request = .ok after)
    (member : tracked ∈ after.applications.rows)
    (reached : tracked.application.reachedApplied = true)
    (first : ∀ earlier ∈ before.applications.rows, earlier.id = tracked.id →
      earlier.application.reachedApplied = false) {scrapedJobId : Nat}
    (listing : tracked.application.scrapedJobId = some scrapedJobId) :
    tracked.application.events.any ApplicationEvent.isMilestone = true ∧
      ∀ job ∈ after.jobs.rows, job.userId = tracked.userId →
        job.scrapedJobId = scrapedJobId → job.applied = some true := by
  have notBefore : tracked ∉ before.applications.rows := fun inside => by
    rw [first tracked inside rfl] at reached
    cases reached
  cases request with
  | createApplication userId drawn reads data now =>
    obtain ⟨application, made, rest⟩ := bind_ok_iff.mp done
    obtain ⟨added, inserted, rest⟩ := bind_ok_iff.mp rest
    obtain ⟨fresh, rfl⟩ := addApplication_ok inserted
    cases rest
    rw [applications_syncLegacyAppliedMarkers] at member
    have joined : tracked ∈ (before.applications.insert _ fresh).rows := member
    rcases Table.mem_insert.mp joined with inside | rfl
    · exact absurd inside notBefore
    · obtain ⟨milestone, timeline⟩ := create_crosses (mapError_ok_iff.mp made) reached
      refine ⟨timeline, fun row inside owned same => ?_⟩
      exact syncLegacyAppliedMarkers_marks milestone listing row inside owned same
  | appendEvent userId applicationId data now =>
    obtain ⟨found, read, rest⟩ := bind_ok_iff.mp done
    obtain ⟨next, committed, rest⟩ := bind_ok_iff.mp rest
    cases rest
    rw [applications_syncLegacyAppliedMarkers] at member
    unfold setApplication at member
    dsimp only at member
    obtain ⟨old, inside, rfl⟩ := Table.mem_update.mp member
    obtain ⟨isFound, owner⟩ := ownedApplication_ok read
    by_cases here : old.id = applicationId
    · have same := Table.find_eq_some_iff.mpr ⟨inside, here⟩
      rw [isFound] at same
      cases same
      rw [if_pos here] at reached listing ⊢
      obtain ⟨milestone, timeline⟩ :=
        appendEvent_crosses (mapError_ok_iff.mp committed) (first _ inside rfl) reached
      refine ⟨timeline, fun row inside owned same => ?_⟩
      exact syncLegacyAppliedMarkers_marks milestone listing row inside (owned.trans owner) same
    · rw [if_neg here] at notBefore
      exact absurd inside notBefore
  | _ => exact absurd (applications_perform done rfl ▸ member) notBefore

/-- Once an application of an owner reaches a stage that implies its submission, every row of the
owner for its listing is marked, and stays marked in every run that resets no such marker by an
explicit null. -/
theorem appliedMarkers_last (run : (machineFrom fresh).Reachable before)
    (done : before.perform request = .ok after) {tracked : TrackedApplication}
    (member : tracked ∈ after.applications.rows)
    (reached : tracked.application.reachedApplied = true)
    (first : ∀ earlier ∈ before.applications.rows, earlier.id = tracked.id →
      earlier.application.reachedApplied = false)
    {job : TrackedJob} (inside : job ∈ after.jobs.rows) (owned : job.userId = tracked.userId)
    (isFor : after.isFor job.scrapedJobId tracked = true) :
    job.applied = some true ∧
      ∀ later, (machineFrom after).ReachableWhen KeepsMarkers later → later.IsMarked job := by
  have linked := perform_linked (reachable_linked run) done tracked member
  have listing := (isFor_iff linked job.scrapedJobId).mp isFor
  obtain ⟨timeline, marks⟩ := crossing_marks done member reached first listing
  have marker : job.applied = some true := marks job inside owned rfl
  refine ⟨marker, fun later continued => ?_⟩
  have isMarked : after.IsMarked job := ⟨job, inside, SameJob.refl job, marker⟩
  exact isMarked.lasts ⟨tracked, member, owned.symm, listing, timeline⟩ continued

end

end

/-! ### A marker that is lost -/

section

attribute [local instance] Pydantic.canonical TextTables.plain

/-- A moment of the run. -/
def markerMoment : DateTime := ⟨2026, 1, 1, 0, 0, 0, 0, by decide⟩

/-- What the run reads besides the tracker. -/
def markerReads : Reads where
  scrapedJob _ := {
    platform := "manual"
    platformJobId := "1"
    title := "Engineer"
    company := "Acme"
    description := none
    location := none
    externalUrl := "https://example.test/1"
    applicationUrl := none
    applicationEmail := none
    workload := none
    publicationDate := none }
  analysisVerified _ := false
  externalAnalysisVerified _ := false
  ownsResumeVersion _ := false

/-- The application that is submitted. -/
def submitted : ApplicationCreate where
  source := .job 1
  resumeVersionId := none
  initialStage := .applied
  note := none
  stageInitial := by decide

/-- The body `{"applied": null}`. -/
def nullUpdate : JobUpdate where
  applied := some none
  dismissed := none
  feedbackSignal := none
  signalKnown := nofun

/-- The tracker with one job. -/
def oneJob : JobTracker := fresh.addJob 1 7 none .absent

theorem reachable_oneJob : (machineFrom fresh).Reachable oneJob := by
  have created : (machineFrom fresh).step fresh (.createJob 1 7 none fun _ => false) =
      .ok oneJob := rfl
  exact .step (.initial rfl) trivial created

/-- The application marks the row of its listing, and the update takes the marker away. -/
theorem marker_cleared : ∃ after cleared tracked job,
    oneJob.perform (.createApplication 1 "a" markerReads submitted markerMoment) = .ok after ∧
    after.perform (.updateJob 1 1 nullUpdate markerMoment) = .ok cleared ∧
    after.applications.rows = [tracked] ∧ after.jobs.rows = [job] ∧
    tracked.application.reachedApplied = true ∧ job.userId = tracked.userId ∧
    after.isFor job.scrapedJobId tracked = true ∧
    cleared.jobs.rows.map TrackedJob.applied = [none] := by
  refine ⟨_, _, _, _, rfl, rfl, rfl, rfl, rfl, rfl, rfl, rfl⟩

theorem appliedMarkers_last_submitted : ∃ after job,
    oneJob.perform (.createApplication 1 "a" markerReads submitted markerMoment) = .ok after ∧
    after.jobs.rows = [job] ∧ job.applied = some true ∧
    ∀ later, (machineFrom after).ReachableWhen KeepsMarkers later → later.IsMarked job := by
  obtain ⟨after, -, tracked, job, done, -, applications, jobs, reached, owned, isFor, -⟩ :=
    marker_cleared
  have member : tracked ∈ after.applications.rows := by
    rw [applications]
    exact List.mem_singleton_self tracked
  have inside : job ∈ after.jobs.rows := by
    rw [jobs]
    exact List.mem_singleton_self job
  have result := appliedMarkers_last reachable_oneJob done member reached
    (fun _ none => absurd none List.not_mem_nil) inside owned isFor
  exact ⟨after, job, done, jobs, result⟩

/-- Not every run keeps the markers. -/
theorem appliedMarkers_lost :
    ¬∀ (before after : JobTracker) (request : Request), (machineFrom fresh).Reachable before →
      before.perform request = .ok after →
      ∀ tracked ∈ after.applications.rows, tracked.application.reachedApplied = true →
        (∀ earlier ∈ before.applications.rows, earlier.id = tracked.id →
          earlier.application.reachedApplied = false) →
        ∀ job ∈ after.jobs.rows, job.userId = tracked.userId →
          after.isFor job.scrapedJobId tracked = true →
          job.applied = some true ∧
            ∀ later, (machineFrom after).Reachable later → later.IsMarked job := by
  intro claimed
  obtain ⟨after, cleared, tracked, job, done, updated, applications, jobs, reached, owned, isFor,
    lost⟩ := marker_cleared
  have member : tracked ∈ after.applications.rows := by
    rw [applications]
    exact List.mem_singleton_self tracked
  have inside : job ∈ after.jobs.rows := by
    rw [jobs]
    exact List.mem_singleton_self job
  obtain ⟨-, lasts⟩ := claimed oneJob after _ reachable_oneJob done tracked member reached
    (fun _ none => absurd none List.not_mem_nil) job inside owned isFor
  have continued : (machineFrom after).step after (.updateJob 1 1 nullUpdate markerMoment) =
      .ok cleared := updated
  obtain ⟨kept, stands, -, marker⟩ := lasts cleared (.step (.initial rfl) trivial continued)
  have absent : kept.applied ∈ cleared.jobs.rows.map TrackedJob.applied :=
    List.mem_map_of_mem stands
  rw [lost, marker, List.mem_singleton] at absent
  cases absent

end

end JobTracker

end CareerOS
