/-
This file is the jobs of the owners beside their applications. A job row is what
one owner keeps of a listing under one search profile, with the flags of the
owner on it; the same listing may have a row under each profile. An application
is for an opportunity, which is a listing of the catalog. Where its timeline has
reached a stage that implies a submission, the rows of that listing are marked
as applied.
-/

import CareerOS.Applications.Service
import CareerOS.Library.Machine
import CareerOS.Library.Table

namespace CareerOS

/-! ### Rows -/

/-- The columns of a job that an analysis writes, as far as a snapshot reads them. -/
structure SavedAnalysis where
  affinityScore : Option String
  affinityAnalysis : Option String
  worthApplying : Option Bool
  analysisExecutionId : Option String
  analysisRowFingerprint : Option String

/-- A job that no analysis has been saved for. -/
def SavedAnalysis.absent : SavedAnalysis where
  affinityScore := none
  affinityAnalysis := none
  worthApplying := some false
  analysisExecutionId := none
  analysisRowFingerprint := none

/-- `Job`, with the flags of its owner. The column `applied` may be null. -/
structure TrackedJob where
  id : Nat
  userId : Nat
  searchProfileId : Option Nat
  scrapedJobId : Nat
  analysis : SavedAnalysis
  applied : Option Bool
  viewedAt : Option DateTime
  dismissed : Bool
  dismissedAt : Option DateTime
  feedbackSignal : Option String

/-- `Application`, with its identifier and its owner. -/
structure TrackedApplication where
  id : String
  userId : Nat
  application : Application

/-- The jobs and the applications of the vault. -/
structure JobTracker where
  jobs : Table TrackedJob.id
  applications : Table TrackedApplication.id

/-- The answers to a request that is refused. -/
inductive TrackerError
  | http (status : Nat) (detail : String)
  | application (error : ApplicationError)
  /-- The `IntegrityError` of the database. -/
  | integrity
  deriving DecidableEq

/-! ### Opportunities -/

/-- `APPLICATION_MILESTONE_STAGES`. -/
def applicationMilestoneStages : List Stage :=
  [.applied, .screening, .interview, .offer, .accepted, .rejected]

/-- `_APPLICATION_TERMINAL_STAGES`. -/
def applicationTerminalStages : List Stage := [.withdrawn, .archived]

/-- `ApplicationEvent.stage.in_(APPLICATION_MILESTONE_STAGES)`. -/
def ApplicationEvent.isMilestone (event : ApplicationEvent) : Bool :=
  event.stage.any applicationMilestoneStages.contains

/-- Has the timeline reached a stage that implies a submission? -/
def Application.reachedApplied (application : Application) : Bool :=
  applicationMilestoneStages.contains application.currentStage ||
    application.events.any ApplicationEvent.isMilestone

namespace JobTracker

/-- Is the application for the listing, by itself or by the job it was made from? -/
def isFor (tracker : JobTracker) (scrapedJobId : Nat) (tracked : TrackedApplication) : Bool :=
  tracked.application.scrapedJobId == some scrapedJobId ||
    ((tracked.application.jobId.bind tracker.jobs.find).map TrackedJob.scrapedJobId) ==
      some scrapedJobId

/-- `_existing_logical_application`. -/
def existingLogicalApplication (tracker : JobTracker) (userId scrapedJobId : Nat) : Bool :=
  tracker.applications.rows.any fun tracked =>
    tracked.userId == userId && tracker.isFor scrapedJobId tracked

/-- `logical_opportunity_reached_applied`. -/
def logicalOpportunityReachedApplied (tracker : JobTracker) (userId scrapedJobId : Nat) : Bool :=
  tracker.applications.rows.any fun tracked =>
    tracked.userId == userId && tracker.isFor scrapedJobId tracked &&
      tracked.application.reachedApplied

/-- The job of an identifier, if the user owns it. -/
def ownedJob (tracker : JobTracker) (userId jobId : Nat) : Option TrackedJob :=
  (tracker.jobs.find jobId).filter fun job => job.userId == userId

/-- `_application_reached_applied`. -/
def applicationReachedApplied (application : Application) (stage : Stage) : Bool :=
  applicationMilestoneStages.contains stage ||
    applicationTerminalStages.contains stage &&
      application.events.any ApplicationEvent.isMilestone

/-- The row with its marker set, where it is a row of the listing. -/
def marked (userId scrapedJobId : Nat) (job : TrackedJob) : TrackedJob :=
  if job.userId = userId ∧ job.scrapedJobId = scrapedJobId ∧ job.applied ≠ some true then
    { job with applied := some true }
  else job

theorem marked_id (userId scrapedJobId : Nat) (job : TrackedJob) :
    (marked userId scrapedJobId job).id = job.id := by
  unfold marked
  split <;> rfl

/-- The listing whose rows a milestone of the application marks. -/
def markedListing (tracker : JobTracker) (userId : Nat) (application : Application)
    (job : Option TrackedJob) : Option Nat :=
  application.scrapedJobId <|> job.map TrackedJob.scrapedJobId <|>
    (application.jobId.bind (tracker.ownedJob userId)).map TrackedJob.scrapedJobId

/-- `_sync_legacy_applied_markers`. -/
def syncLegacyAppliedMarkers (tracker : JobTracker) (userId : Nat) (application : Application)
    (stage : Stage) (job : Option TrackedJob) : JobTracker :=
  if applicationReachedApplied application stage then
    match tracker.markedListing userId application job with
    | none => tracker
    | some scrapedJobId =>
      { tracker with
        jobs := tracker.jobs.update (marked userId scrapedJobId) (marked_id userId scrapedJobId) }
  else tracker

/-! ### Applications -/

/-- What a request reads besides the tracker: the listings, the checks of the analysis receipts,
and the resume versions. -/
structure Reads where
  scrapedJob : Nat → ScrapedJob
  analysisVerified : TrackedJob → Bool
  externalAnalysisVerified : TrackedJob → Bool
  ownsResumeVersion : String → Bool

/-- The job after `_mark_analysis_receipt`. -/
def Reads.job (reads : Reads) (row : TrackedJob) : Job where
  id := row.id
  scrapedJobId := row.scrapedJobId
  scrapedJob := reads.scrapedJob row.scrapedJobId
  affinityScore := row.analysis.affinityScore
  affinityAnalysis := row.analysis.affinityAnalysis
  worthApplying := row.analysis.worthApplying
  analysisExecutionId := row.analysis.analysisExecutionId
  analysisRowFingerprint := row.analysis.analysisRowFingerprint
  analysisVerified := reads.analysisVerified row
  externalAnalysisVerified := reads.externalAnalysisVerified row

def surroundings (tracker : JobTracker) (userId : Nat) (reads : Reads) : Surroundings where
  job jobId := (tracker.ownedJob userId jobId).map reads.job
  existingLogicalApplication := tracker.existingLogicalApplication userId
  ownsResumeVersion := reads.ownsResumeVersion

/-- The tracker with one more application. -/
def addApplication (tracker : JobTracker) (tracked : TrackedApplication) :
    Except TrackerError JobTracker :=
  if fresh : tracked.id ∉ tracker.applications.rows.map TrackedApplication.id then
    .ok { tracker with applications := tracker.applications.insert tracked fresh }
  else .error .integrity

/-- The tracker with another state of an application. -/
def setApplication (tracker : JobTracker) (applicationId : String) (application : Application) :
    JobTracker :=
  { tracker with
    applications := tracker.applications.update
      (fun tracked =>
        { tracked with
          application := if tracked.id = applicationId then application else tracked.application })
      fun _ => rfl }

/-- `_application`. -/
def ownedApplication (tracker : JobTracker) (userId : Nat) (applicationId : String) :
    Except TrackerError TrackedApplication :=
  match (tracker.applications.find applicationId).filter fun found => found.userId == userId with
  | some tracked => .ok tracked
  | none => .error (.application (.notFound "Application not found"))

section

variable [Pydantic] [TextTables]

/-- `ApplicationService.create`. -/
def createApplication (tracker : JobTracker) (userId : Nat) (drawn : String) (reads : Reads)
    (data : ApplicationCreate) (now : DateTime) : Except TrackerError JobTracker := do
  let application ← (create (tracker.surroundings userId reads) data now).mapError .application
  let added ← tracker.addApplication ⟨drawn, userId, application⟩
  return added.syncLegacyAppliedMarkers userId application data.initialStage
    (application.jobId.bind (tracker.ownedJob userId))

/-- `ApplicationService.append_event`. -/
def appendApplicationEvent (tracker : JobTracker) (userId : Nat) (applicationId : String)
    (data : ApplicationEventCreate) (now : DateTime) : Except TrackerError JobTracker := do
  let tracked ← tracker.ownedApplication userId applicationId
  let next ← (appendEvent data now tracked.application tracked.application).mapError .application
  return (tracker.setApplication applicationId next).syncLegacyAppliedMarkers userId next
    next.currentStage none

end

/-! ### Jobs -/

/-- `get_job_by_user_scraped_profile`. -/
def jobByUserScrapedProfile (tracker : JobTracker) (userId scrapedJobId : Nat)
    (searchProfileId : Option Nat) : Option TrackedJob :=
  tracker.jobs.rows.find? fun job =>
    job.userId == userId && job.scrapedJobId == scrapedJobId &&
      job.searchProfileId == searchProfileId

/-- A new row of a listing. No creation sets a flag. -/
def newJob (tracker : JobTracker) (userId scrapedJobId : Nat) (searchProfileId : Option Nat)
    (analysis : SavedAnalysis) : TrackedJob where
  id := tracker.jobs.nextKey
  userId
  searchProfileId
  scrapedJobId
  analysis
  applied := some false
  viewedAt := none
  dismissed := false
  dismissedAt := none
  feedbackSignal := none

def addJob (tracker : JobTracker) (userId scrapedJobId : Nat) (searchProfileId : Option Nat)
    (analysis : SavedAnalysis) : JobTracker :=
  { tracker with
    jobs := tracker.jobs.insert (tracker.newJob userId scrapedJobId searchProfileId analysis)
      tracker.jobs.nextKey_fresh }

/-- `repo.update` of one job: the row of the identifier is changed. -/
def setJob (tracker : JobTracker) (jobId : Nat) (change : TrackedJob → TrackedJob)
    (keeps : ∀ job, (change job).id = job.id) : JobTracker :=
  { tracker with
    jobs := tracker.jobs.update (fun job => if job.id = jobId then change job else job)
      fun job => by
        split
        · exact keeps job
        · rfl }

/-- `create_job`, after the catalog row of the listing was found or made. -/
def createJob (tracker : JobTracker) (userId scrapedJobId : Nat) (searchProfileId : Option Nat)
    (ownsProfile : Nat → Bool) : Except TrackerError JobTracker := do
  refuseWhen (searchProfileId.any fun profile => !ownsProfile profile)
    (.http 403 "Unauthorized profile access")
  match tracker.jobByUserScrapedProfile userId scrapedJobId searchProfileId with
  | some _ => return tracker
  | none => return tracker.addJob userId scrapedJobId searchProfileId .absent

/-- `save_single_job`, where nothing of it went stale: the analysis is written into the row of the
profile, or a row is made for it. -/
def saveSingleJob (tracker : JobTracker) (userId scrapedJobId : Nat)
    (searchProfileId : Option Nat) (analysis : SavedAnalysis) : JobTracker :=
  match tracker.jobByUserScrapedProfile userId scrapedJobId searchProfileId with
  | some existing =>
    tracker.setJob existing.id (fun job => { job with analysis }) fun _ => rfl
  | none => tracker.addJob userId scrapedJobId searchProfileId analysis

/-- `FEEDBACK_SIGNAL_VALUES`. -/
def feedbackSignalValues : List String :=
  ["too_senior", "too_junior", "wrong_domain", "bad_salary", "bad_location", "not_interested",
    "already_applied", "other"]

/-- `JobUpdate`. A field is left out, is null, or has a value. -/
structure JobUpdate where
  applied : Option (Option Bool)
  dismissed : Option (Option Bool)
  feedbackSignal : Option (Option String)
  signalKnown : ∀ signal, feedbackSignal = some (some signal) → signal ∈ feedbackSignalValues

/-- The job of a request, or its refusal. -/
def requestedJob (tracker : JobTracker) (userId jobId : Nat) : Except TrackerError TrackedJob :=
  match tracker.jobs.find jobId with
  | none => .error (.http 404 "Job not found")
  | some job => if job.userId ≠ userId then .error (.http 403 "Not authorized") else .ok job

/-- The marker that an update asks for; a reset after the milestone is left out. -/
def appliedUpdate (tracker : JobTracker) (userId : Nat) (job : TrackedJob) (updates : JobUpdate) :
    Option (Option Bool) :=
  if updates.applied = some (some false) ∧
      tracker.logicalOpportunityReachedApplied userId job.scrapedJobId then none
  else updates.applied

/-- The time of dismissal that an update asks for. -/
def dismissedAtUpdate (job : TrackedJob) (updates : JobUpdate) (now : DateTime) :
    Option (Option DateTime) :=
  if updates.dismissed = some (some true) ∧ !job.dismissed then some (some now)
  else if updates.dismissed = some (some false) then some none
  else none

/-- The row with the fields of an update. A null for `dismissed` does not come to a commit. -/
def updatedJob (applied : Option (Option Bool)) (dismissedAt : Option (Option DateTime))
    (updates : JobUpdate) (job : TrackedJob) : TrackedJob :=
  { job with
    applied := applied.getD job.applied
    dismissed := (updates.dismissed.getD (some job.dismissed)).getD job.dismissed
    dismissedAt := dismissedAt.getD job.dismissedAt
    feedbackSignal := updates.feedbackSignal.getD job.feedbackSignal }

/-- `update_job`. -/
def updateJob (tracker : JobTracker) (userId jobId : Nat) (updates : JobUpdate) (now : DateTime) :
    Except TrackerError JobTracker := do
  let job ← tracker.requestedJob userId jobId
  refuseWhen (updates.dismissed = some none) .integrity
  return tracker.setJob jobId
    (updatedJob (tracker.appliedUpdate userId job updates) (dismissedAtUpdate job updates now)
      updates) fun _ => rfl

/-- `record_view`. -/
def recordView (tracker : JobTracker) (userId jobId : Nat) (now : DateTime) :
    Except TrackerError JobTracker := do
  let job ← tracker.requestedJob userId jobId
  if job.viewedAt.isSome then return tracker
  else return tracker.setJob jobId (fun row => { row with viewedAt := some now }) fun _ => rfl

/-- `delete_job`: the row is dismissed, not removed. -/
def deleteJob (tracker : JobTracker) (userId jobId : Nat) (now : DateTime) :
    Except TrackerError JobTracker := do
  let _ ← tracker.requestedJob userId jobId
  return tracker.setJob jobId
    (fun row => { row with dismissed := true, dismissedAt := some now }) fun _ => rfl

/-! ### Runs -/

section

variable [Pydantic] [TextTables]

/-- The requests and the saves of a search, with what they read besides the tracker. -/
inductive Request
  | createApplication (userId : Nat) (drawn : String) (reads : Reads) (data : ApplicationCreate)
      (now : DateTime)
  | appendEvent (userId : Nat) (applicationId : String) (data : ApplicationEventCreate)
      (now : DateTime)
  | createJob (userId scrapedJobId : Nat) (searchProfileId : Option Nat)
      (ownsProfile : Nat → Bool)
  | updateJob (userId jobId : Nat) (updates : JobUpdate) (now : DateTime)
  | recordView (userId jobId : Nat) (now : DateTime)
  | deleteJob (userId jobId : Nat) (now : DateTime)
  | saveSingleJob (userId scrapedJobId : Nat) (searchProfileId : Option Nat)
      (analysis : SavedAnalysis)

/-- What a request does. -/
def perform (tracker : JobTracker) : Request → Except TrackerError JobTracker
  | .createApplication userId drawn reads data now =>
    tracker.createApplication userId drawn reads data now
  | .appendEvent userId applicationId data now =>
    tracker.appendApplicationEvent userId applicationId data now
  | .createJob userId scrapedJobId searchProfileId ownsProfile =>
    tracker.createJob userId scrapedJobId searchProfileId ownsProfile
  | .updateJob userId jobId updates now => tracker.updateJob userId jobId updates now
  | .recordView userId jobId now => tracker.recordView userId jobId now
  | .deleteJob userId jobId now => tracker.deleteJob userId jobId now
  | .saveSingleJob userId scrapedJobId searchProfileId analysis =>
    .ok (tracker.saveSingleJob userId scrapedJobId searchProfileId analysis)

/-- The tracker of a new vault. -/
def fresh : JobTracker := ⟨.empty, .empty⟩

/-- The tracker as a service, starting from one of its states. -/
def machineFrom (first : JobTracker) : Machine JobTracker Request TrackerError where
  initial tracker := tracker = first
  step := perform

end

end JobTracker

end CareerOS
