/-
This file is the schedules of the searches: the columns of a search profile that ask for
one, and the jobs that the scheduler of the running process holds for them. The jobs are
in memory only. A process that starts loads them from the profiles, and of the requests
that write the columns only the toggle and the deletion tell the scheduler.

A run agrees with its profiles as long as no other request switches a schedule, no
request changes the interval of one that is on, and every interval that is switched on is
one that the scheduler can count with.
-/

import CareerOS.Library.Machine
import CareerOS.Library.Outcome
import CareerOS.Library.Table

namespace CareerOS

namespace Scheduler

/-- `IntervalTrigger(hours=...)`: can it count so many hours from this moment? -/
class IntervalTriggers where
  accepts : (now hours : Int) → Bool

/-- The columns of a search profile that schedules read. -/
structure SearchProfile where
  id : Nat
  userId : Nat
  scheduleEnabled : Option Bool
  scheduleIntervalHours : Option Int
  deriving DecidableEq

/-- The jobs of the scheduler: the interval of the job of a profile. -/
abbrev Jobs := Nat → Option Int

/-- The stored profiles, and the scheduler of the process, when one runs. -/
structure State where
  profiles : Table SearchProfile.id
  jobs : Jobs
  running : Bool

/-- An integer that a column can hold. -/
def storable (value : Option Int) : Prop := ∀ number ∈ value, -2 ^ 63 ≤ number ∧ number < 2 ^ 63

instance (value : Option Int) : Decidable (storable value) := by
  unfold storable
  infer_instance

/-! ### The scheduler -/

/-- `_normalized_interval_hours`. -/
def normalizedIntervalHours (value : Option Int) : Int :=
  match value with
  | some hours => if hours < 1 then 24 else hours
  | none => 24

section

variable [IntervalTriggers]

/-- `add_schedule`, and whether it returns. -/
def addSchedule (now : Int) (jobs : Jobs) (profileId : Nat) (intervalHours : Int) : Jobs × Bool :=
  if profileId < 1 then (jobs, false)
  else
    let hours := normalizedIntervalHours (some intervalHours)
    -- The job that was there is removed before the trigger is made.
    let removed := Function.update jobs profileId none
    if IntervalTriggers.accepts now hours then
      (Function.update removed profileId (some hours), true)
    else (removed, false)

/-- `remove_schedule`, and whether it returns. -/
def removeSchedule (jobs : Jobs) (profileId : Nat) : Jobs × Bool :=
  if profileId < 1 then (jobs, false) else (Function.update jobs profileId none, true)

/-- The loop of `start_scheduler`; an exception ends it. -/
def loadSchedules (now : Int) : List SearchProfile → Jobs → Jobs
  | [], jobs => jobs
  | profile :: rest, jobs =>
    let added := addSchedule now jobs profile.id
      (normalizedIntervalHours profile.scheduleIntervalHours)
    if added.2 then loadSchedules now rest added.1 else added.1

/-- `get_scheduled_profiles`. -/
def scheduledProfiles (profiles : Table SearchProfile.id) : List SearchProfile :=
  profiles.rows.filter fun profile => profile.scheduleEnabled = some true

/-! ### The requests -/

/-- What a request is refused with. -/
inductive Refusal
  | down
  | running
  | invalid
  | notFound
  | notAuthorized
  | database
  deriving DecidableEq

/-- A field of a request body: absent, or given, where it may be null. -/
abbrev Given (Value : Type) := Option (Option Value)

inductive Action
  /-- The process starts. -/
  | start (now : Int)
  /-- The process ends. -/
  | shutdown
  | createProfile (userId : Nat) (scheduleEnabled : Option Bool) (scheduleIntervalHours : Option Int)
  | updateProfile (userId profileId : Nat) (scheduleEnabled : Given Bool)
      (scheduleIntervalHours : Given Int)
  | toggleSchedule (now : Int) (userId profileId : Nat) (enabled : Bool)
      (intervalHours : Option Int)
  | startSearch (userId : Nat) (id : Option Int) (scheduleEnabled : Given Bool)
      (scheduleIntervalHours : Given Int)
  /-- A deletion; the database may refuse it. -/
  | deleteProfile (userId profileId : Nat) (commits : Bool)
  /-- The job of a profile is due. -/
  | runScheduledSearch (profileId : Nat)

/-- The interval that the schemas take. -/
def validInterval (hours : Option Int) : Prop := ∀ number ∈ hours, 1 ≤ number

instance (hours : Option Int) : Decidable (validInterval hours) := by
  unfold validInterval
  infer_instance

/-- A new row; a column that is null takes its default. -/
def newProfile (id userId : Nat) (enabled : Option Bool) (hours : Option Int) : SearchProfile :=
  ⟨id, userId, some (enabled.getD false), some (hours.getD 24)⟩

/-- The row that a request of the user may change. -/
def ownedProfile (state : State) (userId profileId : Nat) : Except Refusal SearchProfile :=
  match state.profiles.find profileId with
  | none => .error .notFound
  | some profile => if profile.userId = userId then .ok profile else .error .notAuthorized

/-- The change of one row. -/
def SearchProfile.setSchedule (profileId : Nat) (enabled : Option Bool) (hours : Option Int)
    (profile : SearchProfile) : SearchProfile :=
  if profile.id = profileId then
    { profile with scheduleEnabled := enabled, scheduleIntervalHours := hours }
  else profile

omit [IntervalTriggers] in
theorem id_setSchedule (profileId : Nat) (enabled : Option Bool) (hours : Option Int)
    (profile : SearchProfile) : (profile.setSchedule profileId enabled hours).id = profile.id := by
  unfold SearchProfile.setSchedule
  split
  · rfl
  · rfl

/-- The table after a row has been written. -/
def writeSchedule (profiles : Table SearchProfile.id) (profileId : Nat) (enabled : Option Bool)
    (hours : Option Int) : Table SearchProfile.id :=
  profiles.update (SearchProfile.setSchedule profileId enabled hours)
    (id_setSchedule profileId enabled hours)

/-- The table without a row. -/
def dropProfile (profiles : Table SearchProfile.id) (profileId : Nat) : Table SearchProfile.id where
  rows := profiles.rows.filter fun profile => profile.id ≠ profileId
  distinct := (List.filter_sublist.map _).nodup profiles.distinct

/-- `ProfileService.create_profile`. -/
def createProfile (state : State) (userId : Nat) (enabled : Option Bool) (hours : Option Int) :
    Except Refusal State := do
  refuseWhen (¬validInterval hours) .invalid
  refuseWhen (¬storable hours) .database
  pure { state with
    profiles := state.profiles.insert (newProfile state.profiles.nextKey userId enabled hours)
      state.profiles.nextKey_fresh }

/-- `ProfileService.update_profile`. -/
def updateProfile (state : State) (userId profileId : Nat) (enabled : Given Bool)
    (hours : Given Int) : Except Refusal State := do
  refuseWhen (¬validInterval (hours.getD none)) .invalid
  let profile ← ownedProfile state userId profileId
  refuseWhen (¬storable (hours.getD none)) .database
  pure { state with
    profiles := writeSchedule state.profiles profileId (enabled.getD profile.scheduleEnabled)
      (hours.getD profile.scheduleIntervalHours) }

/-- The interval that a toggle leaves in the row: `0` and null are not written. -/
def toggledInterval (profile : SearchProfile) (intervalHours : Option Int) : Option Int :=
  match intervalHours with
  | some hours => if hours = 0 then profile.scheduleIntervalHours else some hours
  | none => profile.scheduleIntervalHours

/-- The interval that a toggle schedules: that of the row, or 24. -/
def scheduledInterval (stored : Option Int) : Int :=
  match stored with
  | some hours => if hours = 0 then 24 else hours
  | none => 24

/-- `ProfileService.toggle_schedule`. The scheduler is told after the row is committed. -/
def toggleSchedule (state : State) (now : Int) (userId profileId : Nat) (enabled : Bool)
    (intervalHours : Option Int) : Except Refusal State := do
  let profile ← ownedProfile state userId profileId
  let stored := toggledInterval profile intervalHours
  refuseWhen (¬storable intervalHours) .database
  let profiles := writeSchedule state.profiles profileId (some enabled) stored
  let jobs := if enabled then (addSchedule now state.jobs profileId (scheduledInterval stored)).1
    else (removeSchedule state.jobs profileId).1
  pure { state with profiles := profiles, jobs := jobs }

/-- The profile that `start_search` makes or reruns. -/
def startSearch (state : State) (userId : Nat) (id : Option Int) (enabled : Given Bool)
    (hours : Given Int) : Except Refusal State := do
  refuseWhen (¬validInterval (hours.getD none)) .invalid
  match id with
  | none => createProfile state userId (enabled.getD none) (hours.getD none)
  | some given =>
    -- An identifier of zero is falsy, and goes into the new row as it is.
    if given = 0 then do
      refuseWhen (¬storable (hours.getD none)) .database
      if fresh : 0 ∉ state.profiles.rows.map SearchProfile.id then
        pure { state with
          profiles := state.profiles.insert
            (newProfile 0 userId (enabled.getD none) (hours.getD none)) fresh }
      else .error .database
    else if given < 0 then .error .notAuthorized
    else do
      let _ ← ownedProfile state userId given.toNat
      pure state

/-- `ProfileService.delete_profile`. The job is removed before the row. -/
def deleteProfile (state : State) (userId profileId : Nat) (commits : Bool) :
    Except Refusal State := do
  let _ ← ownedProfile state userId profileId
  let removed := removeSchedule state.jobs profileId
  refuseWhen (removed.2 = false) .invalid
  pure { state with
    jobs := removed.1
    profiles := if commits then dropProfile state.profiles profileId else state.profiles }

/-- `_run_scheduled_search`, as far as the schedules go. -/
def runScheduledSearch (state : State) (profileId : Nat) : State :=
  if profileId < 1 then state
  else
    match state.profiles.find profileId with
    | none => { state with jobs := (removeSchedule state.jobs profileId).1 }
    | some _ => state

/-- One request, or the start or the end of the process. -/
def step (state : State) (action : Action) : Except Refusal State :=
  match action with
  | .start now =>
    if state.running then .error .running
    else .ok { state with
      jobs := loadSchedules now (scheduledProfiles state.profiles) fun _ => none
      running := true }
  | action =>
    if state.running then
      match action with
      | .start _ => .error .running
      | .shutdown => .ok { state with jobs := fun _ => none, running := false }
      | .createProfile userId enabled hours => createProfile state userId enabled hours
      | .updateProfile userId profileId enabled hours =>
        updateProfile state userId profileId enabled hours
      | .toggleSchedule now userId profileId enabled hours =>
        toggleSchedule state now userId profileId enabled hours
      | .startSearch userId id enabled hours => startSearch state userId id enabled hours
      | .deleteProfile userId profileId commits => deleteProfile state userId profileId commits
      | .runScheduledSearch profileId => .ok (runScheduledSearch state profileId)
    else .error .down

/-- The searches of an installation, from before its first start. -/
def machine : Machine State Action Refusal where
  initial state := state.profiles = Table.empty ∧ state.running = false
  step := step

end

end Scheduler

end CareerOS
