/-
This file is the ownership of a running search. The durable lock of a profile is a row
that conditional updates change; each process has its reservations, its registered tasks
and its statuses. An operation is a few sections: those on the memory hold the lock of
the process, those on the row are one transaction, and anything may happen in between.

A transaction may raise; it is rolled back then. The moments in which a worker is slow are
the places where its operation is suspended.
-/

import CareerOS.Library.Json
import CareerOS.Library.Tasks

namespace CareerOS

/-! ### The row of a profile -/

/-- A status entry: its state, its token and the other keys. -/
structure StatusEntry where
  state : String
  reservationToken : Option String
  fields : Dict String Json
  deriving DecidableEq

/-- The lock columns and the persisted status of a search profile. -/
structure LockRow where
  searchLockToken : Option String
  searchLockState : Option String
  searchLockAcquiredAt : Option Rat
  searchStatus : Option StatusEntry
  deriving DecidableEq

def searchLockReserved : String := "reserved"

def searchLockActive : String := "active"

def reservationTtlSeconds : Rat := 30

/-- `_active_lock_ttl_seconds`, of the configured timeout. -/
def activeLockTtlSeconds (configuredTimeout : Int) : Rat :=
  (min (max configuredTimeout 30) (24 * 60 * 60) + 60 : Int)

namespace LockRow

/-- Was the lock taken so long ago? -/
def stale (row : LockRow) (before : Rat) : Bool :=
  match row.searchLockAcquiredAt with
  | none => true
  | some acquiredAt => acquiredAt < before

/-- The filter of `acquire_search_lock`. -/
def acquirable (row : LockRow) (activeTtl now : Rat) : Bool :=
  row.searchLockToken.isNone ||
    (row.searchLockState = some searchLockReserved && row.stale (now - reservationTtlSeconds)) ||
    (row.searchLockState = some searchLockActive && row.stale (now - activeTtl))

/-- `acquire_search_lock`; nothing where no row is updated. -/
def acquireSearchLock (row : LockRow) (token : String) (activeTtl now : Rat) : Option LockRow :=
  if row.acquirable activeTtl now = true then
    some { row with
      searchLockToken := some token
      searchLockState := some searchLockReserved
      searchLockAcquiredAt := some now }
  else none

/-- `activate_search_lock`. -/
def activateSearchLock (row : LockRow) (token : String) (now : Rat) : Option LockRow :=
  if row.searchLockToken = some token then
    some { row with
      searchLockState := some searchLockActive
      searchLockAcquiredAt := some now }
  else none

/-- `release_search_lock`; without a token it is not asked whose lock it is. -/
def releaseSearchLock (row : LockRow) (token : Option String) : Option LockRow :=
  if token = none ∨ row.searchLockToken = token then
    let searchStatus :=
      match row.searchStatus with
      | none => none
      | some entry =>
        if entry.state = searchLockReserved ∧ (token = none ∨ entry.reservationToken = token) then
          none
        else some entry
    some { searchLockToken := none, searchLockState := none, searchLockAcquiredAt := none,
           searchStatus }
  else none

end LockRow

/-! ### A process -/

structure Reservation where
  reservedAt : Rat
  token : String
  deriving DecidableEq

/-- `_reserved_tasks`, `_active_tasks` and `_statuses`. -/
structure ProcessMemory where
  reservedTasks : Nat → Option Reservation
  activeTasks : Nat → Option Nat
  statuses : Nat → Option StatusEntry

/-- The rows of the profiles, the processes, and which tasks are done. -/
structure SearchService where
  rows : Nat → Option LockRow
  processes : Nat → ProcessMemory
  finished : Nat → Bool

namespace ProcessMemory

/-- `_reserved_tasks.pop(profile_id, None)`. -/
def popReserved (memory : ProcessMemory) (profile : Nat) : ProcessMemory :=
  { memory with reservedTasks := Function.update memory.reservedTasks profile none }

def popActive (memory : ProcessMemory) (profile : Nat) : ProcessMemory :=
  { memory with activeTasks := Function.update memory.activeTasks profile none }

def putStatus (memory : ProcessMemory) (profile : Nat) (entry : Option StatusEntry) :
    ProcessMemory :=
  { memory with statuses := Function.update memory.statuses profile entry }

/-- `_cleanup_stale_reservations`, of one profile. -/
def cleanupProfile (memory : ProcessMemory) (finished : Nat → Bool) (now : Rat) (profile : Nat) :
    ProcessMemory :=
  let stale := (memory.reservedTasks profile).any fun reservation =>
    decide (reservationTtlSeconds < now - reservation.reservedAt)
  let reserved := (memory.statuses profile).any fun entry => entry.state = searchLockReserved
  let memory :=
    if stale = true then
      let memory := memory.popReserved profile
      if reserved = true then memory.putStatus profile none else memory
    else memory
  if (memory.activeTasks profile).any finished = true then memory.popActive profile else memory

/-- `_cleanup_stale_reservations`. -/
def cleanupStaleReservations (memory : ProcessMemory) (finished : Nat → Bool) (now : Rat) :
    ProcessMemory where
  reservedTasks profile := (memory.cleanupProfile finished now profile).reservedTasks profile
  activeTasks profile := (memory.cleanupProfile finished now profile).activeTasks profile
  statuses profile := (memory.cleanupProfile finished now profile).statuses profile

/-- `_task_slot_is_available`. -/
def slotAvailable (memory : ProcessMemory) (finished : Nat → Bool) (profile : Nat) : Bool :=
  match memory.activeTasks profile with
  | none => true
  | some task => finished task

/-- The first section of `release_task`, and whether the reservation was released in memory;
nothing where the reservation is of another token. -/
def releaseReservation (memory : ProcessMemory) (profile : Nat) (token : Option String) :
    Option (ProcessMemory × Bool) :=
  let reservation := memory.reservedTasks profile
  if token ≠ none ∧ reservation ≠ none ∧ reservation.map Reservation.token ≠ token then none
  else
    let memory := memory.popReserved profile
    match memory.statuses profile with
    | none => some (memory, reservation.isSome)
    | some entry =>
      if entry.state = searchLockReserved ∧ (token = none ∨ entry.reservationToken = token) then
        some (memory.putStatus profile none, reservation.isSome)
      else some (memory, reservation.isSome)

end ProcessMemory

namespace SearchService

/-- One section on the memory of a process. -/
def within (service : SearchService) (process : Nat) (memory : ProcessMemory) : SearchService :=
  { service with processes := Function.update service.processes process memory }

/-- One transaction on the row of a profile: it updates the row, or nothing. -/
def transact (service : SearchService) (profile : Nat) (change : LockRow → Option LockRow) :
    SearchService × Bool :=
  match (service.rows profile).bind change with
  | some row => ({ service with rows := Function.update service.rows profile (some row) }, true)
  | none => (service, false)

end SearchService

/-! ### The operations -/

/-- Where an operation is suspended. -/
inductive SearchPhase
  /-- `reserve_task`, before the transaction and before the memory is written. -/
  | acquiring (process profile : Nat) (token : String) (fields : Dict String Json)
  | recording (process profile : Nat) (token : String) (fields : Dict String Json)
  /-- `_persist_current_status`, before the snapshot and before the transaction. -/
  | snapshotting (process profile : Nat) (result : Bool)
  | persisting (profile : Nat) (entry : StatusEntry) (result : Bool)
  /-- `register_task`, before its transaction, its second section and its rollback. -/
  | activating (process profile task : Nat) (token : String)
  | finalizing (process profile task : Nat) (token : String)
  | rollingBack (profile : Nat) (token : String)
  /-- `release_task`, before its transaction. -/
  | releasing (profile : Nat) (token : Option String) (inMemoryReleased : Bool)
  /-- `cancel_and_clear_tasks`, before it has joined the tasks, and for each profile before the
  two parts of its release and of the clearing of its status. -/
  | joining (process : Nat) (profiles tasks : List Nat)
  | clearing (process : Nat) (profiles : List Nat)
  | clearingRow (process profile : Nat) (profiles : List Nat)
  | clearingStatus (process profile : Nat) (profiles : List Nat)
  | clearingPersisted (process profile : Nat) (profiles : List Nat)
  | ended (result : Bool)
  deriving DecidableEq

/-- What is asked of the service. -/
inductive SearchRequest
  | reserveTask (process profile : Nat) (token : String) (fields : Dict String Json) (now : Rat)
  | registerTask (process profile task : Nat) (token : Option String)
  | unregisterTask (process profile : Nat)
  | releaseTask (process profile : Nat) (token : Option String)
  | cancelTask (process profile : Nat)
  | cancelAndClearTasks (process : Nat) (profiles : List Nat)
  /-- `init_status` and `update_status`: an entry whose state is not the reserved one. -/
  | reportStatus (process profile : Nat) (entry : StatusEntry)
  /-- `_load_status_into_memory`, where the persisted entry is taken over. -/
  | loadStatus (process profile : Nat)
  /-- `_clear_persisted_status`, of an expired entry. -/
  | expireStatus (profile : Nat)
  | cleanup (process : Nat) (now : Rat)
  /-- A task is done. -/
  | finish (task : Nat)

namespace SearchService

variable (service : SearchService)

/-- The first section of an operation. -/
def begin_ : SearchRequest → Option (SearchService × SearchPhase)
  | .reserveTask process profile token fields now =>
    let memory := (service.processes process).cleanupStaleReservations service.finished now
    let service := service.within process memory
    if (memory.activeTasks profile).isSome ∨ (memory.reservedTasks profile).isSome then
      some (service, .ended false)
    else some (service, .acquiring process profile token fields)
  | .registerTask process profile task token =>
    let memory := service.processes process
    match token with
    | some token =>
      if (memory.reservedTasks profile).map Reservation.token ≠ some token then
        some (service, .ended false)
      else if memory.slotAvailable service.finished profile = false then
        some (service, .ended false)
      else some (service, .activating process profile task token)
    | none =>
      if memory.slotAvailable service.finished profile = false then some (service, .ended false)
      else some (service.within process { memory with
        activeTasks := Function.update memory.activeTasks profile (some task) }, .ended true)
  | .unregisterTask process profile =>
    let memory := service.processes process
    some (service.within process ((memory.popReserved profile).popActive profile), .ended true)
  | .releaseTask process profile token =>
    match (service.processes process).releaseReservation profile token with
    | none => some (service, .ended false)
    | some (memory, released) =>
      some (service.within process memory, .releasing profile token released)
  | .cancelTask process profile =>
    let memory := service.processes process
    some (service.within process (memory.popReserved profile),
      .ended (memory.activeTasks profile).isSome)
  | .cancelAndClearTasks process profiles =>
    let memory := service.processes process
    let tasks := profiles.filterMap fun profile =>
      (memory.activeTasks profile).filter fun task => !service.finished task
    some (service.within process (profiles.foldl ProcessMemory.popReserved memory),
      .joining process profiles tasks)
  | .reportStatus process profile entry =>
    if entry.state = searchLockReserved then none
    else
      let memory := service.processes process
      some (service.within process (memory.putStatus profile (some entry)),
        .snapshotting process profile true)
  | .loadStatus process profile =>
    match (service.rows profile).bind LockRow.searchStatus with
    | none => some (service, .ended false)
    | some entry =>
      some (service.within process ((service.processes process).putStatus profile (some entry)),
        .ended true)
  | .expireStatus profile =>
    let (service, cleared) := service.transact profile fun row =>
      some { row with searchStatus := none }
    some (service, .ended cleared)
  | .cleanup process now =>
    some (service.within process
      ((service.processes process).cleanupStaleReservations service.finished now), .ended true)
  | .finish task =>
    some ({ service with finished := Function.update service.finished task true }, .ended true)

/-- The next section of an operation, at the given time; its transaction may raise. -/
def turn (activeTtl : Rat) : SearchPhase → Rat × Bool → Option (SearchService × SearchPhase)
  | .acquiring process profile token fields, (now, raises) =>
    if raises then some (service, .ended false)
    else
      match service.transact profile fun row => row.acquireSearchLock token activeTtl now with
      | (service, true) => some (service, .recording process profile token fields)
      | (service, false) => some (service, .ended false)
  | .recording process profile token fields, (now, _) =>
    let memory := service.processes process
    let memory := { memory with
      reservedTasks := Function.update memory.reservedTasks profile (some ⟨now, token⟩) }
    let entry : StatusEntry := ⟨searchLockReserved, some token, fields⟩
    some (service.within process (memory.putStatus profile (some entry)),
      .snapshotting process profile true)
  | .snapshotting process profile result, _ =>
    match (service.processes process).statuses profile with
    | some entry => some (service, .persisting profile entry result)
    | none => some (service, .ended result)
  | .persisting profile entry result, (_, raises) =>
    if raises then some (service, .ended result)
    else
      let (service, _) := service.transact profile fun row =>
        some { row with searchStatus := some entry }
      some (service, .ended result)
  | .activating process profile task token, (now, raises) =>
    if raises then some (service, .ended false)
    else
      match service.transact profile fun row => row.activateSearchLock token now with
      | (service, true) => some (service, .finalizing process profile task token)
      | (service, false) => some (service, .ended false)
  | .finalizing process profile task token, _ =>
    let memory := service.processes process
    if memory.slotAvailable service.finished profile = false then
      some (service, .rollingBack profile token)
    else if (memory.reservedTasks profile).map Reservation.token ≠ some token then
      some (service, .rollingBack profile token)
    else
      let memory := memory.popReserved profile
      some (service.within process { memory with
        activeTasks := Function.update memory.activeTasks profile (some task) }, .ended true)
  | .rollingBack profile token, (_, raises) =>
    if raises then some (service, .ended false)
    else
      let (service, _) := service.transact profile fun row => row.releaseSearchLock (some token)
      some (service, .ended false)
  | .releasing profile token inMemoryReleased, (_, raises) =>
    if raises then some (service, .ended inMemoryReleased)
    else
      let (service, released) := service.transact profile fun row => row.releaseSearchLock token
      some (service, .ended (inMemoryReleased || released))
  | .joining process profiles tasks, _ =>
    -- The tasks are awaited.
    if tasks.all service.finished then some (service, .clearing process profiles) else none
  | .clearing _ [], _ => some (service, .ended true)
  | .clearing process (profile :: profiles), _ =>
    match (service.processes process).releaseReservation profile none with
    | none => none
    | some (memory, _) =>
      some (service.within process memory, .clearingRow process profile profiles)
  | .clearingRow process profile profiles, (_, raises) =>
    if raises then some (service, .clearingStatus process profile profiles)
    else
      let (service, _) := service.transact profile fun row => row.releaseSearchLock none
      some (service, .clearingStatus process profile profiles)
  | .clearingStatus process profile profiles, _ =>
    some (service.within process ((service.processes process).putStatus profile none),
      .clearingPersisted process profile profiles)
  | .clearingPersisted process _profile profiles, (_, true) =>
    some (service, .clearing process profiles)
  | .clearingPersisted process profile profiles, (_, false) =>
    let (service, _) := service.transact profile fun row => some { row with searchStatus := none }
    some (service, .clearing process profiles)
  | .ended _, _ => none

end SearchService

/-- Processes that start without reservations, tasks and statuses. -/
def SearchService.start (rows : Nat → Option LockRow) : SearchService where
  rows := rows
  processes _ := ⟨fun _ => none, fun _ => none, fun _ => none⟩
  finished _ := false

/-- The operations of all workers on all profiles, in any order of their sections. -/
def searchLoop (activeTtl : Rat) :
    EventLoop SearchService SearchPhase SearchRequest (Rat × Bool) where
  begin_ := SearchService.begin_
  turn service := service.turn activeTtl

def searchMachine (activeTtl : Rat) (rows : Nat → Option LockRow) :
    Machine (Tasks SearchService SearchPhase) (TaskEvent SearchRequest (Rat × Bool)) Unit :=
  (searchLoop activeTtl).machine (SearchService.start rows)

end CareerOS
