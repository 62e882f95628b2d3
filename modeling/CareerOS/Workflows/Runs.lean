/-
This file is the durable workflow runs. A run waits in the queue, is claimed by
a worker under a lease with an end, and ends as succeeded, failed or cancelled.
A claim is one conditional statement on the table. Every other operation reads
the row, checks what it read and writes later: the session writes the columns
that the operation assigned a new value, on the row as it is by then.
-/

import CareerOS.Library.Machine
import CareerOS.Library.Outcome
import CareerOS.Library.Table
import CareerOS.Library.TextScan
import CareerOS.Library.UnitOfWork
import CareerOS.Library.Url

namespace CareerOS

/-! ### Rows -/

/-- `WorkflowStatus`. -/
inductive RunStatus
  | queued
  | running
  | succeeded
  | failed
  | cancelled
  deriving DecidableEq

namespace RunStatus

/-- The statuses in which a run has ended. -/
def isTerminal (status : RunStatus) : Bool := [succeeded, failed, cancelled].contains status

end RunStatus

/-- `_payload_hash`. -/
class PayloadHash where
  payloadHash : Dict String Json → String

/-- `WorkflowRun`. A moment is the number of microseconds from the first one of `datetime`. -/
structure WorkflowRun where
  id : String
  userId : Nat
  workflowType : String
  idempotencyKey : String
  status : RunStatus
  payload : Dict String Json
  checkpoint : Dict String Json
  resultReference : Dict String Json
  progress : Rat
  attemptCount : Nat
  maxAttempts : Nat
  errorCode : Option String
  leaseOwner : Option String
  leaseExpiresAt : Option Int
  cancelRequestedAt : Option Int
  startedAt : Option Int
  finishedAt : Option Int
  createdAt : Int

/-- The columns of `uq_workflow_idempotency`. -/
def WorkflowRun.key (run : WorkflowRun) : Nat × String × String :=
  (run.userId, run.workflowType, run.idempotencyKey)

/-- The classes of the refusals, with their texts. -/
inductive WorkflowError
  | notFound (detail : String)
  | conflict (detail : String)
  | lease (detail : String)
  | cancelled (detail : String)
  | value (detail : String)
  /-- The `IntegrityError` of the database. -/
  | integrity
  /-- The `OverflowError` of a moment that `datetime` does not have. -/
  | overflow
  /-- The session has nothing to commit. -/
  | idle
  deriving DecidableEq

/-- The first moment after those of `datetime`. -/
def endOfTime : Int := 3652059 * 86400000000

/-- `now + timedelta(seconds=leaseSeconds)`. -/
def leaseEnd (now leaseSeconds : Int) : Except WorkflowError Int :=
  let moment := now + leaseSeconds * 1000000
  if 0 ≤ moment ∧ moment < endOfTime then .ok moment else .error .overflow

/-! ### Requests to enqueue -/

/-- `^[a-z][a-z0-9_.-]*$`. -/
def isWorkflowType (text : String) : Bool :=
  match text.toList with
  | [] => false
  | first :: rest =>
    ('a' ≤ first && first ≤ 'z') && rest.all fun letter =>
      ('a' ≤ letter && letter ≤ 'z') || ('0' ≤ letter && letter ≤ '9') ||
        ['_', '.', '-'].contains letter

/-- `WorkflowEnqueue`. -/
structure WorkflowEnqueue where
  workflowType : String
  idempotencyKey : String
  payload : Dict String Json
  maxAttempts : Nat
  typed : 1 ≤ workflowType.length ∧ workflowType.length ≤ 60 ∧ isWorkflowType workflowType = true
  keyed : 1 ≤ idempotencyKey.length ∧ idempotencyKey.length ≤ 160
  attempts : 1 ≤ maxAttempts ∧ maxAttempts ≤ 20

/-- The run that `enqueue` inserts. -/
def WorkflowEnqueue.run (data : WorkflowEnqueue) (userId : Nat) (id : String) (createdAt : Int) :
    WorkflowRun where
  id := id
  userId := userId
  workflowType := data.workflowType
  idempotencyKey := data.idempotencyKey
  status := .queued
  payload := data.payload
  checkpoint := []
  resultReference := []
  progress := 0
  attemptCount := 0
  maxAttempts := data.maxAttempts
  errorCode := none
  leaseOwner := none
  leaseExpiresAt := none
  cancelRequestedAt := none
  startedAt := none
  finishedAt := none
  createdAt := createdAt

/-! ### Claims -/

namespace WorkflowRun

/-- `lease_expires_at < now`, which a null is not. -/
def expiredBefore (run : WorkflowRun) (now : Int) : Bool := run.leaseExpiresAt.any (· < now)

/-- The first statement of `_reap_terminal_leases`: a cancelled run whose worker is gone. -/
def reapCancelled (now : Int) (run : WorkflowRun) : WorkflowRun :=
  if run.status = .running ∧ run.expiredBefore now = true ∧ run.cancelRequestedAt ≠ none then
    { run with
      status := .cancelled
      leaseOwner := none
      leaseExpiresAt := none
      finishedAt := some now
      errorCode := none }
  else run

/-- The second statement of `_reap_terminal_leases`: a run whose last attempt is over. -/
def reapFailed (now : Int) (run : WorkflowRun) : WorkflowRun :=
  if run.status = .running ∧ run.expiredBefore now = true ∧ run.maxAttempts ≤ run.attemptCount then
    { run with
      status := .failed
      leaseOwner := none
      leaseExpiresAt := none
      finishedAt := some now
      errorCode := some "lease_expired" }
  else run

/-- Can the run be claimed? An empty list of types asks for no type. -/
def eligible (workflowTypes : List String) (now : Int) (run : WorkflowRun) : Bool :=
  run.cancelRequestedAt == none && decide (run.attemptCount < run.maxAttempts) &&
    (run.status == .queued || run.status == .running && run.expiredBefore now) &&
    (workflowTypes.isEmpty || workflowTypes.contains run.workflowType)

/-- The columns that a claim writes. -/
def claimed (workerId : String) (now expires : Int) (run : WorkflowRun) : WorkflowRun :=
  { run with
    status := .running
    leaseOwner := some workerId
    leaseExpiresAt := some expires
    attemptCount := run.attemptCount + 1
    startedAt := some (run.startedAt.getD now)
    finishedAt := none
    errorCode := none }

/-- The row of the claimed run after the claim, any other row as it was. -/
def claimedIf (runId workerId : String) (now expires : Int) (run : WorkflowRun) : WorkflowRun :=
  if run.id = runId then run.claimed workerId now expires else run

end WorkflowRun

/-! ### Operations that read first -/

/-- The operations on one run, with their arguments. -/
inductive RunOperation
  | checkpoint (workerId : String) (reached : Dict String Json) (progress : Rat)
      (leaseSeconds : Int)
  | complete (workerId : String) (resultReference : Option (Dict String Json))
  | fail (workerId errorCode : String) (retryable : Bool)
  | requestCancel (userId : Nat)
  | acknowledgeCancellation (workerId : String)
  | retry (userId : Nat)

/-- The characters that an error code keeps. -/
def isCodeLetter (letter : Char) : Bool :=
  ('a' ≤ letter && letter ≤ 'z') || ('0' ≤ letter && letter ≤ '9') ||
    ['_', '.', '-'].contains letter

/-- `_error_code`. -/
def errorCode [TextTables] (value : String) : String :=
  let letters := Text.collapse (fun letter => !isCodeLetter letter) '_'
    (TextTables.lower value).toList
  let normalized := String.ofList ((letters.dropWhile (· == '_')).rdropWhile (· == '_'))
  Text.slice (Text.orElse normalized "workflow_error") 80

/-- The checks of `_leased`. -/
def WorkflowRun.leased (run : WorkflowRun) (workerId : String) (now : Int) :
    Except WorkflowError Unit := do
  refuseWhen (run.status ≠ .running ∨ run.leaseOwner ≠ some workerId)
    (.lease "Workflow lease is not owned by this worker")
  refuseWhen (run.cancelRequestedAt ≠ none) (.cancelled "Workflow cancellation was requested")
  refuseWhen (run.leaseExpiresAt.all (· < now) = true) (.lease "Workflow lease has expired")

/-- The columns that an operation assigns. -/
structure AssignedColumns where
  status : Option RunStatus := none
  checkpoint : Option (Dict String Json) := none
  resultReference : Option (Dict String Json) := none
  progress : Option Rat := none
  attemptCount : Option Nat := none
  errorCode : Option (Option String) := none
  leaseOwner : Option (Option String) := none
  leaseExpiresAt : Option (Option Int) := none
  cancelRequestedAt : Option (Option Int) := none
  finishedAt : Option (Option Int) := none

namespace RunOperation

/-- The worker that the operation is of. -/
def worker : RunOperation → Option String
  | checkpoint workerId _ _ _ | complete workerId _ | fail workerId _ _
  | acknowledgeCancellation workerId => some workerId
  | requestCancel _ | retry _ => none

/-- Does the operation look for the run among those of a user? -/
def finds : RunOperation → WorkflowRun → Bool
  | requestCancel userId, run | retry userId, run => run.userId == userId
  | _, _ => true

/-- What the operation checks of the row it read. -/
def check (operation : RunOperation) (now : Int) (run : WorkflowRun) : Except WorkflowError Unit :=
  match operation with
  | checkpoint workerId _ progress _ => do
    run.leased workerId now
    refuseWhen (¬(0 ≤ progress ∧ progress ≤ 1)) (.value "progress must be between 0 and 1")
  | complete workerId _ | fail workerId _ _ => run.leased workerId now
  | requestCancel _ => .ok ()
  | acknowledgeCancellation workerId => do
    refuseWhen (run.status ≠ .running ∨ run.leaseOwner ≠ some workerId)
      (.lease "Workflow lease is not owned by this worker")
    refuseWhen (run.cancelRequestedAt = none) (.conflict "Workflow cancellation was not requested")
  | retry _ =>
    refuseWhen (run.status ≠ .failed ∧ run.status ≠ .cancelled)
      (.conflict "Only failed or cancelled workflows can be retried")

/-- Does the operation return without a write? -/
def returnsAtOnce : RunOperation → WorkflowRun → Bool
  | requestCancel _, run => run.status.isTerminal
  | _, _ => false

/-- `should_retry`. -/
def shouldRetry (retryable : Bool) (run : WorkflowRun) : Bool :=
  retryable && decide (run.attemptCount < run.maxAttempts)

/-- The columns that the operation assigns, at a second reading of the clock. -/
def assign [TextTables] (operation : RunOperation) (now : Int) (run : WorkflowRun) :
    Except WorkflowError AssignedColumns :=
  match operation with
  | checkpoint _ reached progress leaseSeconds => do
    let expires ← leaseEnd now leaseSeconds
    return {
      checkpoint := some reached
      progress := some progress
      leaseExpiresAt := some (some expires) }
  | complete _ resultReference =>
    .ok {
      status := some .succeeded
      progress := some 1
      resultReference := some (resultReference.getD [])
      leaseOwner := some none
      leaseExpiresAt := some none
      finishedAt := some (some now)
      errorCode := some none }
  | fail _ code retryable =>
    .ok {
      status := some (if shouldRetry retryable run then .queued else .failed)
      errorCode := some (some (CareerOS.errorCode code))
      leaseOwner := some none
      leaseExpiresAt := some none
      finishedAt := some (if shouldRetry retryable run then none else some now) }
  | requestCancel _ =>
    .ok {
      cancelRequestedAt := some (some now)
      status := if run.status = .queued then some .cancelled else none
      finishedAt := if run.status = .queued then some (some now) else none }
  | acknowledgeCancellation _ =>
    .ok {
      status := some .cancelled
      leaseOwner := some none
      leaseExpiresAt := some none
      finishedAt := some (some now) }
  | retry _ =>
    .ok {
      status := some .queued
      attemptCount := some 0
      errorCode := some none
      cancelRequestedAt := some none
      finishedAt := some none
      leaseOwner := some none
      leaseExpiresAt := some none }

end RunOperation

/-! ### Commits -/

/-- The row after the commit of a session that read one and assigned columns of it. -/
def AssignedColumns.flush [JsonEquality] (assigned : AssignedColumns) (seen current : WorkflowRun) :
    WorkflowRun :=
  { current with
    status := flushed seen.status current.status assigned.status
    checkpoint := flushedObject seen.checkpoint current.checkpoint assigned.checkpoint
    resultReference :=
      flushedObject seen.resultReference current.resultReference assigned.resultReference
    progress := flushed seen.progress current.progress assigned.progress
    attemptCount := flushed seen.attemptCount current.attemptCount assigned.attemptCount
    errorCode := flushed seen.errorCode current.errorCode assigned.errorCode
    leaseOwner := flushed seen.leaseOwner current.leaseOwner assigned.leaseOwner
    leaseExpiresAt :=
      flushedMoment seen.leaseExpiresAt current.leaseExpiresAt assigned.leaseExpiresAt
    cancelRequestedAt :=
      flushedMoment seen.cancelRequestedAt current.cancelRequestedAt assigned.cancelRequestedAt
    finishedAt := flushedMoment seen.finishedAt current.finishedAt assigned.finishedAt }

/-- An operation that has read its row, passed its check and not yet committed. -/
structure PendingWrite [TextTables] where
  operation : RunOperation
  seen : WorkflowRun
  assigned : AssignedColumns
  checked : ∃ now, operation.check now seen = .ok ()
  continues : operation.returnsAtOnce seen = false
  assigns : ∃ now, operation.assign now seen = .ok assigned

/-- What a session has in flight: a run to insert, or a write. -/
inductive Pending [TextTables]
  | enqueue (userId : Nat) (data : WorkflowEnqueue)
  | write (pending : PendingWrite)

/-- The row after the commit, where it is the one that the session read. -/
def PendingWrite.flush [TextTables] [JsonEquality] (pending : PendingWrite) (run : WorkflowRun) :
    WorkflowRun :=
  if run.id = pending.seen.id then pending.assigned.flush pending.seen run else run

/-! ### The table -/

/-- A row that is still of the same run. -/
structure SameRun (run next : WorkflowRun) : Prop where
  id : next.id = run.id
  key : next.key = run.key
  maxAttempts : next.maxAttempts = run.maxAttempts

theorem SameRun.refl (run : WorkflowRun) : SameRun run run := ⟨rfl, rfl, rfl⟩

theorem SameRun.trans {run next last : WorkflowRun} (one : SameRun run next)
    (two : SameRun next last) : SameRun run last :=
  ⟨two.id.trans one.id, two.key.trans one.key, two.maxAttempts.trans one.maxAttempts⟩

/-- The table under its unique constraint. -/
structure WorkflowTable where
  runs : Table WorkflowRun.id
  distinct : (runs.rows.map WorkflowRun.key).Nodup

namespace WorkflowTable

/-- A statement that writes rows, none of whose identity it changes. -/
def update (table : WorkflowTable) (change : WorkflowRun → WorkflowRun)
    (same : ∀ run, SameRun run (change run)) : WorkflowTable where
  runs := table.runs.update change fun run => (same run).id
  distinct := by
    have kept : (table.runs.rows.map change).map WorkflowRun.key =
        table.runs.rows.map WorkflowRun.key := by
      rw [List.map_map]
      exact List.map_congr_left fun run _ => (same run).key
    unfold Table.update
    rw [kept]
    exact table.distinct

/-- The insertion of a run, which the constraints may refuse. -/
def insert (table : WorkflowTable) (run : WorkflowRun) : Except WorkflowError WorkflowTable :=
  if fresh : run.id ∉ table.runs.rows.map WorkflowRun.id then
    if unused : run.key ∉ table.runs.rows.map WorkflowRun.key then
      .ok {
        runs := table.runs.insert run fresh
        distinct := by
          unfold Table.insert
          rw [List.map_append, List.map_singleton, ← List.concat_eq_append]
          exact (List.nodup_concat _ _).mpr ⟨unused, table.distinct⟩ }
    else .error .integrity
  else .error .integrity

end WorkflowTable

theorem WorkflowRun.reapCancelled_same (now : Int) (run : WorkflowRun) :
    SameRun run (run.reapCancelled now) := by
  unfold reapCancelled
  split <;> exact ⟨rfl, rfl, rfl⟩

theorem WorkflowRun.reapFailed_same (now : Int) (run : WorkflowRun) :
    SameRun run (run.reapFailed now) := by
  unfold reapFailed
  split <;> exact ⟨rfl, rfl, rfl⟩

theorem WorkflowRun.claimedIf_same (runId workerId : String) (now expires : Int)
    (run : WorkflowRun) : SameRun run (run.claimedIf runId workerId now expires) := by
  unfold claimedIf
  split <;> exact ⟨rfl, rfl, rfl⟩

theorem PendingWrite.flush_same [TextTables] [JsonEquality] (pending : PendingWrite)
    (run : WorkflowRun) : SameRun run (pending.flush run) := by
  unfold flush
  split <;> exact ⟨rfl, rfl, rfl⟩

/-! ### The service -/

/-- The table, and what each session has in flight. -/
structure WorkflowVault [TextTables] where
  table : WorkflowTable
  inFlight : Nat → Option Pending

/-- One step of a session. -/
inductive WorkflowAction
  | claim (workerId : String) (workflowTypes : List String) (leaseSeconds now : Int)
  /-- `enqueue` looks for the key. -/
  | lookUp (session userId : Nat) (data : WorkflowEnqueue)
  /-- `enqueue` inserts the run. -/
  | insert (session : Nat) (id : String) (createdAt : Int)
  /-- An operation reads the run, checks it and assigns columns of it. -/
  | read (session : Nat) (runId : String) (operation : RunOperation) (now later : Int)
  /-- The operation commits. -/
  | commit (session : Nat)

namespace WorkflowVault

variable [TextTables] [JsonEquality] [PayloadHash] (vault : WorkflowVault)

/-- Record what one session has in flight. -/
def setFlight (session : Nat) (pending : Option Pending) : WorkflowVault :=
  { vault with inFlight := Function.update vault.inFlight session pending }

/-- The order of `Int` that runs, not the one of its complete lattice. -/
local instance (priority := 2000) instPreorderMoment : Preorder Int :=
  Int.instLinearOrder.toPreorder

/-- The run that a claim takes: the oldest that can be claimed. -/
def candidate (table : WorkflowTable) (workflowTypes : List String) (now : Int) :
    Option WorkflowRun :=
  (table.runs.rows.filter (WorkflowRun.eligible workflowTypes now)).argmin
    fun run => toLex (run.createdAt, run.id)

/-- `_reap_terminal_leases`. -/
def reapTerminalLeases (table : WorkflowTable) (now : Int) : WorkflowTable :=
  (table.update (WorkflowRun.reapCancelled now) (WorkflowRun.reapCancelled_same now)).update
    (WorkflowRun.reapFailed now) (WorkflowRun.reapFailed_same now)

/-- `claim`. -/
def claim (table : WorkflowTable) (workerId : String) (workflowTypes : List String)
    (leaseSeconds now : Int) : Except WorkflowError WorkflowTable := do
  refuseWhen (Text.blank workerId = true) (.value "worker_id is required")
  refuseWhen (leaseSeconds < 1) (.value "lease_seconds must be positive")
  let reaped := reapTerminalLeases table now
  let expires ← leaseEnd now leaseSeconds
  match candidate reaped workflowTypes now with
  | none => return reaped
  | some run =>
    return reaped.update (WorkflowRun.claimedIf run.id workerId now expires)
      (WorkflowRun.claimedIf_same run.id workerId now expires)

/-- The first part of an operation: what it has in flight afterwards. -/
def readRun (runId : String) (operation : RunOperation) (now later : Int) :
    Except WorkflowError (Option Pending) :=
  match (vault.table.runs.find runId).filter operation.finds with
  | none => .error (.notFound "Workflow not found")
  | some seen =>
    match checked : operation.check now seen with
    | .error refusal => .error refusal
    | .ok _ =>
      if continues : operation.returnsAtOnce seen = false then
        match assigns : operation.assign later seen with
        | .error refusal => .error refusal
        | .ok assigned =>
          .ok (some (.write ⟨operation, seen, assigned, ⟨now, checked⟩, continues,
            ⟨later, assigns⟩⟩))
      else .ok none

/-- The first part of `enqueue`. -/
def lookUpKey (userId : Nat) (data : WorkflowEnqueue) : Except WorkflowError (Option Pending) :=
  match vault.table.runs.rows.find? fun run =>
      run.key == (userId, data.workflowType, data.idempotencyKey) with
  | none => .ok (some (.enqueue userId data))
  | some existing =>
    if PayloadHash.payloadHash existing.payload = PayloadHash.payloadHash data.payload then
      .ok none
    else .error (.conflict "Idempotency key is already associated with a different payload")

/-- One step of the service. -/
def step (vault : WorkflowVault) : WorkflowAction → Except WorkflowError WorkflowVault
  | .claim workerId workflowTypes leaseSeconds now => do
    let table ← claim vault.table workerId workflowTypes leaseSeconds now
    return { vault with table := table }
  | .lookUp session userId data => do
    let pending ← vault.lookUpKey userId data
    return vault.setFlight session pending
  | .insert session id createdAt =>
    match vault.inFlight session with
    | some (.enqueue userId data) => do
      let table ← vault.table.insert (data.run userId id createdAt)
      return { vault.setFlight session none with table := table }
    | _ => .error .idle
  | .read session runId operation now later => do
    let pending ← vault.readRun runId operation now later
    return vault.setFlight session pending
  | .commit session =>
    match vault.inFlight session with
    | some (.write pending) =>
      .ok { vault.setFlight session none with
        table := vault.table.update pending.flush pending.flush_same }
    | _ => .error .idle

end WorkflowVault

end CareerOS
