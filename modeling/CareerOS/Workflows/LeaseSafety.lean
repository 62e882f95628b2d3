/-
This file proves what the leases guarantee. The constraints, the count of
attempts and the one lease of a run hold in every interleaving. That a worker
changes no run that another has claimed, that a run which ended changes only by
a retry, that a cancelled run neither succeeds nor waits again, and that no run
is stranded, hold as long as no other commit changes what an operation has
checked before it commits: the commit does not check again.
-/

import CareerOS.Workflows.Runs

namespace CareerOS

variable {now : Int}

section

/-! ### One row -/

/-- A run that is not stranded. -/
structure WorkflowRun.Sound (run : WorkflowRun) : Prop where
  positive : 0 < run.maxAttempts
  attempts : run.attemptCount ≤ run.maxAttempts
  queued : run.status = .queued →
    run.attemptCount < run.maxAttempts ∧ run.cancelRequestedAt = none
  running : run.status = .running → run.leaseOwner ≠ none ∧ run.leaseExpiresAt ≠ none

/-- What a step may do to a row, where it is of a worker or of none, and a retry or not. -/
structure RunStep (retries : Prop) (worker : Option String) (run next : WorkflowRun) : Prop
    extends SameRun run next where
  owned : ∀ workerId, worker = some workerId → run.leaseOwner ≠ some workerId → next = run
  terminal : run.status.isTerminal = true → ¬retries → next = run
  cancelled : run.cancelRequestedAt ≠ none → ¬retries → next.cancelRequestedAt ≠ none ∧
    (next.status = .succeeded ∨ next.status = .queued → next.status = run.status)

variable {retries : Prop} {worker : Option String} {run next last : WorkflowRun}

theorem RunStep.refl (run : WorkflowRun) : RunStep retries worker run run where
  toSameRun := SameRun.refl run
  owned _ _ _ := rfl
  terminal _ _ := rfl
  cancelled requested _ := ⟨requested, fun _ => rfl⟩

theorem RunStep.trans (one : RunStep retries worker run next)
    (two : RunStep retries worker next last) : RunStep retries worker run last where
  toSameRun := one.toSameRun.trans two.toSameRun
  owned workerId ofWorker other := by
    have same := one.owned workerId ofWorker other
    exact (two.owned workerId ofWorker (same ▸ other)).trans same
  terminal ended new := by
    have same := one.terminal ended new
    exact (two.terminal (same ▸ ended) new).trans same
  cancelled requested new := by
    obtain ⟨still, first⟩ := one.cancelled requested new
    obtain ⟨after, second⟩ := two.cancelled still new
    refine ⟨after, fun reached => ?_⟩
    have middle := second reached
    exact middle.trans (first (middle ▸ reached))

/-- A step on a run that has not ended, by a worker that holds it or by none. -/
theorem RunStep.ofOpen (same : SameRun run next) (openRun : run.status.isTerminal = false)
    (holds : ∀ workerId, worker = some workerId → run.leaseOwner = some workerId)
    (requested : run.cancelRequestedAt ≠ none → next.cancelRequestedAt ≠ none)
    (ends : run.cancelRequestedAt ≠ none → next.status = .succeeded ∨ next.status = .queued →
      next.status = run.status) : RunStep retries worker run next where
  toSameRun := same
  owned workerId ofWorker other := absurd (holds workerId ofWorker) other
  terminal ended := by
    rw [openRun] at ended
    cases ended
  cancelled was _ := ⟨requested was, ends was⟩

namespace WorkflowRun

theorem isTerminal_running (running : run.status = .running) : run.status.isTerminal = false := by
  rw [running]
  rfl

theorem reapCancelled_step (now : Int) (run : WorkflowRun) :
    RunStep retries none run (run.reapCancelled now) := by
  have same := run.reapCancelled_same now
  unfold reapCancelled at same ⊢
  split
  · rename_i reaped
    rw [if_pos reaped] at same
    refine .ofOpen same (isTerminal_running reaped.1) ?_ (fun was => was) fun _ => ?_
    · rintro _ ⟨⟩
    · rintro (impossible | impossible)
      all_goals cases impossible
  · exact .refl run

theorem reapFailed_step (now : Int) (run : WorkflowRun) :
    RunStep retries none run (run.reapFailed now) := by
  have same := run.reapFailed_same now
  unfold reapFailed at same ⊢
  split
  · rename_i reaped
    rw [if_pos reaped] at same
    refine .ofOpen same (isTerminal_running reaped.1) ?_ (fun was => was) fun _ => ?_
    · rintro _ ⟨⟩
    · rintro (impossible | impossible)
      all_goals cases impossible
  · exact .refl run

theorem reapCancelled_sound (now : Int) (sound : run.Sound) : (run.reapCancelled now).Sound := by
  unfold reapCancelled
  split
  · exact ⟨sound.positive, sound.attempts, nofun, nofun⟩
  · exact sound

theorem reapFailed_sound (now : Int) (sound : run.Sound) : (run.reapFailed now).Sound := by
  unfold reapFailed
  split
  · exact ⟨sound.positive, sound.attempts, nofun, nofun⟩
  · exact sound

variable {workflowTypes : List String} {now : Int}

theorem eligible_ok (eligible : run.eligible workflowTypes now = true) :
    run.cancelRequestedAt = none ∧ run.attemptCount < run.maxAttempts ∧
      run.status.isTerminal = false := by
  unfold WorkflowRun.eligible at eligible
  simp only [Bool.and_eq_true, Bool.or_eq_true, beq_iff_eq, decide_eq_true_eq] at eligible
  obtain ⟨⟨⟨requested, attempts⟩, status⟩, -⟩ := eligible
  refine ⟨requested, attempts, ?_⟩
  rcases status with queued | ⟨running, -⟩
  · rw [queued]
    rfl
  · exact isTerminal_running running

theorem claimed_step (workerId : String) (expires : Int)
    (eligible : run.eligible workflowTypes now = true) :
    RunStep retries none run (run.claimed workerId now expires) := by
  obtain ⟨requested, -, openRun⟩ := eligible_ok eligible
  refine .ofOpen ⟨rfl, rfl, rfl⟩ openRun ?_ (fun was => was) fun was => absurd requested was
  rintro _ ⟨⟩

theorem claimed_sound (workerId : String) (expires : Int) (sound : run.Sound)
    (eligible : run.eligible workflowTypes now = true) :
    (run.claimed workerId now expires).Sound where
  positive := sound.positive
  attempts := (eligible_ok eligible).2.1
  queued := nofun
  running _ := ⟨nofun, nofun⟩

/-- A worker that passes the check of its lease holds it. -/
theorem leased_ok {workerId : String} (checked : run.leased workerId now = .ok ()) :
    run.status = .running ∧ run.leaseOwner = some workerId ∧ run.cancelRequestedAt = none := by
  unfold leased at checked
  obtain ⟨_, owns, checked⟩ := bind_ok_iff.mp checked
  obtain ⟨_, wanted, -⟩ := bind_ok_iff.mp checked
  have holds := refuseWhen_ok_iff.mp owns
  rw [not_or, not_not, not_not] at holds
  exact ⟨holds.1, holds.2, not_not.mp (refuseWhen_ok_iff.mp wanted)⟩

end WorkflowRun

/-! ### One commit -/

/-- Is the operation a retry? -/
def RunOperation.Retries (operation : RunOperation) : Prop := ∃ userId, operation = .retry userId

section

variable [JsonEquality] {seen : WorkflowRun} {workerId : String}

/-- What a commit does to the row it is of: the row stays sound, and takes a step. -/
structure Commits (operation : RunOperation) (run next : WorkflowRun) : Prop where
  sound : next.Sound
  step : RunStep operation.Retries operation.worker run next

theorem commits_checkpoint {reached : Dict String Json} {progress : Rat} {expires : Int}
    {leaseSeconds : Int} (sound : run.Sound) (running : run.status = .running)
    (holds : run.leaseOwner = some workerId) :
    Commits (.checkpoint workerId reached progress leaseSeconds) run
      (AssignedColumns.flush
        { checkpoint := some reached, progress := some progress,
          leaseExpiresAt := some (some expires) } seen run) where
  sound := {
    positive := sound.positive
    attempts := sound.attempts
    queued := sound.queued
    running := fun still => ⟨(sound.running still).1, nofun⟩ }
  step := .ofOpen ⟨rfl, rfl, rfl⟩ (WorkflowRun.isTerminal_running running)
    (fun _ same => holds.trans same) (fun was => was) fun _ _ => rfl

theorem commits_complete {resultReference : Option (Dict String Json)}
    (sound : run.Sound) (running : run.status = .running) (holds : run.leaseOwner = some workerId)
    (wanted : run.cancelRequestedAt = none) (wasRunning : seen.status = .running) :
    Commits (.complete workerId resultReference) run
      (AssignedColumns.flush
        { status := some .succeeded, progress := some 1,
          resultReference := some (resultReference.getD []), leaseOwner := some none,
          leaseExpiresAt := some none, finishedAt := some (some now),
          errorCode := some none } seen run) where
  sound := by
    have ended : flushed seen.status run.status (some .succeeded) = .succeeded :=
      flushed_of_ne (by rw [wasRunning]; nofun)
    refine ⟨sound.positive, sound.attempts, fun queued => ?_, fun still => ?_⟩
    · exact absurd (ended.symm.trans queued) nofun
    · exact absurd (ended.symm.trans still) nofun
  step := .ofOpen ⟨rfl, rfl, rfl⟩ (WorkflowRun.isTerminal_running running)
    (fun _ same => holds.trans same) (fun was => was) fun was => absurd wanted was

theorem commits_fail {code : Option String} {errorText : String} {finishedAt : Option Int}
    {retryable : Bool} (sound : run.Sound) (running : run.status = .running)
    (holds : run.leaseOwner = some workerId) (wasRunning : seen.status = .running)
    (waits : RunOperation.shouldRetry retryable seen = true →
      run.cancelRequestedAt = none ∧ run.attemptCount < run.maxAttempts) :
    Commits (.fail workerId errorText retryable) run
      (AssignedColumns.flush
        { status := some (if RunOperation.shouldRetry retryable seen then .queued else .failed),
          errorCode := some code, leaseOwner := some none, leaseExpiresAt := some none,
          finishedAt := some finishedAt } seen run) := by
  have ended : flushed seen.status run.status
      (some (if RunOperation.shouldRetry retryable seen then .queued else .failed)) =
      if RunOperation.shouldRetry retryable seen then RunStatus.queued else .failed := by
    refine flushed_of_ne ?_
    rw [wasRunning]
    split <;> nofun
  have waiting : ∀ {status : RunStatus},
      (flushed seen.status run.status
        (some (if RunOperation.shouldRetry retryable seen then .queued else .failed)) = status) →
      status ≠ .failed → RunOperation.shouldRetry retryable seen = true ∧ status = .queued := by
    intro status reached other
    rw [ended] at reached
    split at reached
    · rename_i again
      exact ⟨again, reached.symm⟩
    · exact absurd reached.symm other
  refine ⟨⟨sound.positive, sound.attempts, fun queued => ?_, fun still => ?_⟩, ?_⟩
  · obtain ⟨wanted, attempts⟩ := waits (waiting queued nofun).1
    exact ⟨attempts, wanted⟩
  · exact absurd (waiting still nofun).2 nofun
  · refine .ofOpen ⟨rfl, rfl, rfl⟩ (WorkflowRun.isTerminal_running running)
      (fun _ same => holds.trans same) (fun was => was) fun was reached => ?_
    rcases reached with succeeded | queued
    · exact absurd (waiting succeeded nofun).2 nofun
    · exact absurd (waits (waiting queued nofun).1).1 was

theorem commits_requestCancel {userId : Nat} (sound : run.Sound)
    (same : run.status = seen.status) (openRun : seen.status.isTerminal = false) :
    Commits (.requestCancel userId) run
      (AssignedColumns.flush
        { cancelRequestedAt := some (some now),
          status := if seen.status = .queued then some .cancelled else none,
          finishedAt := if seen.status = .queued then some (some now) else none } seen run) := by
  have ended : flushed seen.status run.status
      (if seen.status = .queued then some .cancelled else none) =
      if seen.status = .queued then .cancelled else run.status := by
    split
    · rename_i queued
      exact flushed_of_ne (by rw [queued]; nofun)
    · rfl
  have unqueued : ∀ {status : RunStatus},
      (flushed seen.status run.status (if seen.status = .queued then some .cancelled else none) =
        status) → status ≠ .cancelled → status ≠ .queued ∧ status = run.status := by
    intro status reached other
    rw [ended] at reached
    split at reached
    · exact absurd reached.symm other
    · rename_i elsewhere
      refine ⟨fun queued => ?_, reached.symm⟩
      rw [queued, same] at reached
      exact elsewhere reached
  refine ⟨⟨sound.positive, sound.attempts, fun queued => ?_, fun still => ?_⟩, ?_⟩
  · exact absurd rfl (unqueued queued nofun).1
  · exact sound.running (unqueued still nofun).2.symm
  · refine .ofOpen ⟨rfl, rfl, rfl⟩ (same ▸ openRun) nofun (fun _ => nofun) fun _ reached => ?_
    rcases reached with succeeded | queued
    · exact succeeded.trans (unqueued succeeded nofun).2
    · exact absurd rfl (unqueued queued nofun).1

theorem commits_acknowledgeCancellation (sound : run.Sound)
    (running : run.status = .running) (holds : run.leaseOwner = some workerId)
    (wasRunning : seen.status = .running) :
    Commits (.acknowledgeCancellation workerId) run
      (AssignedColumns.flush
        { status := some .cancelled, leaseOwner := some none, leaseExpiresAt := some none,
          finishedAt := some (some now) } seen run) := by
  have ended : flushed seen.status run.status (some .cancelled) = .cancelled :=
    flushed_of_ne (by rw [wasRunning]; nofun)
  refine ⟨⟨sound.positive, sound.attempts, fun queued => ?_, fun still => ?_⟩, ?_⟩
  · exact absurd (ended.symm.trans queued) nofun
  · exact absurd (ended.symm.trans still) nofun
  · refine .ofOpen ⟨rfl, rfl, rfl⟩ (WorkflowRun.isTerminal_running running)
      (fun _ same => holds.trans same) (fun was => was) fun _ reached => ?_
    rcases reached with succeeded | queued
    · exact absurd (ended.symm.trans succeeded) nofun
    · exact absurd (ended.symm.trans queued) nofun

theorem commits_retry {userId : Nat} (sound : run.Sound)
    (ended : seen.status = .failed ∨ seen.status = .cancelled)
    (requested : run.cancelRequestedAt = seen.cancelRequestedAt)
    (attempts : run.attemptCount = seen.attemptCount) :
    Commits (.retry userId) run
      (AssignedColumns.flush
        { status := some .queued, attemptCount := some 0, errorCode := some none,
          cancelRequestedAt := some none, finishedAt := some none, leaseOwner := some none,
          leaseExpiresAt := some none } seen run) := by
  have waits : flushed seen.status run.status (some .queued) = .queued := by
    refine flushed_of_ne ?_
    rcases ended with failed | cancelled
    · rw [failed]
      nofun
    · rw [cancelled]
      nofun
  have first : flushed seen.attemptCount run.attemptCount (some 0) = 0 := flushed_of_same attempts
  have wanted : flushedMoment seen.cancelRequestedAt run.cancelRequestedAt (some none) = none :=
    flushedMoment_of_same requested
  refine ⟨⟨sound.positive, ?_, fun _ => ⟨?_, wanted⟩, fun still => ?_⟩, ?_⟩
  · exact first.le.trans (Nat.zero_le _)
  · exact first.trans_lt sound.positive
  · exact absurd (waits.symm.trans still) nofun
  · exact ⟨⟨rfl, rfl, rfl⟩, nofun, fun _ new => absurd ⟨userId, rfl⟩ new,
      fun _ new => absurd ⟨userId, rfl⟩ new⟩

end

section

variable [TextTables]

/-- The columns that an operation has checked, decided by, or compared with what it assigns, and
on which its commit relies, are as it read them. -/
def PendingWrite.Undisturbed (pending : PendingWrite) (run : WorkflowRun) : Prop :=
  match pending.operation with
  | .checkpoint _ _ _ _ | .acknowledgeCancellation _ =>
    run.status = pending.seen.status ∧ run.leaseOwner = pending.seen.leaseOwner
  | .complete _ _ =>
    run.status = pending.seen.status ∧ run.leaseOwner = pending.seen.leaseOwner ∧
      run.cancelRequestedAt = pending.seen.cancelRequestedAt
  | .fail _ _ retryable =>
    run.status = pending.seen.status ∧ run.leaseOwner = pending.seen.leaseOwner ∧
      (RunOperation.shouldRetry retryable pending.seen = true →
        run.cancelRequestedAt = pending.seen.cancelRequestedAt ∧
          run.attemptCount = pending.seen.attemptCount)
  | .requestCancel _ => run.status = pending.seen.status
  | .retry _ =>
    run.status = pending.seen.status ∧
      run.cancelRequestedAt = pending.seen.cancelRequestedAt ∧
        run.attemptCount = pending.seen.attemptCount

variable [JsonEquality]

/-- A commit whose checked columns are as they were read. -/
theorem PendingWrite.flush_commits (pending : PendingWrite) (sound : run.Sound)
    (same : SameRun pending.seen run) (undisturbed : pending.Undisturbed run) :
    Commits pending.operation run (pending.assigned.flush pending.seen run) := by
  obtain ⟨operation, seen, assigned, ⟨now, checked⟩, continues, ⟨later, assigns⟩⟩ := pending
  cases operation with
  | checkpoint workerId reached progress leaseSeconds =>
    obtain ⟨_, lease, -⟩ := bind_ok_iff.mp checked
    obtain ⟨running, holds, -⟩ := WorkflowRun.leased_ok lease
    obtain ⟨expires, -, assigns⟩ := bind_ok_iff.mp assigns
    cases assigns
    exact commits_checkpoint sound (undisturbed.1.trans running) (undisturbed.2.trans holds)
  | complete workerId resultReference =>
    obtain ⟨running, holds, wanted⟩ := WorkflowRun.leased_ok checked
    cases assigns
    exact commits_complete sound (undisturbed.1.trans running) (undisturbed.2.1.trans holds)
      (undisturbed.2.2.trans wanted) running
  | fail workerId errorText retryable =>
    obtain ⟨running, holds, wanted⟩ := WorkflowRun.leased_ok checked
    cases assigns
    refine commits_fail sound (undisturbed.1.trans running) (undisturbed.2.1.trans holds) running
      fun again => ?_
    obtain ⟨requested, attempts⟩ := undisturbed.2.2 again
    have left : seen.attemptCount < seen.maxAttempts := by
      unfold RunOperation.shouldRetry at again
      exact of_decide_eq_true (Bool.and_eq_true_iff.mp again).2
    exact ⟨requested.trans wanted, by rw [attempts, same.maxAttempts]; exact left⟩
  | requestCancel userId =>
    cases assigns
    exact commits_requestCancel sound undisturbed continues
  | acknowledgeCancellation workerId =>
    obtain ⟨_, owns, -⟩ := bind_ok_iff.mp checked
    have holds := refuseWhen_ok_iff.mp owns
    rw [not_or, not_not, not_not] at holds
    cases assigns
    exact commits_acknowledgeCancellation sound (undisturbed.1.trans holds.1)
      (undisturbed.2.trans holds.2) holds.1
  | retry userId =>
    have ended := refuseWhen_ok_iff.mp checked
    rw [not_and_or, not_not, not_not] at ended
    cases assigns
    exact commits_retry sound ended undisturbed.2.1 undisturbed.2.2

end

end

/-! ### The statements of a step -/

/-- A row that `enqueue` inserted. -/
def WorkflowRun.Enqueued (run : WorkflowRun) : Prop :=
  run.status = .queued ∧ run.attemptCount = 0

/-- What the statements on the table do to every row: each row is followed by one, and all rows
have a property. -/
structure Advances (holds : WorkflowRun → Prop) (follows : WorkflowRun → WorkflowRun → Prop)
    (isNew : WorkflowRun → Prop) (table next : WorkflowTable) : Prop where
  holds : ∀ run ∈ next.runs.rows, holds run
  grew : Table.Grew follows isNew table.runs next.runs

/-- The statements of a claim and of an insertion keep a property of the rows, and take rows to
rows that follow them. -/
structure KeptByClaims (holds : WorkflowRun → Prop)
    (follows : WorkflowRun → WorkflowRun → Prop) : Prop where
  refl : ∀ run, follows run run
  trans : ∀ run next last, follows run next → follows next last → follows run last
  reapCancelled : ∀ now run, holds run →
    holds (run.reapCancelled now) ∧ follows run (run.reapCancelled now)
  reapFailed : ∀ now run, holds run →
    holds (run.reapFailed now) ∧ follows run (run.reapFailed now)
  claimed : ∀ workerId workflowTypes now expires run, run.eligible workflowTypes now = true →
    holds run → holds (run.claimed workerId now expires) ∧
      follows run (run.claimed workerId now expires)
  enqueued : ∀ (data : WorkflowEnqueue) userId id createdAt, holds (data.run userId id createdAt)

namespace WorkflowTable

variable {table next : WorkflowTable} {holds : WorkflowRun → Prop}
  {follows : WorkflowRun → WorkflowRun → Prop} {isNew : WorkflowRun → Prop}

theorem mem_update {change : WorkflowRun → WorkflowRun} {same : ∀ run, SameRun run (change run)}
    {run : WorkflowRun} :
    run ∈ (table.update change same).runs.rows ↔ ∃ old ∈ table.runs.rows, change old = run :=
  List.mem_map

theorem eq_of_id {run other : WorkflowRun} (member : run ∈ table.runs.rows)
    (inside : other ∈ table.runs.rows) (same : run.id = other.id) : run = other :=
  List.inj_on_of_nodup_map table.runs.distinct member inside same

theorem insert_ok {added : WorkflowRun} (inserted : table.insert added = .ok next) :
    ∃ fresh, next.runs = table.runs.insert added fresh := by
  unfold insert at inserted
  split at inserted
  · rename_i fresh
    split at inserted
    · cases inserted
      exact ⟨fresh, rfl⟩
    · cases inserted
  · cases inserted

theorem advances_update {change : WorkflowRun → WorkflowRun}
    (same : ∀ run, SameRun run (change run))
    (each : ∀ run ∈ table.runs.rows, holds (change run) ∧ follows run (change run)) :
    Advances holds follows isNew table (table.update change same) where
  holds run member := by
    obtain ⟨old, inside, rfl⟩ := mem_update.mp member
    exact (each old inside).1
  grew := by
    unfold update
    dsimp only
    exact Table.Grew.update fun run member => (each run member).2

variable {workflowTypes : List String}

/-- The candidate of a claim is a row that can be claimed. -/
theorem candidate_some {run : WorkflowRun}
    (found : WorkflowVault.candidate table workflowTypes now = some run) :
    run ∈ table.runs.rows ∧ run.eligible workflowTypes now = true := by
  unfold WorkflowVault.candidate at found
  exact List.mem_filter.mp (List.argmin_mem (Option.mem_def.mpr found))

/-- A claim writes its candidate only. -/
theorem claimedIf_candidate {run row : WorkflowRun}
    (found : WorkflowVault.candidate table workflowTypes now = some run)
    (member : row ∈ table.runs.rows) (workerId : String) (expires : Int) :
    row.claimedIf run.id workerId now expires = row ∨
      row.eligible workflowTypes now = true ∧
        row.claimedIf run.id workerId now expires = row.claimed workerId now expires := by
  obtain ⟨inside, eligible⟩ := candidate_some found
  unfold WorkflowRun.claimedIf
  split
  · rename_i same
    cases eq_of_id member inside same
    exact .inr ⟨eligible, rfl⟩
  · exact .inl rfl

section

variable (kept : KeptByClaims holds follows)

include kept

theorem advances_refl (held : ∀ run ∈ table.runs.rows, holds run) :
    Advances holds follows isNew table table where
  holds := held
  grew := .refl table.runs fun run _ => kept.refl run

/-- One statement after another that insert nothing. -/
theorem advances_trans {middle : WorkflowTable}
    (one : Advances holds follows (fun _ => False) table middle)
    (two : Advances holds follows (fun _ => False) middle next) :
    Advances holds follows isNew table next where
  holds := two.holds
  grew := by
    have grew : Table.Grew follows (fun _ => False) table.runs next.runs :=
      one.grew.trans two.grew kept.trans fun _ _ impossible => impossible.elim
    exact ⟨grew.kept, fun run member => (grew.origin run member).imp id False.elim⟩

theorem advances_insert {added : WorkflowRun} (held : ∀ run ∈ table.runs.rows, holds run)
    (addedHolds : holds added) (new : isNew added) (inserted : table.insert added = .ok next) :
    Advances holds follows isNew table next := by
  obtain ⟨fresh, same⟩ := insert_ok inserted
  constructor
  · intro run member
    rw [same] at member
    rcases Table.mem_insert.mp member with inside | rfl
    · exact held run inside
    · exact addedHolds
  · rw [same]
    exact Table.Grew.insert (fun run _ => kept.refl run) new

theorem advances_reapTerminalLeases (now : Int) (held : ∀ run ∈ table.runs.rows, holds run) :
    Advances holds follows isNew table (WorkflowVault.reapTerminalLeases table now) := by
  have cancelled : Advances holds follows (fun _ => False) table
      (table.update (WorkflowRun.reapCancelled now) (WorkflowRun.reapCancelled_same now)) :=
    advances_update _ fun run member => kept.reapCancelled now run (held run member)
  exact advances_trans kept cancelled
    (advances_update _ fun run member => kept.reapFailed now run (cancelled.holds run member))

theorem advances_claim {workerId : String} {leaseSeconds now : Int}
    (held : ∀ run ∈ table.runs.rows, holds run)
    (claimed : WorkflowVault.claim table workerId workflowTypes leaseSeconds now = .ok next) :
    Advances holds follows isNew table next := by
  unfold WorkflowVault.claim at claimed
  obtain ⟨_, -, claimed⟩ := bind_ok_iff.mp claimed
  obtain ⟨_, -, claimed⟩ := bind_ok_iff.mp claimed
  obtain ⟨expires, -, claimed⟩ := bind_ok_iff.mp claimed
  have reaped : Advances holds follows (fun _ => False) table
      (WorkflowVault.reapTerminalLeases table now) := advances_reapTerminalLeases kept now held
  split at claimed
  · cases claimed
    exact advances_reapTerminalLeases kept now held
  · rename_i run found
    cases claimed
    refine advances_trans kept reaped (advances_update _ fun row member => ?_)
    rcases claimedIf_candidate found member workerId expires with other | ⟨eligible, same⟩
    · rw [other]
      exact ⟨reaped.holds row member, kept.refl row⟩
    · rw [same]
      exact kept.claimed workerId workflowTypes now expires row eligible (reaped.holds row member)

end

end WorkflowTable

/-- Without a condition the attempts stay within their bound, and a run stays the run it is. -/
theorem keptByClaims_attempts :
    KeptByClaims (fun run => run.attemptCount ≤ run.maxAttempts) SameRun where
  refl := SameRun.refl
  trans _ _ _ first second := first.trans second
  reapCancelled now run bounded := by
    refine ⟨?_, run.reapCancelled_same now⟩
    unfold WorkflowRun.reapCancelled
    split <;> exact bounded
  reapFailed now run bounded := by
    refine ⟨?_, run.reapFailed_same now⟩
    unfold WorkflowRun.reapFailed
    split <;> exact bounded
  claimed _ _ _ _ _ eligible _ := ⟨(WorkflowRun.eligible_ok eligible).2.1, rfl, rfl, rfl⟩
  enqueued _ _ _ _ := Nat.zero_le _

theorem keptByClaims_sound (retries : Prop) :
    KeptByClaims WorkflowRun.Sound (RunStep retries none) where
  refl := RunStep.refl
  trans _ _ _ first second := first.trans second
  reapCancelled now run sound :=
    ⟨WorkflowRun.reapCancelled_sound now sound, run.reapCancelled_step now⟩
  reapFailed now run sound := ⟨WorkflowRun.reapFailed_sound now sound, run.reapFailed_step now⟩
  claimed workerId _ _ expires _ eligible sound :=
    ⟨WorkflowRun.claimed_sound workerId expires sound eligible,
      WorkflowRun.claimed_step workerId expires eligible⟩
  enqueued data _ _ _ := ⟨data.attempts.1, Nat.zero_le _, fun _ => ⟨data.attempts.1, rfl⟩, nofun⟩

/-! ### The steps of the service -/

namespace WorkflowVault

variable [TextTables]

/-- The operation that the step commits. -/
def committing (vault : WorkflowVault) : WorkflowAction → Option PendingWrite
  | .commit session =>
    match vault.inFlight session with
    | some (.write pending) => some pending
    | _ => none
  | _ => none

/-- No other commit changed what the operation relies on, from its read to this commit of it. -/
def Undisturbed (vault : WorkflowVault) (action : WorkflowAction) : Prop :=
  ∀ pending, vault.committing action = some pending → ∀ run ∈ vault.table.runs.rows,
    run.id = pending.seen.id → pending.Undisturbed run

theorem undisturbed_of_idle {vault : WorkflowVault} {action : WorkflowAction}
    (idle : vault.committing action = none) : vault.Undisturbed action := by
  intro pending committed
  rw [idle] at committed
  cases committed

/-- What a step may do to a row, where it commits an operation or none. -/
def Follows (committing : Option PendingWrite) : WorkflowRun → WorkflowRun → Prop :=
  match committing with
  | some pending => RunStep pending.operation.Retries pending.operation.worker
  | none => RunStep False none

/-- Every run is sound, and what a session has read is of a run that is there. -/
structure Sound (vault : WorkflowVault) : Prop where
  runs : ∀ run ∈ vault.table.runs.rows, run.Sound
  inFlight : ∀ session pending, vault.inFlight session = some (.write pending) →
    ∃ run ∈ vault.table.runs.rows, SameRun pending.seen run

variable {committing : Option PendingWrite}

theorem Follows.same {run next : WorkflowRun}
    (follows : Follows committing run next) : SameRun run next := by
  cases committing with
  | none => exact RunStep.toSameRun follows
  | some pending => exact RunStep.toSameRun follows

theorem setFlight_inFlight {vault : WorkflowVault} {session other : Nat}
    {flight : Option Pending} {pending : Pending}
    (found : (vault.setFlight session flight).inFlight other = some pending) :
    vault.inFlight other = some pending ∨ flight = some pending := by
  unfold setFlight at found
  dsimp only at found
  by_cases same : other = session
  · subst same
    rw [Function.update_self] at found
    exact .inr found
  · rw [Function.update_of_ne same] at found
    exact .inl found

/-- A session reads a run that is there. -/
theorem readRun_seen {vault : WorkflowVault} {runId : String} {operation : RunOperation}
    {now later : Int} {pending : PendingWrite}
    (read : vault.readRun runId operation now later = .ok (some (.write pending))) :
    pending.seen ∈ vault.table.runs.rows := by
  unfold readRun at read
  split at read
  · cases read
  · rename_i seen found
    split at read
    · cases read
    · split at read
      · split at read
        · cases read
        · cases read
          exact (Table.find_eq_some_iff.mp (Option.filter_eq_some_iff.mp found).1).1
      · cases read

variable [JsonEquality] [PayloadHash] {vault next : WorkflowVault} {action : WorkflowAction}

/-- The statements of a step on the table, with the operation that it commits. -/
inductive Writes (vault : WorkflowVault) : Option PendingWrite → WorkflowTable → Prop
  | nothing : Writes vault none vault.table
  | claim {workerId : String} {workflowTypes : List String} {leaseSeconds now : Int}
      {table : WorkflowTable}
      (claimed : claim vault.table workerId workflowTypes leaseSeconds now = .ok table) :
      Writes vault none table
  | insert {data : WorkflowEnqueue} {userId : Nat} {id : String} {createdAt : Int}
      {table : WorkflowTable}
      (inserted : vault.table.insert (data.run userId id createdAt) = .ok table) :
      Writes vault none table
  | commit {session : Nat} {pending : PendingWrite}
      (found : vault.inFlight session = some (.write pending)) :
      Writes vault (some pending) (vault.table.update pending.flush pending.flush_same)

theorem step_writes (stepped : vault.step action = .ok next) :
    vault.Writes (vault.committing action) next.table := by
  cases action with
  | claim workerId workflowTypes leaseSeconds now =>
    obtain ⟨table, claimed, stepped⟩ := bind_ok_iff.mp stepped
    cases stepped
    exact .claim claimed
  | lookUp session userId data =>
    obtain ⟨flight, -, stepped⟩ := bind_ok_iff.mp stepped
    cases stepped
    exact .nothing
  | insert session id createdAt =>
    unfold step at stepped
    dsimp only at stepped
    split at stepped
    · obtain ⟨table, inserted, stepped⟩ := bind_ok_iff.mp stepped
      cases stepped
      exact .insert inserted
    · cases stepped
  | read session runId operation now later =>
    obtain ⟨flight, -, stepped⟩ := bind_ok_iff.mp stepped
    cases stepped
    exact .nothing
  | commit session =>
    unfold step at stepped
    dsimp only at stepped
    split at stepped
    · rename_i pending found
      cases stepped
      unfold committing
      dsimp only
      rw [found]
      exact .commit found
    · cases stepped

/-- What a session has in flight after a step, it had before, or has just read. -/
theorem step_inFlight (stepped : vault.step action = .ok next) {session : Nat}
    {pending : PendingWrite} (found : next.inFlight session = some (.write pending)) :
    vault.inFlight session = some (.write pending) ∨
      pending.seen ∈ vault.table.runs.rows ∧ next.table = vault.table := by
  cases action with
  | claim workerId workflowTypes leaseSeconds now =>
    obtain ⟨table, -, stepped⟩ := bind_ok_iff.mp stepped
    cases stepped
    exact .inl found
  | lookUp other userId data =>
    obtain ⟨flight, read, stepped⟩ := bind_ok_iff.mp stepped
    cases stepped
    refine (setFlight_inFlight found).imp id fun same => ?_
    cases same
    unfold lookUpKey at read
    split at read
    · cases read
    · split at read <;> cases read
  | insert other id createdAt =>
    unfold step at stepped
    dsimp only at stepped
    split at stepped
    · obtain ⟨table, -, stepped⟩ := bind_ok_iff.mp stepped
      cases stepped
      exact .inl ((setFlight_inFlight found).resolve_right nofun)
    · cases stepped
  | read other runId operation now later =>
    obtain ⟨flight, read, stepped⟩ := bind_ok_iff.mp stepped
    cases stepped
    refine (setFlight_inFlight found).imp id fun same => ?_
    cases same
    exact ⟨readRun_seen read, rfl⟩
  | commit other =>
    unfold step at stepped
    dsimp only at stepped
    split at stepped
    · cases stepped
      exact .inl ((setFlight_inFlight found).resolve_right nofun)
    · cases stepped

/-! ### Without a condition -/

omit [JsonEquality] [PayloadHash] in
theorem assigned_attempts (pending : PendingWrite) :
    pending.assigned.attemptCount = none ∨ pending.assigned.attemptCount = some 0 := by
  obtain ⟨operation, seen, assigned, -, -, ⟨later, assigns⟩⟩ := pending
  cases operation with
  | checkpoint workerId reached progress leaseSeconds =>
    obtain ⟨expires, -, assigns⟩ := bind_ok_iff.mp assigns
    cases assigns
    exact .inl rfl
  | complete workerId resultReference =>
    cases assigns
    exact .inl rfl
  | fail workerId code retryable =>
    cases assigns
    exact .inl rfl
  | requestCancel userId =>
    cases assigns
    exact .inl rfl
  | acknowledgeCancellation workerId =>
    cases assigns
    exact .inl rfl
  | retry userId =>
    cases assigns
    exact .inr rfl

omit [PayloadHash] in
theorem flush_attempts (pending : PendingWrite) (run : WorkflowRun) :
    (pending.flush run).attemptCount ≤ run.attemptCount := by
  unfold PendingWrite.flush
  split
  · unfold AssignedColumns.flush
    dsimp only
    rcases assigned_attempts pending with kept | first
    · rw [kept]
      exact le_rfl
    · rw [first]
      unfold flushed
      dsimp only
      split
      · exact le_rfl
      · exact Nat.zero_le _
  · exact le_rfl

omit [PayloadHash] in
/-- A step keeps every run the run it is, with its attempts within their bound. -/
theorem writes_attempts {table : WorkflowTable}
    (bounded : ∀ run ∈ vault.table.runs.rows, run.attemptCount ≤ run.maxAttempts)
    (writes : vault.Writes committing table) :
    Advances (fun run => run.attemptCount ≤ run.maxAttempts) SameRun WorkflowRun.Enqueued
      vault.table table := by
  cases writes with
  | nothing => exact WorkflowTable.advances_refl keptByClaims_attempts bounded
  | claim claimed => exact WorkflowTable.advances_claim keptByClaims_attempts bounded claimed
  | insert inserted =>
    exact WorkflowTable.advances_insert keptByClaims_attempts bounded (Nat.zero_le _) ⟨rfl, rfl⟩
      inserted
  | @commit session pending found =>
    refine WorkflowTable.advances_update _ fun run member => ⟨?_, pending.flush_same run⟩
    rw [(pending.flush_same run).maxAttempts]
    exact (flush_attempts pending run).trans (bounded run member)

/-! ### Undisturbed commits -/

omit [PayloadHash] in
theorem writes_sound {table : WorkflowTable} (sound : vault.Sound)
    (undisturbed : ∀ pending, committing = some pending → ∀ run ∈ vault.table.runs.rows,
      run.id = pending.seen.id → pending.Undisturbed run)
    (writes : vault.Writes committing table) :
    Advances WorkflowRun.Sound (Follows committing) WorkflowRun.Enqueued vault.table table := by
  have kept := keptByClaims_sound False
  cases writes with
  | nothing => exact WorkflowTable.advances_refl kept sound.runs
  | claim claimed => exact WorkflowTable.advances_claim kept sound.runs claimed
  | @insert data userId id createdAt table inserted =>
    exact WorkflowTable.advances_insert kept sound.runs (kept.enqueued data userId id createdAt)
      ⟨rfl, rfl⟩ inserted
  | @commit session pending found =>
    refine WorkflowTable.advances_update _ fun run member => ?_
    unfold PendingWrite.flush
    split
    · rename_i same
      obtain ⟨origin, inside, sameRun⟩ := sound.inFlight session pending found
      cases WorkflowTable.eq_of_id member inside (same.trans sameRun.id.symm)
      have commits := pending.flush_commits (sound.runs run member) sameRun
        (undisturbed pending rfl run member same)
      exact ⟨commits.sound, commits.step⟩
    · exact ⟨sound.runs run member, .refl run⟩

theorem step_sound (sound : vault.Sound) (undisturbed : vault.Undisturbed action)
    (stepped : vault.step action = .ok next) : next.Sound := by
  have advances := writes_sound sound undisturbed (step_writes stepped)
  refine ⟨advances.holds, fun session pending found => ?_⟩
  rcases step_inFlight stepped found with before | ⟨member, same⟩
  · obtain ⟨run, inside, sameRun⟩ := sound.inFlight session pending before
    obtain ⟨after, there, follows⟩ := advances.grew.kept run inside
    exact ⟨after, there, sameRun.trans follows.same⟩
  · exact ⟨pending.seen, same ▸ member, SameRun.refl _⟩

end WorkflowVault

/-! ### Runs -/

section

variable [TextTables] [JsonEquality] [PayloadHash]

/-- The service, from any table of runs that are not stranded. -/
def workflows : Machine WorkflowVault WorkflowAction WorkflowError where
  initial vault := (∀ run ∈ vault.table.runs.rows, run.Sound) ∧ vault.inFlight = fun _ => none
  step := WorkflowVault.step

theorem workflows_sound {vault : WorkflowVault}
    (reached : workflows.ReachableWhen WorkflowVault.Undisturbed vault) : vault.Sound := by
  refine reached.invariant WorkflowVault.Sound ?_ ?_
  · rintro first ⟨sound, idle⟩
    refine ⟨sound, fun session pending found => ?_⟩
    rw [idle] at found
    cases found
  · intro before action after sound undisturbed stepped
    exact WorkflowVault.step_sound sound undisturbed stepped

theorem workflows_attempts {vault : WorkflowVault} (reached : workflows.Reachable vault) :
    ∀ run ∈ vault.table.runs.rows, run.attemptCount ≤ run.maxAttempts := by
  refine reached.invariant (fun vault => ∀ run ∈ vault.table.runs.rows,
    run.attemptCount ≤ run.maxAttempts) ?_ ?_
  · rintro first ⟨sound, -⟩ run member
    exact (sound run member).attempts
  · intro before action after bounded _ stepped
    exact (WorkflowVault.writes_attempts bounded (WorkflowVault.step_writes stepped)).holds

/-- In every interleaving the attempts of a run stay within their bound, one key has one run,
which stays, and one worker at most holds the lease of a run. Where no commit is disturbed, no run
is stranded, a worker changes no run that it does not hold, a run that has ended changes only by a
retry, and one whose cancellation was requested is not succeeded or queued but by a retry. -/
theorem workflowLeases_safe {vault : WorkflowVault} (reached : workflows.Reachable vault) :
    (∀ run ∈ vault.table.runs.rows, run.attemptCount ≤ run.maxAttempts) ∧
      (vault.table.runs.rows.map WorkflowRun.key).Nodup ∧
      (∀ action next, vault.step action = .ok next →
        Table.Grew SameRun WorkflowRun.Enqueued vault.table.runs next.table.runs) ∧
      (∀ run ∈ vault.table.runs.rows, ∀ first second now later, run.leased first now = .ok () →
        run.leased second later = .ok () → first = second) ∧
      (workflows.ReachableWhen WorkflowVault.Undisturbed vault →
        (∀ run ∈ vault.table.runs.rows, run.Sound) ∧
          ∀ action next, vault.Undisturbed action → vault.step action = .ok next →
            Table.Grew (WorkflowVault.Follows (vault.committing action)) WorkflowRun.Enqueued
              vault.table.runs next.table.runs) := by
  have bounded := workflows_attempts reached
  refine ⟨bounded, vault.table.distinct, fun action next stepped => ?_,
    fun run _ first second now later one two => ?_, fun undisturbed => ⟨?_, ?_⟩⟩
  · exact (WorkflowVault.writes_attempts bounded (WorkflowVault.step_writes stepped)).grew
  · have holds := (WorkflowRun.leased_ok one).2.1
    exact Option.some.inj (holds.symm.trans (WorkflowRun.leased_ok two).2.1)
  · exact (workflows_sound undisturbed).runs
  · intro action next steady stepped
    exact (WorkflowVault.writes_sound (workflows_sound undisturbed) steady
      (WorkflowVault.step_writes stepped)).grew

end

/-! ### A run that is claimed again -/

section

/-- A hash of the keys. -/
@[reducible] def PayloadHash.plain : PayloadHash where
  payloadHash payload := String.join (payload.map Prod.fst)

attribute [local instance] TextTables.plain JsonEquality.plain PayloadHash.plain

def emptyWorkflows : WorkflowVault where
  table := ⟨Table.empty, List.nodup_nil⟩
  inFlight := fun _ => none

def renderRequest : WorkflowEnqueue where
  workflowType := "resume.render"
  idempotencyKey := "run-1"
  payload := []
  maxAttempts := 3
  typed := by decide
  keyed := by decide
  attempts := by decide

/-- A run is enqueued, and one worker claims it. -/
def claimedOnce : List WorkflowAction :=
  [.lookUp 0 1 renderRequest, .insert 0 "run" 0, .claim "worker-a" [] 30 0]

/-- The worker has read the run to complete it when its lease ends and another claims the run. -/
def claimedTwice : List WorkflowAction :=
  claimedOnce ++ [.read 1 "run" (.complete "worker-a" none) 10000000 10000000,
    .claim "worker-b" [] 30 100000000]

/-- The status and the lease of every run. -/
def leases (vault : WorkflowVault) : List (RunStatus × Option String) :=
  vault.table.runs.rows.map fun run => (run.status, run.leaseOwner)

theorem starts_emptyWorkflows : workflows.initial emptyWorkflows := by
  unfold workflows
  dsimp only
  exact ⟨fun _ member => absurd member List.not_mem_nil, rfl⟩

theorem leases_claimedOnce :
    (workflows.run emptyWorkflows claimedOnce).toOption.map leases =
      some [(.running, some "worker-a")] := by
  decide +kernel

theorem workflowLeases_safe_claimed : ∃ vault : WorkflowVault,
    leases vault = [(.running, some "worker-a")] ∧
      (∀ run ∈ vault.table.runs.rows, run.attemptCount ≤ run.maxAttempts) ∧
      ∀ run ∈ vault.table.runs.rows, run.Sound := by
  obtain ⟨vault, finished, observed⟩ := Machine.run_ok_of_observed leases_claimedOnce
  have steady : workflows.ReachableWhen WorkflowVault.Undisturbed vault := by
    refine Machine.ReachableWhen.run (.initial starts_emptyWorkflows) finished ?_
    simp only [claimedOnce, List.forall_mem_cons]
    exact ⟨fun _ => WorkflowVault.undisturbed_of_idle rfl,
      fun _ => WorkflowVault.undisturbed_of_idle rfl,
      fun _ => WorkflowVault.undisturbed_of_idle rfl, fun _ member => absurd member List.not_mem_nil⟩
  have safe := workflowLeases_safe steady.reachable
  exact ⟨vault, observed, safe.1, (safe.2.2.2.2 steady).1⟩

theorem leases_claimedTwice :
    (workflows.run emptyWorkflows claimedTwice).toOption.map (fun vault =>
      (leases vault, (vault.committing (.commit 1)).bind fun pending => pending.operation.worker,
        (vault.step (.commit 1)).toOption.map leases)) =
      some ([(.running, some "worker-b")], some "worker-a", some [(.succeeded, none)]) := by
  decide +kernel

/-- A worker whose lease ended while it completed the run ends the run of the worker that has
claimed it since. -/
theorem workflowLeases_disturbed :
    ¬∀ vault : WorkflowVault, workflows.Reachable vault →
      ∀ action next, vault.step action = .ok next →
        Table.Grew (WorkflowVault.Follows (vault.committing action)) WorkflowRun.Enqueued
          vault.table.runs next.table.runs := by
  intro claimed
  obtain ⟨vault, finished, observed⟩ := Machine.run_ok_of_observed leases_claimedTwice
  rw [Prod.mk.injEq, Prod.mk.injEq, Option.map_eq_some_iff, Option.bind_eq_some_iff] at observed
  obtain ⟨before, ⟨pending, committing, worker⟩, next, stepped, after⟩ := observed
  have committed : vault.step (.commit 1) = .ok next := by
    cases outcome : vault.step (.commit 1) with
    | error refusal =>
      rw [outcome] at stepped
      cases stepped
    | ok last =>
      rw [outcome] at stepped
      exact congrArg Except.ok (Option.some.inj stepped)
  have reached : workflows.Reachable vault :=
    Machine.Reachable.run (.initial starts_emptyWorkflows) finished
  have grew := claimed vault reached (.commit 1) next committed
  rw [committing] at grew
  unfold leases at before after
  obtain ⟨run, rows, observed⟩ := List.map_eq_singleton_iff.mp before
  rw [Prod.mk.injEq] at observed
  obtain ⟨running, holds⟩ := observed
  have member : run ∈ vault.table.runs.rows := rows ▸ List.mem_singleton_self run
  obtain ⟨last, inside, follows⟩ := grew.kept run member
  have same : last = run :=
    RunStep.owned follows "worker-a" worker (by rw [holds]; decide)
  have ended : (last.status, last.leaseOwner) ∈
      next.table.runs.rows.map fun run => (run.status, run.leaseOwner) :=
    List.mem_map_of_mem inside
  rw [after, List.mem_singleton, Prod.mk.injEq, same, running] at ended
  cases ended.1

end

end CareerOS
