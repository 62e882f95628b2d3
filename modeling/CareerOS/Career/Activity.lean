/-
This file is the gate between normal activity and the destruction of a vault: many
readers or one writer, and writers first. A task that enters or leaves a section is
suspended only where the source awaits; a lock that is free is taken without being
suspended, and a turn that ends with the lock held would let the others wait for it.
A task that nests sections is several tasks here.

The condition wakes its waiters more often here than in the source; they check again
what they wait for.
-/

import CareerOS.Library.Tasks

namespace CareerOS

/-! ### The gate -/

/-- `VaultActivityGate`, with whether the locks are held. -/
structure VaultActivityGate where
  /-- The lock of `_condition`. -/
  condition : Bool
  maintenanceLock : Bool
  readers : Int
  writer : Bool
  waitingWriters : Int
  deriving DecidableEq, Repr

/-- The sections of the gate. -/
inductive ActivitySection
  | reader
  | tryReader
  | writer
  | maintenance
  deriving DecidableEq, Repr

/-- Where a task is suspended. -/
inductive ActivityPhase
  /-- Before the lock of the condition, with nothing done yet. -/
  | entering (what : ActivitySection)
  /-- In `wait_for`, with the lock released. -/
  | waiting (what : ActivitySection)
  /-- In `wait_for`, before the lock that it takes again. -/
  | reacquiring (what : ActivitySection) (cancelled : Bool)
  /-- Before the maintenance lock. -/
  | atMaintenanceLock
  /-- In the body of the section. -/
  | inside (what : ActivitySection) (acquired : Bool)
  /-- Before the lock of the condition, on the way out. -/
  | leaving (what : ActivitySection)
  | ended
  deriving DecidableEq, Repr

/-- What happens to a suspended task. -/
inductive ActivityTurn
  /-- What it waits for may have come. -/
  | resume
  /-- The body of its section ends, normally or by a failure or a cancellation. -/
  | leave
  /-- It is cancelled where it is suspended. -/
  | cancel
  deriving DecidableEq, Repr

namespace VaultActivityGate

/-- `VaultActivityGate()`. -/
def new : VaultActivityGate where
  condition := false
  maintenanceLock := false
  readers := 0
  writer := false
  waitingWriters := 0

/-- `async with self._condition`: on with the lock held, or suspended before it. -/
def acquire (gate : VaultActivityGate) (suspended : ActivityPhase)
    (body : VaultActivityGate → VaultActivityGate × ActivityPhase) :
    VaultActivityGate × ActivityPhase :=
  if gate.condition then (gate, suspended) else body { gate with condition := true }

/-- The lock of the condition is given back. -/
def release (gate : VaultActivityGate) : VaultActivityGate := { gate with condition := false }

/-- The predicate of a reader. -/
def admitsReader (gate : VaultActivityGate) : Bool := !gate.writer && gate.waitingWriters == 0

/-- The predicate of a writer. -/
def admitsWriter (gate : VaultActivityGate) : Bool := !gate.writer && gate.readers == 0

/-- `reader`, from the predicate on. -/
def checkReader (gate : VaultActivityGate) : VaultActivityGate × ActivityPhase :=
  if gate.admitsReader then
    ({ gate with readers := gate.readers + 1 }.release, .inside .reader true)
  else (gate.release, .waiting .reader)

/-- `try_reader`, with the lock held. -/
def checkTryReader (gate : VaultActivityGate) : VaultActivityGate × ActivityPhase :=
  if gate.admitsReader && !gate.maintenanceLock then
    ({ gate with readers := gate.readers + 1 }.release, .inside .tryReader true)
  else (gate.release, .inside .tryReader false)

/-- `writer`, from the predicate on. -/
def checkWriter (gate : VaultActivityGate) : VaultActivityGate × ActivityPhase :=
  if gate.admitsWriter then
    ({ gate with writer := true, waitingWriters := gate.waitingWriters - 1 }.release,
      .inside .writer true)
  else (gate.release, .waiting .writer)

/-- `writer`, with the lock held for the first time. -/
def joinWriters (gate : VaultActivityGate) : VaultActivityGate × ActivityPhase :=
  { gate with waitingWriters := gate.waitingWriters + 1 }.checkWriter

/-- The first turn of a task that enters a section. -/
def enter (gate : VaultActivityGate) : ActivitySection → VaultActivityGate × ActivityPhase
  | .reader => gate.acquire (.entering .reader) checkReader
  | .tryReader => gate.acquire (.entering .tryReader) checkTryReader
  | .writer => gate.acquire (.entering .writer) joinWriters
  | .maintenance =>
    if gate.maintenanceLock then (gate, .atMaintenanceLock)
    else ({ gate with maintenanceLock := true }, .inside .maintenance true)

/-- What a waiting task does that has the lock again: check, or leave the wait when cancelled. -/
def afterWait (what : ActivitySection) (cancelled : Bool) (gate : VaultActivityGate) :
    VaultActivityGate × ActivityPhase :=
  match what, cancelled with
  | .writer, true => ({ gate with waitingWriters := gate.waitingWriters - 1 }.release, .ended)
  | _, true => (gate.release, .ended)
  | .writer, false => gate.checkWriter
  | _, false => gate.checkReader

/-- The cleanup of a section, with the lock held. -/
def cleanup (what : ActivitySection) (gate : VaultActivityGate) :
    VaultActivityGate × ActivityPhase :=
  match what with
  | .writer => ({ gate with writer := false }.release, .ended)
  | _ => ({ gate with readers := gate.readers - 1 }.release, .ended)

/-- The body of a section ends. -/
def leave (gate : VaultActivityGate) (what : ActivitySection) (acquired : Bool) :
    VaultActivityGate × ActivityPhase :=
  match what with
  | .maintenance => ({ gate with maintenanceLock := false }, .ended)
  | _ => if acquired then gate.acquire (.leaving what) (cleanup what) else (gate, .ended)

/-- A turn of a suspended task. A wait that is cancelled takes the lock again before it fails, and a
cancellation that comes meanwhile does not end that. A cleanup that is cancelled before its lock
does nothing. -/
def turn (gate : VaultActivityGate) :
    ActivityPhase → ActivityTurn → Option (VaultActivityGate × ActivityPhase)
  | .entering what, .resume => some (gate.enter what)
  | .entering _, .cancel => some (gate, .ended)
  | .waiting what, .resume => some (gate.acquire (.reacquiring what false) (afterWait what false))
  | .waiting what, .cancel => some (gate.acquire (.reacquiring what true) (afterWait what true))
  | .reacquiring what cancelled, .resume =>
    some (gate.acquire (.reacquiring what cancelled) (afterWait what cancelled))
  | .reacquiring what _, .cancel => some (gate, .reacquiring what true)
  | .atMaintenanceLock, .resume => some (gate.enter .maintenance)
  | .atMaintenanceLock, .cancel => some (gate, .ended)
  | .inside what acquired, .leave => some (gate.leave what acquired)
  | .inside what acquired, .cancel => some (gate.leave what acquired)
  | .leaving what, .resume => some (gate.acquire (.leaving what) (cleanup what))
  | .leaving _, .cancel => some (gate, .ended)
  | _, _ => none

end VaultActivityGate

/-- The tasks of a process that use the gate. -/
def activityLoop : EventLoop VaultActivityGate ActivityPhase ActivitySection ActivityTurn where
  begin_ gate what := some (gate.enter what)
  turn := VaultActivityGate.turn

/-- The runs of these tasks. -/
def activityMachine :
    Machine (Tasks VaultActivityGate ActivityPhase) (TaskEvent ActivitySection ActivityTurn) Unit :=
  activityLoop.machine VaultActivityGate.new

/-! ### Who is where -/

namespace ActivityPhase

/-- In the body of a reader section, with a permit. -/
def reads : ActivityPhase → Bool
  | inside .reader _ => true
  | inside .tryReader acquired => acquired
  | _ => false

/-- In the body of a writer section. -/
def writes : ActivityPhase → Bool
  | inside .writer _ => true
  | _ => false

/-- Waiting for a writer section. -/
def waitsToWrite : ActivityPhase → Bool
  | entering .writer => true
  | waiting .writer => true
  | reacquiring .writer _ => true
  | _ => false

/-- Suspended before the lock of the condition. -/
def blocked : ActivityPhase → Bool
  | entering _ => true
  | reacquiring _ _ => true
  | leaving _ => true
  | _ => false

/-- A shape that the code gives to no task: a section that waits but has no wait, a permit that is
missing. -/
def impossible : ActivityPhase → Bool
  | waiting .tryReader => true
  | waiting .maintenance => true
  | inside .reader acquired => !acquired
  | inside .writer acquired => !acquired
  | _ => false

end ActivityPhase

/-! ### The invariant -/

/-- The counters of the gate are the numbers of the tasks, nobody holds the lock of the condition
while suspended, and a writer is alone. -/
structure GateSound (tasks : Tasks VaultActivityGate ActivityPhase) : Prop where
  free : tasks.shared.condition = false
  unblocked : tasks.tally ActivityPhase.blocked = 0
  possible : tasks.tally ActivityPhase.impossible = 0
  readers : tasks.shared.readers = tasks.tally ActivityPhase.reads
  writers : tasks.tally ActivityPhase.writes = if tasks.shared.writer then 1 else 0
  waiting : tasks.shared.waitingWriters = tasks.tally ActivityPhase.waitsToWrite
  alone : tasks.shared.writer = true → tasks.tally ActivityPhase.reads = 0

/-! ### What a turn does -/

open EventLoop (weight weight_of_true weight_of_false)
open ActivityPhase

/-- What the gate and a task do in one turn: the counters move with the task, the lock is free
again, a permit to write is given only to a task that is alone, and a permit to read only while
nobody writes or waits to. -/
structure GateTurn (gate : VaultActivityGate) (before : ActivityPhase) (next : VaultActivityGate)
    (after : ActivityPhase) : Prop where
  free : next.condition = false
  unblocked : blocked after = false
  possible : impossible after = false
  readers : next.readers + weight reads before = gate.readers + weight reads after
  waiting : next.waitingWriters + weight waitsToWrite before =
    gate.waitingWriters + weight waitsToWrite after
  writer : (next.writer = gate.writer ∧ writes after = writes before) ∨
    (next.writer = false ∧ writes before = true ∧ writes after = false) ∨
    (gate.writer = false ∧ gate.readers = 0 ∧ next.writer = true ∧ writes before = false ∧
      writes after = true ∧ reads after = false)
  admitted : reads after = true → reads before = true ∨
    (gate.writer = false ∧ gate.waitingWriters = 0)

variable {gate next : VaultActivityGate} {before after : ActivityPhase}

theorem admitsReader_iff :
    gate.admitsReader = true ↔ gate.writer = false ∧ gate.waitingWriters = 0 := by
  unfold VaultActivityGate.admitsReader
  rw [Bool.and_eq_true, Bool.not_eq_true', beq_iff_eq]

theorem admitsWriter_iff : gate.admitsWriter = true ↔ gate.writer = false ∧ gate.readers = 0 := by
  unfold VaultActivityGate.admitsWriter
  rw [Bool.and_eq_true, Bool.not_eq_true', beq_iff_eq]

/-- A task that neither reads, writes nor waits to write. -/
def Idle (phase : ActivityPhase) : Prop :=
  reads phase = false ∧ writes phase = false ∧ waitsToWrite phase = false

theorem checkReader_turn (idle : Idle before) :
    GateTurn gate before gate.checkReader.1 gate.checkReader.2 := by
  obtain ⟨noRead, noWrite, noWait⟩ := idle
  unfold VaultActivityGate.checkReader
  split
  · rename_i admits
    have open_ := admitsReader_iff.mp admits
    refine ⟨rfl, rfl, rfl, ?_, ?_, .inl ⟨rfl, noWrite.symm⟩, fun _ => .inr open_⟩
    · rw [weight_of_false noRead, weight_of_true rfl]
      exact Int.add_zero _
    · rw [weight_of_false noWait, weight_of_false rfl]
      rfl
  · refine ⟨rfl, rfl, rfl, ?_, ?_, .inl ⟨rfl, noWrite.symm⟩, nofun⟩
    · rw [weight_of_false noRead, weight_of_false rfl]
      rfl
    · rw [weight_of_false noWait, weight_of_false rfl]
      rfl

theorem checkTryReader_turn (idle : Idle before) :
    GateTurn gate before gate.checkTryReader.1 gate.checkTryReader.2 := by
  obtain ⟨noRead, noWrite, noWait⟩ := idle
  unfold VaultActivityGate.checkTryReader
  split
  · rename_i admits
    have open_ := admitsReader_iff.mp ((Bool.and_eq_true _ _).mp admits).1
    refine ⟨rfl, rfl, rfl, ?_, ?_, .inl ⟨rfl, noWrite.symm⟩, fun _ => .inr open_⟩
    · rw [weight_of_false noRead, weight_of_true rfl]
      exact Int.add_zero _
    · rw [weight_of_false noWait, weight_of_false rfl]
      rfl
  · refine ⟨rfl, rfl, rfl, ?_, ?_, .inl ⟨rfl, noWrite.symm⟩, nofun⟩
    · rw [weight_of_false noRead, weight_of_false rfl]
      rfl
    · rw [weight_of_false noWait, weight_of_false rfl]
      rfl

/-- A task that already counts as waiting to write checks whether it may. -/
theorem checkWriter_turn (noRead : reads before = false) (noWrite : writes before = false)
    (waits : waitsToWrite before = true) :
    GateTurn gate before gate.checkWriter.1 gate.checkWriter.2 := by
  unfold VaultActivityGate.checkWriter
  split
  · rename_i admits
    obtain ⟨nobody, none⟩ := admitsWriter_iff.mp admits
    refine ⟨rfl, rfl, rfl, ?_, ?_, .inr (.inr ⟨nobody, none, rfl, noWrite, rfl, rfl⟩), nofun⟩
    · rw [weight_of_false noRead, weight_of_false rfl]
      rfl
    · rw [weight_of_true waits, weight_of_false rfl]
      show gate.waitingWriters - 1 + 1 = gate.waitingWriters + 0
      omega
  · refine ⟨rfl, rfl, rfl, ?_, ?_, .inl ⟨rfl, noWrite.symm⟩, nofun⟩
    · rw [weight_of_false noRead, weight_of_false rfl]
      rfl
    · rw [weight_of_true waits, weight_of_true rfl]
      rfl

/-- A task joins the writers, and counts as waiting or as writing from here on. -/
theorem joinWriters_turn (idle : Idle before) :
    GateTurn gate before gate.joinWriters.1 gate.joinWriters.2 := by
  obtain ⟨noRead, noWrite, noWait⟩ := idle
  unfold VaultActivityGate.joinWriters VaultActivityGate.checkWriter
  split
  · rename_i admits
    obtain ⟨nobody, none⟩ := admitsWriter_iff.mp admits
    refine ⟨rfl, rfl, rfl, ?_, ?_, .inr (.inr ⟨nobody, none, rfl, noWrite, rfl, rfl⟩), nofun⟩
    · rw [weight_of_false noRead, weight_of_false rfl]
      rfl
    · rw [weight_of_false noWait, weight_of_false rfl]
      show gate.waitingWriters + 1 - 1 + 0 = gate.waitingWriters + 0
      omega
  · refine ⟨rfl, rfl, rfl, ?_, ?_, .inl ⟨rfl, noWrite.symm⟩, nofun⟩
    · rw [weight_of_false noRead, weight_of_false rfl]
      rfl
    · rw [weight_of_false noWait, weight_of_true rfl]
      exact Int.add_zero _

/-- A task ends that holds no permit and does not wait to write. -/
theorem over_turn (free : gate.condition = false) (idle : Idle before) :
    GateTurn gate before gate .ended := by
  obtain ⟨noRead, noWrite, noWait⟩ := idle
  refine ⟨free, rfl, rfl, ?_, ?_, .inl ⟨rfl, noWrite.symm⟩, nofun⟩
  · rw [weight_of_false noRead, weight_of_false rfl]
  · rw [weight_of_false noWait, weight_of_false rfl]

/-- The lock of the condition is free, so it is taken at once. -/
theorem acquire_of_free (free : gate.condition = false) (suspended : ActivityPhase)
    (body : VaultActivityGate → VaultActivityGate × ActivityPhase) :
    gate.acquire suspended body = body { gate with condition := true } := by
  unfold VaultActivityGate.acquire
  rw [free]
  rfl

/-- The turn does not depend on whether the lock was held before. -/
theorem GateTurn.unlock {held : Bool}
    (turn : GateTurn { gate with condition := held } before next after) :
    GateTurn gate before next after := { turn with }

/-- A section is entered by a task that has done nothing yet. -/
theorem enter_turn (free : gate.condition = false) (idle : Idle before) (what : ActivitySection) :
    GateTurn gate before (gate.enter what).1 (gate.enter what).2 := by
  cases what with
  | reader =>
    unfold VaultActivityGate.enter
    dsimp only
    rw [acquire_of_free free]
    exact (checkReader_turn idle).unlock
  | tryReader =>
    unfold VaultActivityGate.enter
    dsimp only
    rw [acquire_of_free free]
    exact (checkTryReader_turn idle).unlock
  | writer =>
    unfold VaultActivityGate.enter
    dsimp only
    rw [acquire_of_free free]
    exact (joinWriters_turn idle).unlock
  | maintenance =>
    obtain ⟨noRead, noWrite, noWait⟩ := idle
    unfold VaultActivityGate.enter
    dsimp only
    split
    · refine ⟨free, rfl, rfl, ?_, ?_, .inl ⟨rfl, noWrite.symm⟩, nofun⟩
      · rw [weight_of_false noRead, weight_of_false rfl]
      · rw [weight_of_false noWait, weight_of_false rfl]
    · refine ⟨free, rfl, rfl, ?_, ?_, .inl ⟨rfl, noWrite.symm⟩, nofun⟩
      · rw [weight_of_false noRead, weight_of_false rfl]
      · rw [weight_of_false noWait, weight_of_false rfl]

/-- A wait goes on or ends, with the lock held again. -/
theorem afterWait_turn {what : ActivitySection} {cancelled : Bool}
    (possible : impossible (.waiting what) = false) :
    GateTurn gate (.waiting what) (VaultActivityGate.afterWait what cancelled gate).1
      (VaultActivityGate.afterWait what cancelled gate).2 := by
  cases what with
  | reader =>
    cases cancelled with
    | false => exact checkReader_turn ⟨rfl, rfl, rfl⟩
    | true =>
      have ends : GateTurn gate.release (.waiting .reader) gate.release .ended :=
        over_turn rfl ⟨rfl, rfl, rfl⟩
      exact ends.unlock
  | writer =>
    cases cancelled with
    | false => exact checkWriter_turn rfl rfl rfl
    | true =>
      refine ⟨rfl, rfl, rfl, rfl, ?_, .inl ⟨rfl, rfl⟩, nofun⟩
      show gate.waitingWriters - 1 + 1 = gate.waitingWriters + 0
      omega
  | tryReader => cases possible
  | maintenance => cases possible

/-- The body of a section ends. -/
theorem leave_turn (free : gate.condition = false) {what : ActivitySection} {acquired : Bool}
    (possible : impossible (.inside what acquired) = false) :
    GateTurn gate (.inside what acquired) (gate.leave what acquired).1
      (gate.leave what acquired).2 := by
  cases what with
  | reader =>
    obtain rfl : acquired = true := by simpa [impossible] using possible
    unfold VaultActivityGate.leave
    dsimp only
    rw [if_pos rfl, acquire_of_free free]
    refine ⟨rfl, rfl, rfl, ?_, rfl, .inl ⟨rfl, rfl⟩, nofun⟩
    show gate.readers - 1 + 1 = gate.readers + 0
    omega
  | tryReader =>
    cases acquired with
    | false => exact over_turn free ⟨rfl, rfl, rfl⟩
    | true =>
      unfold VaultActivityGate.leave
      dsimp only
      rw [if_pos rfl, acquire_of_free free]
      refine ⟨rfl, rfl, rfl, ?_, rfl, .inl ⟨rfl, rfl⟩, nofun⟩
      show gate.readers - 1 + 1 = gate.readers + 0
      omega
  | writer =>
    obtain rfl : acquired = true := by simpa [impossible] using possible
    unfold VaultActivityGate.leave
    dsimp only
    rw [if_pos rfl, acquire_of_free free]
    exact ⟨rfl, rfl, rfl, rfl, rfl, .inr (.inl ⟨rfl, rfl, rfl⟩), nofun⟩
  | maintenance => exact ⟨free, rfl, rfl, rfl, rfl, .inl ⟨rfl, rfl⟩, nofun⟩

/-- Every turn of a task that is not suspended before the lock of the condition. -/
theorem turn_turn (free : gate.condition = false) (unblocked : blocked before = false)
    (possible : impossible before = false) {what : ActivityTurn}
    (turned : gate.turn before what = some (next, after)) : GateTurn gate before next after := by
  cases before with
  | entering _ => cases unblocked
  | reacquiring _ _ => cases unblocked
  | leaving _ => cases unblocked
  | waiting kind =>
    cases what with
    | leave => cases turned
    | resume =>
      have same := Option.some.inj turned
      rw [acquire_of_free free] at same
      have turn := @afterWait_turn { gate with condition := true } kind false possible
      rw [same] at turn
      exact turn.unlock
    | cancel =>
      have same := Option.some.inj turned
      rw [acquire_of_free free] at same
      have turn := @afterWait_turn { gate with condition := true } kind true possible
      rw [same] at turn
      exact turn.unlock
  | atMaintenanceLock =>
    cases what with
    | leave => cases turned
    | resume =>
      have turn := @enter_turn gate .atMaintenanceLock free ⟨rfl, rfl, rfl⟩ .maintenance
      rwa [Option.some.inj turned] at turn
    | cancel =>
      obtain ⟨rfl, rfl⟩ := Prod.mk.inj (Option.some.inj turned)
      exact over_turn free ⟨rfl, rfl, rfl⟩
  | inside kind acquired =>
    cases what with
    | resume => cases turned
    | leave =>
      have turn := leave_turn free possible
      rwa [Option.some.inj turned] at turn
    | cancel =>
      have turn := leave_turn free possible
      rwa [Option.some.inj turned] at turn
  | ended => cases what <;> cases turned

/-! ### Runs -/

variable {tasks later : Tasks VaultActivityGate ActivityPhase}
  {event : TaskEvent ActivitySection ActivityTurn}

/-- What a step of the loop is for the gate: a turn of one task, which moves the tallies. -/
theorem gateTurn_of_step (sound : GateSound tasks)
    (stepped : activityLoop.step tasks event = .ok later) :
    ∃ before after, GateTurn tasks.shared before later.shared after ∧
      ∀ among, among .ended = false →
        later.tally among + weight among before = tasks.tally among + weight among after := by
  cases EventLoop.step_ok stepped with
  | @start what phase began tallies =>
    refine ⟨.ended, phase, ?_, fun among none => ?_⟩
    · have turn := @enter_turn tasks.shared .ended sound.free ⟨rfl, rfl, rfl⟩ what
      rwa [Option.some.inj began] at turn
    · rw [tallies, weight_of_false none]
      rfl
  | @turn task what before after suspended here turned tallies =>
    refine ⟨before, after, turn_turn sound.free ?_ ?_ turned, fun among _ => tallies among⟩
    · exact Tasks.tally_eq_zero_iff.mp sound.unblocked before suspended
    · exact Tasks.tally_eq_zero_iff.mp sound.possible before suspended

theorem GateSound.step (sound : GateSound tasks)
    (stepped : activityLoop.step tasks event = .ok later) : GateSound later := by
  obtain ⟨before, after, turn, tallies⟩ := gateTurn_of_step sound stepped
  have readers := tallies reads rfl
  have waiting := tallies waitsToWrite rfl
  have writers := tallies writes rfl
  have noneBlocked := tallies blocked rfl
  have nonePossible := tallies impossible rfl
  rw [sound.unblocked, weight_of_false turn.unblocked] at noneBlocked
  rw [sound.possible, weight_of_false turn.possible] at nonePossible
  have alone := sound.alone
  have soundReaders := sound.readers
  have soundWriters := sound.writers
  have turnReaders := turn.readers
  constructor
  · exact turn.free
  · omega
  · omega
  · omega
  · rcases turn.writer with ⟨same, task⟩ | ⟨gone, wrote, ends⟩ | ⟨nobody, -, here, idle, writes, -⟩
    · rw [same, ← soundWriters]
      unfold weight at writers
      rw [task] at writers
      omega
    · rw [weight_of_true wrote, weight_of_false ends] at writers
      rw [gone]
      cases held : tasks.shared.writer with
      | false =>
        rw [held] at soundWriters
        exact absurd writers (by rw [soundWriters]; exact Nat.succ_ne_zero _)
      | true =>
        rw [held, if_pos rfl] at soundWriters
        rw [if_neg Bool.false_ne_true]
        omega
    · rw [weight_of_false idle, weight_of_true writes] at writers
      rw [nobody, if_neg Bool.false_ne_true] at soundWriters
      rw [here, if_pos rfl]
      omega
  · have := sound.waiting
    have := turn.waiting
    omega
  · intro held
    rcases turn.writer with ⟨same, -⟩ | ⟨gone, -⟩ | ⟨-, none, -, -, -, noRead⟩
    · rw [same] at held
      have none := alone held
      -- Nobody may enter to read while somebody writes.
      have noRead : weight reads after ≤ weight reads before := by
        cases reading : reads after with
        | false => rw [weight_of_false reading]; exact Nat.zero_le _
        | true =>
          rcases turn.admitted reading with already | ⟨nobody, -⟩
          · exact Nat.le_of_eq ((weight_of_true reading).trans (weight_of_true already).symm)
          · rw [held] at nobody
            cases nobody
      omega
    · rw [held] at gone
      cases gone
    · rw [weight_of_false noRead] at readers
      omega

theorem gateSound_of_reachable (reached : activityMachine.Reachable tasks) : GateSound tasks := by
  refine reached.invariant GateSound ?_ fun before event after sound _ stepped => sound.step stepped
  rintro first rfl
  exact ⟨rfl, rfl, rfl, rfl, rfl, rfl, nofun⟩

/-- In every reachable state nobody reads while somebody writes, at most one task writes, no
reader is let in while a writer waits or writes, and when no task is in a section or waits for one
the counters of the gate are as at the start. -/
theorem activityGate_excludes (reached : activityMachine.Reachable tasks) :
    (tasks.tally reads = 0 ∨ tasks.tally writes = 0) ∧ tasks.tally writes ≤ 1 ∧
      (∀ event later, activityMachine.step tasks event = .ok later →
        tasks.tally reads < later.tally reads →
        tasks.tally waitsToWrite = 0 ∧ tasks.tally writes = 0) ∧
      ((∀ phase ∈ tasks.phases, phase = .ended) →
        tasks.shared.readers = 0 ∧ tasks.shared.writer = false ∧
          tasks.shared.waitingWriters = 0) := by
  have sound := gateSound_of_reachable reached
  have writers := sound.writers
  refine ⟨?_, ?_, fun event later stepped more => ?_, fun quiet => ?_⟩
  · cases held : tasks.shared.writer with
    | true => exact .inl (sound.alone held)
    | false =>
      rw [held] at writers
      exact .inr writers
  · split at writers <;> omega
  · obtain ⟨before, after, turn, tallies⟩ := gateTurn_of_step sound stepped
    have readers := tallies reads rfl
    cases reading : reads after with
    | false =>
      rw [weight_of_false reading] at readers
      omega
    | true =>
      rcases turn.admitted reading with already | ⟨nobody, none⟩
      · rw [weight_of_true reading, weight_of_true already] at readers
        omega
      · rw [nobody] at writers
        have waiting := sound.waiting
        exact ⟨by omega, writers⟩
  · have empty : ∀ among : ActivityPhase → Bool, among .ended = false → tasks.tally among = 0 := by
      intro among none
      refine Tasks.tally_eq_zero_iff.mpr fun phase member => ?_
      rw [quiet phase member, none]
    refine ⟨?_, ?_, ?_⟩
    · rw [sound.readers, empty reads rfl]
      rfl
    · cases held : tasks.shared.writer with
      | false => rfl
      | true =>
        rw [held, empty writes rfl] at writers
        cases writers
    · rw [sound.waiting, empty waitsToWrite rfl]
      rfl

/-- A writer that is cancelled while a reader is inside gives its place in the queue back, and the
next reader is let in. -/
theorem activityGate_excludes_cancelledWriter :
    (Tasks.mk { VaultActivityGate.new with readers := 2 }
      [.inside .reader true, .ended, .inside .reader true]).tally reads = 0 ∨
    (Tasks.mk { VaultActivityGate.new with readers := 2 }
      [.inside .reader true, .ended, .inside .reader true]).tally writes = 0 := by
  have ran : activityMachine.run ⟨VaultActivityGate.new, []⟩
      [.start .reader, .start .writer, .turn 1 .cancel, .start .reader] =
        .ok ⟨{ VaultActivityGate.new with readers := 2 },
          [.inside .reader true, .ended, .inside .reader true]⟩ := rfl
  exact (activityGate_excludes (Machine.Reachable.run (.initial rfl) ran)).1

end CareerOS
