/-
This file is the circuit breaker of the model providers. A call decides under the lock
whether it is let in, runs without the lock, and reports how it ended; between the two
any number of other calls may start and end. The sections under the lock await
nothing, so each is one turn of the event loop. A call that is cancelled reports
nothing.

The number of trips is not kept by the source: it tells which calls were let in before
the breaker tripped.
-/

import CareerOS.Library.Tasks

namespace CareerOS

/-! ### The breaker -/

/-- `CircuitState`. -/
inductive CircuitState
  | closed
  | open
  | halfOpen
  deriving DecidableEq, Repr

/-- What a breaker is made with. -/
structure BreakerSettings where
  failureThreshold : Nat
  recoverySeconds : Rat

/-- `CircuitBreaker`, with the number of its trips. -/
structure CircuitBreaker where
  state : CircuitState
  failureCount : Nat
  lastFailureTime : Rat
  trips : Nat
  deriving DecidableEq

/-- Where a call is. -/
inductive CallPhase
  /-- Let in, with `was_half_open` and the trips so far. -/
  | inFlight (wasHalfOpen : Bool) (trips : Nat)
  /-- `CircuitOpenError`. -/
  | refused (retryAfter : Rat)
  | ended
  deriving DecidableEq

/-- What is asked of a breaker. -/
inductive BreakerRequest
  /-- A call, with the readings of the clock for its decision and for its refusal. -/
  | call (now later : Rat)
  | reset
  deriving DecidableEq

/-- How a call ends. -/
inductive CallEnding
  | success
  | failure (now : Rat)
  | cancellation
  deriving DecidableEq

namespace CircuitBreaker

/-- `CircuitBreaker(service)`. -/
def new : CircuitBreaker where
  state := .closed
  failureCount := 0
  lastFailureTime := 0
  trips := 0

variable (settings : BreakerSettings)

/-- Has the recovery window passed? -/
def windowPassed (breaker : CircuitBreaker) (now : Rat) : Bool :=
  settings.recoverySeconds ≤ now - breaker.lastFailureTime

/-- `_maybe_transition_to_half_open`. -/
def maybeTransitionToHalfOpen (breaker : CircuitBreaker) (now : Rat) : CircuitBreaker :=
  if breaker.state = .open ∧ breaker.windowPassed settings now = true then
    { breaker with state := .halfOpen }
  else breaker

/-- `call`, up to where the operation is awaited. -/
def call (breaker : CircuitBreaker) (now later : Rat) : CircuitBreaker × CallPhase :=
  let breaker := breaker.maybeTransitionToHalfOpen settings now
  if breaker.state = .open then
    let retryAfter := settings.recoverySeconds - (later - breaker.lastFailureTime)
    (breaker, .refused (max 0 retryAfter))
  else (breaker, .inFlight (breaker.state = .halfOpen) breaker.trips)

/-- `reset`. -/
def reset (breaker : CircuitBreaker) : CircuitBreaker :=
  { breaker with state := .closed, failureCount := 0, lastFailureTime := 0 }

/-- `_on_failure`. -/
def onFailure (breaker : CircuitBreaker) (wasHalfOpen : Bool) (now : Rat) : CircuitBreaker :=
  let failureCount := breaker.failureCount + 1
  if wasHalfOpen = true ∨ settings.failureThreshold ≤ failureCount then
    { state := .open
      failureCount
      lastFailureTime := now
      trips := if breaker.state = .open then breaker.trips else breaker.trips + 1 }
  else { breaker with failureCount, lastFailureTime := now }

/-- `_on_success`. -/
def onSuccess (breaker : CircuitBreaker) : CircuitBreaker :=
  { breaker with state := .closed, failureCount := 0 }

/-- A call in flight ends. -/
def finish (breaker : CircuitBreaker) : CallPhase → CallEnding → Option (CircuitBreaker × CallPhase)
  | .inFlight _ _, .success => some (breaker.onSuccess, .ended)
  | .inFlight wasHalfOpen _, .failure now =>
    some (breaker.onFailure settings wasHalfOpen now, .ended)
  | .inFlight _ _, .cancellation => some (breaker, .ended)
  | _, _ => none

/-- The first turn of a call, or a reset. -/
def begin_ (breaker : CircuitBreaker) : BreakerRequest → Option (CircuitBreaker × CallPhase)
  | .call now later => some (breaker.call settings now later)
  | .reset => some (breaker.reset, .ended)

end CircuitBreaker

/-- The calls of a process through one breaker. -/
def breakerLoop (settings : BreakerSettings) :
    EventLoop CircuitBreaker CallPhase BreakerRequest CallEnding where
  begin_ := CircuitBreaker.begin_ settings
  turn := CircuitBreaker.finish settings

def breakerMachine (settings : BreakerSettings) :
    Machine (Tasks CircuitBreaker CallPhase) (TaskEvent BreakerRequest CallEnding) Unit :=
  (breakerLoop settings).machine CircuitBreaker.new

/-! ### What a breaker is for -/

namespace CallPhase

/-- In flight, as the probe of a half-open breaker. -/
def probes : CallPhase → Bool
  | inFlight wasHalfOpen _ => wasHalfOpen
  | _ => false

/-- In flight. -/
def flies : CallPhase → Bool
  | inFlight _ _ => true
  | _ => false

end CallPhase

variable {settings : BreakerSettings} {tasks next : Tasks CircuitBreaker CallPhase}
  {event : TaskEvent BreakerRequest CallEnding}

/-- What a step of a breaker may do. -/
structure BreakerSafe (settings : BreakerSettings) (tasks next : Tasks CircuitBreaker CallPhase)
    (event : TaskEvent BreakerRequest CallEnding) : Prop where
  /-- No call is let in before the recovery window has passed. -/
  failsFast : ∀ now later, tasks.shared.state = .open → event = .start (.call now later) →
    tasks.shared.windowPassed settings now = false →
    next.shared = tasks.shared ∧ next.tally CallPhase.flies = tasks.tally CallPhase.flies
  /-- A half-open breaker has one probe in flight at most. -/
  singleProbe : next.shared.state = .halfOpen → next.tally CallPhase.probes ≤ 1
  /-- An open breaker stays open until the window has passed, or a reset. -/
  leavesOpen : tasks.shared.state = .open → next.shared.state ≠ .open →
    event = .start .reset ∨ ∃ now later, event = .start (.call now later) ∧
      tasks.shared.windowPassed settings now = true
  /-- A breaker that is not closed is closed by a reset, or by a call let in since it tripped. -/
  closes : tasks.shared.state ≠ .closed → next.shared.state = .closed →
    event = .start .reset ∨ ∃ task wasHalfOpen,
      event = .turn task .success ∧
        tasks.phases[task]? = some (.inFlight wasHalfOpen tasks.shared.trips)
  /-- Once the window has passed a call is let in. -/
  recovers : ∀ now later, next.shared.windowPassed settings now = true →
    (next.shared.call settings now later).2.flies = true

/-- What a breaker needs of a step: no probe while another is in flight, and no success of a call
that was let in before the breaker tripped. -/
structure BreakerDisciplined (settings : BreakerSettings) (tasks : Tasks CircuitBreaker CallPhase)
    (event : TaskEvent BreakerRequest CallEnding) : Prop where
  probeAlone : ∀ now later, event = .start (.call now later) →
    (tasks.shared.maybeTransitionToHalfOpen settings now).state = .halfOpen →
    tasks.tally CallPhase.probes = 0
  freshSuccess : ∀ task wasHalfOpen trips, event = .turn task .success →
    tasks.phases[task]? = some (.inFlight wasHalfOpen trips) →
    tasks.shared.state = .closed ∨ trips = tasks.shared.trips

/-! ### The invariant -/

/-- An open breaker has tripped since every call in flight was let in, and there is one probe in
flight at most. -/
structure BreakerSound (tasks : Tasks CircuitBreaker CallPhase) : Prop where
  before : tasks.shared.state = .open → ∀ wasHalfOpen trips,
    .inFlight wasHalfOpen trips ∈ tasks.phases → trips < tasks.shared.trips
  earlier : ∀ wasHalfOpen trips, .inFlight wasHalfOpen trips ∈ tasks.phases →
    trips ≤ tasks.shared.trips
  probe : tasks.tally CallPhase.probes ≤ 1

/-! ### What the functions of the breaker do -/

open EventLoop (weight_of_true weight_of_false)

variable {breaker : CircuitBreaker} {now later : Rat}

/-- The window has passed, or nothing changes. -/
theorem maybeTransition_cases (settings : BreakerSettings) (breaker : CircuitBreaker) (now : Rat) :
    (breaker.state = .open ∧ breaker.windowPassed settings now = true ∧
      breaker.maybeTransitionToHalfOpen settings now = { breaker with state := .halfOpen }) ∨
    (¬(breaker.state = .open ∧ breaker.windowPassed settings now = true) ∧
      breaker.maybeTransitionToHalfOpen settings now = breaker) := by
  unfold CircuitBreaker.maybeTransitionToHalfOpen
  split
  · rename_i passed
    exact .inl ⟨passed.1, passed.2, rfl⟩
  · rename_i waits
    exact .inr ⟨waits, rfl⟩

/-- A call is refused by an open breaker, or let in. -/
theorem call_cases (settings : BreakerSettings) (breaker : CircuitBreaker) (now later : Rat) :
    (breaker.state = .open ∧ breaker.windowPassed settings now = false ∧ ∃ retryAfter,
      breaker.call settings now later = (breaker, .refused retryAfter)) ∨
    ((breaker.state = .open → breaker.windowPassed settings now = true) ∧
      (breaker.maybeTransitionToHalfOpen settings now).state ≠ .open ∧
      breaker.call settings now later = (breaker.maybeTransitionToHalfOpen settings now,
        .inFlight ((breaker.maybeTransitionToHalfOpen settings now).state = .halfOpen)
          breaker.trips)) := by
  unfold CircuitBreaker.call
  rcases maybeTransition_cases settings breaker now with
    ⟨opened, passed, moved⟩ | ⟨waits, same⟩
  · rw [moved]
    exact .inr ⟨fun _ => passed, nofun, rfl⟩
  · rw [same]
    by_cases opened : breaker.state = .open
    · refine .inl ⟨opened, ?_, _, if_pos opened⟩
      exact (Bool.not_eq_true _).mp fun passed => waits ⟨opened, passed⟩
    · exact .inr ⟨fun held => absurd held opened, opened, if_neg opened⟩

theorem onFailure_cases (settings : BreakerSettings) (breaker : CircuitBreaker) (now : Rat)
    (wasHalfOpen : Bool) :
    ((breaker.onFailure settings wasHalfOpen now).state = .open ∧
      (breaker.onFailure settings wasHalfOpen now).trips =
        if breaker.state = .open then breaker.trips else breaker.trips + 1) ∨
    ((breaker.onFailure settings wasHalfOpen now).state = breaker.state ∧
      (breaker.onFailure settings wasHalfOpen now).trips = breaker.trips) := by
  unfold CircuitBreaker.onFailure
  dsimp only
  split
  · exact .inl ⟨rfl, rfl⟩
  · exact .inr ⟨rfl, rfl⟩

/-- Once the window has passed a call is let in. -/
theorem call_recovers (passed : breaker.windowPassed settings now = true) :
    (breaker.call settings now later).2.flies = true := by
  rcases call_cases settings breaker now later with
    ⟨-, waits, -⟩ | ⟨-, -, let_in⟩
  · rw [passed] at waits
    cases waits
  · rw [let_in]
    rfl

/-! ### Runs -/

/-- When no call is let in, it is enough that a breaker that is open was open before or has tripped
now. -/
theorem BreakerSound.carried (sound : BreakerSound tasks)
    (carried : ∀ wasHalfOpen trips, .inFlight wasHalfOpen trips ∈ next.phases →
      .inFlight wasHalfOpen trips ∈ tasks.phases)
    (probe : next.tally CallPhase.probes ≤ tasks.tally CallPhase.probes)
    (trips : tasks.shared.trips ≤ next.shared.trips)
    (opened : next.shared.state = .open →
      tasks.shared.state = .open ∨ tasks.shared.trips < next.shared.trips) :
    BreakerSound next := by
  refine ⟨fun held wasHalfOpen count member => ?_, fun wasHalfOpen count member => ?_,
    probe.trans sound.probe⟩
  · have inFlight := carried wasHalfOpen count member
    rcases opened held with before | tripped
    · exact (sound.before before wasHalfOpen count inFlight).trans_le trips
    · exact (sound.earlier wasHalfOpen count inFlight).trans_lt tripped
  · exact (sound.earlier wasHalfOpen count (carried wasHalfOpen count member)).trans trips

variable {wasHalfOpen : Bool}

/-- A new task that is not let in. -/
theorem carried_of_append {phases : List CallPhase} {phase : CallPhase}
    (lands : phase.flies = false) {trips : Nat}
    (member : .inFlight wasHalfOpen trips ∈ phases ++ [phase]) :
    .inFlight wasHalfOpen trips ∈ phases := by
  rcases List.mem_append.mp member with old | new
  · exact old
  · rw [← List.mem_singleton.mp new] at lands
    cases lands

/-- A task that ends. -/
theorem carried_of_set_over {phases : List CallPhase} {task : Nat}
    {trips : Nat} (member : .inFlight wasHalfOpen trips ∈ phases.set task .ended) :
    .inFlight wasHalfOpen trips ∈ phases := by
  rcases List.mem_or_eq_of_mem_set member with old | same
  · exact old
  · cases same

theorem maybeTransition_trips :
    (breaker.maybeTransitionToHalfOpen settings now).trips = breaker.trips := by
  rcases maybeTransition_cases settings breaker now with
    ⟨-, -, moved⟩ | ⟨-, same⟩
  · rw [moved]
  · rw [same]

/-- A call that ends: how the breaker changes. -/
inductive Finished (settings : BreakerSettings) (breaker next : CircuitBreaker)
    (wasHalfOpen : Bool) : CallEnding → Prop
  | success (same : next = breaker.onSuccess) : Finished settings breaker next wasHalfOpen .success
  | failure {now : Rat} (same : next = breaker.onFailure settings wasHalfOpen now) :
      Finished settings breaker next wasHalfOpen (.failure now)
  | cancellation (same : next = breaker) : Finished settings breaker next wasHalfOpen .cancellation

theorem finish_some {before after : CallPhase} {what : CallEnding} {later : CircuitBreaker}
    (finished : breaker.finish settings before what = some (later, after)) :
    ∃ wasHalfOpen trips, before = .inFlight wasHalfOpen trips ∧ after = .ended ∧
      Finished settings breaker later wasHalfOpen what := by
  cases before with
  | refused _ => cases what <;> cases finished
  | ended => cases what <;> cases finished
  | inFlight wasHalfOpen trips =>
    cases what with
    | success =>
      obtain ⟨same, rfl⟩ := Prod.mk.inj (Option.some.inj finished)
      exact ⟨wasHalfOpen, trips, rfl, rfl, .success same.symm⟩
    | failure now =>
      obtain ⟨same, rfl⟩ := Prod.mk.inj (Option.some.inj finished)
      exact ⟨wasHalfOpen, trips, rfl, rfl, .failure same.symm⟩
    | cancellation =>
      obtain ⟨same, rfl⟩ := Prod.mk.inj (Option.some.inj finished)
      exact ⟨wasHalfOpen, trips, rfl, rfl, .cancellation same.symm⟩

/-- A call that ends leaves the trips, or trips the breaker. -/
theorem Finished.trips {later : CircuitBreaker} {what : CallEnding}
    (finished : Finished settings breaker later wasHalfOpen what) :
    breaker.trips ≤ later.trips ∧
      (later.state = .open → breaker.state = .open ∨ breaker.trips < later.trips) := by
  cases finished with
  | success same =>
    rw [same]
    exact ⟨Nat.le_refl _, nofun⟩
  | cancellation same =>
    rw [same]
    exact ⟨Nat.le_refl _, .inl⟩
  | @failure now same =>
    rw [same]
    rcases onFailure_cases settings breaker now wasHalfOpen with
      ⟨-, trips⟩ | ⟨state, trips⟩
    · rw [trips]
      split
      · rename_i opened
        exact ⟨Nat.le_refl _, fun _ => .inl opened⟩
      · exact ⟨Nat.le_succ _, fun _ => .inr (Nat.lt_succ_self _)⟩
    · rw [state, trips]
      exact ⟨Nat.le_refl _, .inl⟩

theorem BreakerSound.step (sound : BreakerSound tasks)
    (disciplined : BreakerDisciplined settings tasks event)
    (stepped : (breakerMachine settings).step tasks event = .ok next) : BreakerSound next := by
  have moves : (breakerLoop settings).Moves tasks next event := EventLoop.step_ok stepped
  cases moves with
  | @start what phase began tallies phases =>
    have probes := tallies CallPhase.probes
    cases what with
    | reset =>
      obtain ⟨shared, rfl⟩ := Prod.mk.inj (Option.some.inj began)
      rw [weight_of_false rfl] at probes
      refine sound.carried (fun _ _ member => carried_of_append rfl (phases ▸ member))
        (Nat.le_of_eq probes) ?_ fun opened => ?_
      · rw [← shared]
        exact Nat.le_refl _
      · rw [← shared] at opened
        cases opened
    | call now later =>
      have result := Option.some.inj began
      rcases call_cases settings tasks.shared now later with ⟨opened, -, retryAfter, refused⟩ | ⟨-, notOpen, let_in⟩
      · rw [refused] at result
        obtain ⟨shared, rfl⟩ := Prod.mk.inj result
        rw [weight_of_false rfl] at probes
        exact sound.carried (fun _ _ member => carried_of_append rfl (phases ▸ member))
          (Nat.le_of_eq probes) (by rw [shared]) fun _ => .inl opened
      · rw [let_in] at result
        obtain ⟨shared, rfl⟩ := Prod.mk.inj result
        refine ⟨fun opened => ?_, fun wasHalfOpen count member => ?_, ?_⟩
        · rw [← shared] at opened
          exact absurd opened notOpen
        · rw [← shared, maybeTransition_trips]
          rw [phases] at member
          rcases List.mem_append.mp member with old | new
          · exact sound.earlier wasHalfOpen count old
          · obtain ⟨-, rfl⟩ := CallPhase.inFlight.inj (List.mem_singleton.mp new)
            exact Nat.le_refl _
        · rw [probes]
          by_cases probing :
              (tasks.shared.maybeTransitionToHalfOpen settings now).state = .halfOpen
          · rw [disciplined.probeAlone now later rfl probing, weight_of_true]
            exact decide_eq_true probing
          · rw [weight_of_false]
            · exact sound.probe
            · exact decide_eq_false probing
  | @turn task what before after suspended here turned tallies phases =>
    have probes := tallies CallPhase.probes
    obtain ⟨wasHalfOpen, count, rfl, rfl, finished⟩ := finish_some turned
    rw [weight_of_false (show CallPhase.probes .ended = false from rfl)] at probes
    exact sound.carried (fun _ _ member => carried_of_set_over (phases ▸ member)) (by omega)
      finished.trips.1 finished.trips.2

theorem breakerSound_of_reachable
    (reached : (breakerMachine settings).ReachableWhen (BreakerDisciplined settings) tasks) :
    BreakerSound tasks := by
  refine reached.invariant BreakerSound ?_
    fun before event after sound disciplined stepped => sound.step disciplined stepped
  rintro first rfl
  exact ⟨nofun, fun _ _ member => absurd member List.not_mem_nil, Nat.zero_le _⟩

/-! ### Safe steps -/

/-- A second probe is not safe. -/
theorem BreakerSafe.probeAlone (safe : BreakerSafe settings tasks next (.start (.call now later)))
    (moves : (breakerLoop settings).Moves tasks next (.start (.call now later)))
    (probing : (tasks.shared.maybeTransitionToHalfOpen settings now).state = .halfOpen) :
    tasks.tally CallPhase.probes = 0 := by
  cases moves with
  | @start _ phase began tallies phases =>
    have result := Option.some.inj began
    rcases call_cases settings tasks.shared now later with ⟨opened, waits, -⟩ | ⟨-, -, let_in⟩
    · rcases maybeTransition_cases settings tasks.shared now with ⟨-, passed, -⟩ | ⟨-, same⟩
      · rw [waits] at passed
        cases passed
      · rw [same, opened] at probing
        cases probing
    · rw [let_in] at result
      obtain ⟨shared, rfl⟩ := Prod.mk.inj result
      have probes := tallies CallPhase.probes
      have probe : CallPhase.probes (.inFlight (decide ((tasks.shared.maybeTransitionToHalfOpen
        settings now).state = .halfOpen)) tasks.shared.trips) = true := decide_eq_true probing
      rw [weight_of_true probe] at probes
      have single := safe.singleProbe (by rw [← shared]; exact probing)
      omega

/-- The success of a call from before the trip is not safe. -/
theorem BreakerSafe.freshSuccess {task : Nat}
    (safe : BreakerSafe settings tasks next (.turn task .success))
    (moves : (breakerLoop settings).Moves tasks next (.turn task .success))
    {trips : Nat} (here : tasks.phases[task]? = some (.inFlight wasHalfOpen trips)) :
    tasks.shared.state = .closed ∨ trips = tasks.shared.trips := by
  by_contra stale
  push Not at stale
  obtain ⟨notClosed, other⟩ := stale
  cases moves with
  | @turn _ _ before after suspended same turned tallies phases =>
    rw [here] at same
    obtain rfl := Option.some.inj same
    obtain ⟨shared, -⟩ := Prod.mk.inj (Option.some.inj turned)
    have closed : next.shared.state = .closed := by
      rw [← shared]
      rfl
    rcases safe.closes notClosed closed with reset | ⟨number, flag, success, fresh⟩
    · cases reset
    · obtain ⟨rfl, -⟩ := TaskEvent.turn.inj success
      rw [here] at fresh
      exact other (CallPhase.inFlight.inj (Option.some.inj fresh)).2

/-- Whatever runs, an open breaker lets no call in before the window has passed. -/
theorem breaker_failsFast
    (moves : (breakerLoop settings).Moves tasks next (.start (.call now later)))
    (opened : tasks.shared.state = .open)
    (waits : tasks.shared.windowPassed settings now = false) :
    next.shared = tasks.shared ∧ next.tally CallPhase.flies = tasks.tally CallPhase.flies := by
  cases moves with
  | @start _ phase began tallies phases =>
    have result := Option.some.inj began
    rcases call_cases settings tasks.shared now later with ⟨-, -, retryAfter, refused⟩ | ⟨passed, -⟩
    · rw [refused] at result
      obtain ⟨shared, rfl⟩ := Prod.mk.inj result
      exact ⟨shared.symm, by rw [tallies, weight_of_false rfl]; rfl⟩
    · rw [passed opened] at waits
      cases waits

/-- An open breaker that does not see a success from before the trip. -/
theorem BreakerDisciplined.leavesOpen (disciplined : BreakerDisciplined settings tasks event)
    (sound : BreakerSound tasks) (moves : (breakerLoop settings).Moves tasks next event)
    (opened : tasks.shared.state = .open) (notOpen : next.shared.state ≠ .open) :
    event = .start .reset ∨ ∃ now later, event = .start (.call now later) ∧
      tasks.shared.windowPassed settings now = true := by
  cases moves with
  | @start what phase began tallies phases =>
    cases what with
    | reset => exact .inl rfl
    | call now later =>
      refine .inr ⟨now, later, rfl, ?_⟩
      rcases call_cases settings tasks.shared now later with ⟨-, -, retryAfter, refused⟩ | ⟨passed, -⟩
      · have result := Option.some.inj began
        rw [refused] at result
        rw [← (Prod.mk.inj result).1] at notOpen
        exact absurd opened notOpen
      · exact passed opened
  | @turn task what before after suspended here turned tallies phases =>
    obtain ⟨wasHalfOpen, count, rfl, rfl, finished⟩ := finish_some turned
    cases finished with
    | success same =>
      -- No call in flight was let in since the breaker tripped.
      have earlier := sound.before opened wasHalfOpen count suspended
      rcases disciplined.freshSuccess task wasHalfOpen count rfl here with closed | fresh
      · rw [opened] at closed
        cases closed
      · omega
    | cancellation same =>
      rw [same] at notOpen
      exact absurd opened notOpen
    | @failure now same =>
      rw [same] at notOpen
      rcases onFailure_cases settings tasks.shared now wasHalfOpen with ⟨open_, -⟩ | ⟨state, -⟩
      · exact absurd open_ notOpen
      · rw [state] at notOpen
        exact absurd opened notOpen

/-- Who closes a breaker that is not closed. -/
theorem BreakerDisciplined.closes (disciplined : BreakerDisciplined settings tasks event)
    (moves : (breakerLoop settings).Moves tasks next event)
    (notClosed : tasks.shared.state ≠ .closed) (closed : next.shared.state = .closed) :
    event = .start .reset ∨ ∃ task wasHalfOpen, event = .turn task .success ∧
      tasks.phases[task]? = some (.inFlight wasHalfOpen tasks.shared.trips) := by
  cases moves with
  | @start what phase began tallies phases =>
    cases what with
    | reset => exact .inl rfl
    | call now later =>
      have result := Option.some.inj began
      rcases call_cases settings tasks.shared now later with ⟨-, -, retryAfter, refused⟩ | ⟨-, -, let_in⟩
      · rw [refused] at result
        rw [← (Prod.mk.inj result).1] at closed
        exact absurd closed notClosed
      · rw [let_in] at result
        rw [← (Prod.mk.inj result).1] at closed
        rcases maybeTransition_cases settings tasks.shared now with ⟨-, -, moved⟩ | ⟨-, same⟩
        · rw [moved] at closed
          cases closed
        · rw [same] at closed
          exact absurd closed notClosed
  | @turn task what before after suspended here turned tallies phases =>
    obtain ⟨wasHalfOpen, count, rfl, rfl, finished⟩ := finish_some turned
    cases finished with
    | success same =>
      rcases disciplined.freshSuccess task wasHalfOpen count rfl here with held | fresh
      · exact absurd held notClosed
      · rw [fresh] at here
        exact .inr ⟨task, wasHalfOpen, rfl, here⟩
    | cancellation same =>
      rw [same] at closed
      exact absurd closed notClosed
    | @failure now same =>
      rw [same] at closed
      rcases onFailure_cases settings tasks.shared now wasHalfOpen with ⟨open_, -⟩ | ⟨state, -⟩
      · rw [open_] at closed
        cases closed
      · rw [state] at closed
        exact absurd closed notClosed

/-- In a run that was disciplined so far, the next step is safe exactly when it is disciplined
too. -/
theorem circuitBreaker_safe
    (reached : (breakerMachine settings).ReachableWhen (BreakerDisciplined settings) tasks)
    (stepped : (breakerMachine settings).step tasks event = .ok next) :
    BreakerSafe settings tasks next event ↔ BreakerDisciplined settings tasks event := by
  have sound := breakerSound_of_reachable reached
  have moves : (breakerLoop settings).Moves tasks next event := EventLoop.step_ok stepped
  constructor
  · intro safe
    constructor
    · rintro now later rfl probing
      exact safe.probeAlone moves probing
    · rintro task wasHalfOpen trips rfl here
      exact safe.freshSuccess moves here
  · intro disciplined
    have soundNext := sound.step disciplined stepped
    refine ⟨?_, fun _ => soundNext.probe, disciplined.leavesOpen sound moves,
      disciplined.closes moves, fun _ _ passed => call_recovers passed⟩
    rintro now later opened rfl waits
    exact breaker_failsFast moves opened waits

/-- A breaker that trips at the first failure and recovers after a minute. -/
def quickBreaker : BreakerSettings where
  failureThreshold := 1
  recoverySeconds := 60

/-- The breaker after its first trip. -/
def trippedBreaker : CircuitBreaker where
  state := .open
  failureCount := 1
  lastFailureTime := 5
  trips := 1

/-- A call fails, and the breaker refuses the next one after ten seconds. -/
theorem circuitBreaker_safe_refusal :
    BreakerSafe quickBreaker ⟨trippedBreaker, [.ended]⟩ ⟨trippedBreaker, [.ended, .refused 50]⟩
      (.start (.call 15 15)) ↔
    BreakerDisciplined quickBreaker ⟨trippedBreaker, [.ended]⟩ (.start (.call 15 15)) := by
  have alone : BreakerDisciplined quickBreaker ⟨CircuitBreaker.new, []⟩ (.start (.call 0 0)) :=
    ⟨fun _ _ _ _ => rfl, nofun⟩
  have fails : BreakerDisciplined quickBreaker ⟨CircuitBreaker.new, [.inFlight false 0]⟩
      (.turn 0 (.failure 5)) := ⟨nofun, nofun⟩
  have called : (breakerMachine quickBreaker).ReachableWhen (BreakerDisciplined quickBreaker)
      ⟨CircuitBreaker.new, [.inFlight false 0]⟩ :=
    .step (.initial rfl) alone (by decide +kernel)
  have tripped : (breakerMachine quickBreaker).ReachableWhen (BreakerDisciplined quickBreaker)
      ⟨trippedBreaker, [.ended]⟩ := .step called fails (by decide +kernel)
  exact circuitBreaker_safe tripped (by decide +kernel)

/-- Two calls are let in and the first trips the breaker: the success of the second closes it at
once. And a breaker that is half-open lets two probes in. -/
theorem circuitBreaker_unsafe :
    (∃ tasks next, (breakerMachine quickBreaker).Reachable tasks ∧
      (breakerMachine quickBreaker).step tasks (.turn 1 .success) = .ok next ∧
      tasks.shared.state = .open ∧ next.shared.state = .closed) ∧
    ∃ tasks, (breakerMachine quickBreaker).Reachable tasks ∧
      tasks.shared.state = .halfOpen ∧ tasks.tally CallPhase.probes = 2 := by
  refine ⟨⟨⟨trippedBreaker, [.ended, .inFlight false 0]⟩, _, ?_, rfl, rfl, rfl⟩,
    ⟨⟨{ trippedBreaker with state := .halfOpen }, [.ended, .inFlight true 1, .inFlight true 1]⟩, ?_,
      rfl, rfl⟩⟩
  · have ran : (breakerMachine quickBreaker).run ⟨CircuitBreaker.new, []⟩
        [.start (.call 0 0), .start (.call 1 1), .turn 0 (.failure 5)] =
          .ok ⟨trippedBreaker, [.ended, .inFlight false 0]⟩ := by decide +kernel
    exact Machine.Reachable.run (.initial rfl) ran
  · have ran : (breakerMachine quickBreaker).run ⟨CircuitBreaker.new, []⟩
        [.start (.call 0 0), .turn 0 (.failure 5), .start (.call 70 70), .start (.call 71 71)] =
          .ok ⟨{ trippedBreaker with state := .halfOpen },
            [.ended, .inFlight true 1, .inFlight true 1]⟩ := by decide +kernel
    exact Machine.Reachable.run (.initial rfl) ran

end CareerOS
