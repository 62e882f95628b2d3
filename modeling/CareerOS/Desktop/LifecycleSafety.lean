/-
This file proves the contract of the desktop lifecycle where every answered probe is
announced in time. The monitor of a child announces readiness without another look at the
slot. Between the answer and the announcement the child may be taken from the slot, and
then a dead backend is announced as ready, even after the supervisor has given up.

What one access may change of what the other threads rely on is said once. The contract
follows from it and from what holds in every interleaving.
-/

import CareerOS.Desktop.LifecycleSteps

namespace CareerOS

/-! ### What one access changes -/

namespace BackendLifecycle

/-- The access announces that the backend of a child is ready. -/
def SetsReady (lifecycle : BackendLifecycle) (action : LifecycleAction) (child : CommandChild) :
    Prop :=
  action = .monitor child ∧ lifecycle.monitors child = .setReady

/-- The access empties the slot. -/
def Takes (lifecycle : BackendLifecycle) : LifecycleAction → Prop
  | .supervise => ∃ child terminated, lifecycle.supervisor = .takeChild child terminated
  | .monitor child => lifecycle.monitors child = .takeChild ∧
      ∃ taken, lifecycle.child = some taken ∧ taken.processId = child.processId
  | .forced caller => lifecycle.forced caller = .takeChild
  | _ => False

/-- The access is the exiting thread's look at a supervisor that has stopped. -/
def LooksAtStopped (lifecycle : BackendLifecycle) (action : LifecycleAction) : Prop :=
  action = .exit ∧ (∃ requested, lifecycle.exit = .readSupervisor requested) ∧
    lifecycle.supervisorRunning = false

/-- What one access may change of what the other threads rely on. -/
structure Changes (lifecycle : BackendLifecycle) (action : LifecycleAction)
    (next : BackendLifecycle) : Prop where
  monitors : ∀ child, next.monitors child = .setReady →
    lifecycle.monitors child = .setReady ∨ action = .probe child true
  child : next.child = lifecycle.child ∨ lifecycle.Takes action ∨
    ∃ child, lifecycle.supervisor = .installChild child
  phase : next.phase = lifecycle.phase ∨ next.phase = .failed ∨
    (next.phase ≠ .ready ∧ lifecycle.supervisor ≠ .stopped) ∨
      ∃ child, lifecycle.SetsReady action child
  observed : next.exit.observed = true →
    lifecycle.exit.observed = true ∨ lifecycle.LooksAtStopped action
  stopped : lifecycle.supervisor = .stopped →
    next.supervisor = .stopped ∧ next.spawned = lifecycle.spawned
  forced : ∀ caller, (lifecycle.forced caller).hasTaken = true →
    (next.forced caller).hasTaken = true
  gone : ∀ child, lifecycle.Gone child → next.Gone child

section

variable {lifecycle next : BackendLifecycle} {action : LifecycleAction}

theorem changes_of_supervisor (goesOn : lifecycle.supervisor ≠ .stopped)
    (monitors : ∀ child, next.monitors child = .setReady → lifecycle.monitors child = .setReady)
    (child : next.child = lifecycle.child ∨ lifecycle.Takes action ∨
      ∃ child, lifecycle.supervisor = .installChild child)
    (phase : next.phase = lifecycle.phase ∨ next.phase ≠ .ready)
    (exit : next.exit = lifecycle.exit) (forced : next.forced = lifecycle.forced)
    (killed : lifecycle.killed ⊆ next.killed) (terminated : next.terminated = lifecycle.terminated) :
    lifecycle.Changes action next := by
  refine ⟨fun child ready => .inl (monitors child ready), child, ?_,
    fun observed => .inl (exit ▸ observed), fun stopped => absurd stopped goesOn,
    fun caller taken => forced.symm ▸ taken,
    fun child gone => gone.mono killed (terminated ▸ List.Subset.refl _)⟩
  exact phase.imp id fun other => .inr (.inl ⟨other, goesOn⟩)

theorem setReady_of_update {point : MonitorPoint} {child watched : CommandChild}
    (other : point ≠ .setReady)
    (ready : Function.update lifecycle.monitors child point watched = .setReady) :
    lifecycle.monitors watched = .setReady := by
  by_cases same : watched = child
  · rw [same, Function.update_self] at ready
    exact absurd ready other
  · rw [Function.update_of_ne same] at ready
    exact ready

theorem ne_stopped_of {point : SupervisorPoint} (here : lifecycle.supervisor = point)
    (goesOn : point ≠ .stopped) : lifecycle.supervisor ≠ .stopped := here ▸ goesOn

theorem supervise_changes (stepped : lifecycle.supervise = .ok next) :
    lifecycle.Changes .supervise next := by
  unfold supervise at stepped
  split at stepped
  case h_1 here | h_3 here | h_6 _ here | h_15 here | h_16 here | h_18 here =>
    obtain rfl := Except.ok.inj stepped
    exact changes_of_supervisor (ne_stopped_of here nofun) (fun _ => id) (.inl rfl) (.inl rfl) rfl rfl
      (List.Subset.refl _) rfl
  case h_2 here | h_10 _ here | h_17 here =>
    obtain rfl := Except.ok.inj stepped
    exact changes_of_supervisor (ne_stopped_of here nofun) (fun _ => id) (.inl rfl) (.inr nofun) rfl rfl
      (List.Subset.refl _) rfl
  case h_4 _ here | h_9 _ here | h_14 _ here =>
    obtain rfl := Except.ok.inj stepped
    exact changes_of_supervisor (ne_stopped_of here nofun) (fun _ => id) (.inl rfl) (.inl rfl) rfl rfl
      (List.subset_cons_self _ _) rfl
  case h_5 here | h_8 _ here | h_13 _ _ here =>
    obtain rfl := Except.ok.inj stepped
    exact changes_of_supervisor (ne_stopped_of here nofun) (fun _ => id) (.inl rfl) (.inl rfl) rfl rfl
      (List.subset_append_right _ _) rfl
  case h_7 child here =>
    obtain rfl := Except.ok.inj stepped
    exact changes_of_supervisor (ne_stopped_of here nofun) (fun _ => id)
      (.inr (.inr ⟨child, here⟩)) (.inl rfl) rfl rfl (List.Subset.refl _) rfl
  case h_11 child here =>
    obtain rfl := Except.ok.inj stepped
    have quiet : MonitorPoint.checkDeadline ≠ .setReady := nofun
    exact changes_of_supervisor (ne_stopped_of here nofun)
      (fun _ ready => setReady_of_update quiet ready) (.inl rfl) (.inl rfl) rfl rfl
      (List.Subset.refl _) rfl
  case h_12 child terminated here =>
    obtain rfl := Except.ok.inj stepped
    exact changes_of_supervisor (ne_stopped_of here nofun) (fun _ => id)
      (.inr (.inl ⟨child, terminated, here⟩)) (.inl rfl) rfl rfl (List.Subset.refl _) rfl
  case h_19 => cases stepped

theorem findDirectory_changes {found : Bool} (stepped : lifecycle.findDirectory found = .ok next) :
    lifecycle.Changes (.findDirectory found) next := by
  unfold findDirectory at stepped
  split at stepped
  case h_1 here =>
    obtain rfl := Except.ok.inj stepped
    exact changes_of_supervisor (ne_stopped_of here nofun) (fun _ => id) (.inl rfl) (.inl rfl) rfl rfl
      (List.Subset.refl _) rfl
  case h_2 => cases stepped

theorem spawn_changes {processId : Option Nat} (stepped : lifecycle.spawn processId = .ok next) :
    lifecycle.Changes (.spawn processId) next := by
  unfold spawn at stepped
  split at stepped
  case h_2 => cases stepped
  case h_1 here =>
    split at stepped
    all_goals
      obtain rfl := Except.ok.inj stepped
      exact changes_of_supervisor (ne_stopped_of here nofun) (fun _ => id) (.inl rfl) (.inl rfl) rfl rfl
        (List.Subset.refl _) rfl

theorem assignJob_changes {windows assigned : Bool}
    (stepped : lifecycle.assignJob windows assigned = .ok next) :
    lifecycle.Changes (.assignJob assigned) next := by
  unfold assignJob at stepped
  split at stepped
  case h_2 => cases stepped
  case h_1 child here =>
    split at stepped
    · obtain rfl := Except.ok.inj stepped
      unfold BackendLifecycle.assignProcessJob
      split
      · exact changes_of_supervisor (ne_stopped_of here nofun) (fun _ => id) (.inl rfl) (.inl rfl)
          rfl rfl (List.subset_append_right _ _) rfl
      · exact changes_of_supervisor (ne_stopped_of here nofun) (fun _ => id) (.inl rfl) (.inl rfl)
          rfl rfl (List.Subset.refl _) rfl
    · split at stepped
      · obtain rfl := Except.ok.inj stepped
        exact changes_of_supervisor (ne_stopped_of here nofun) (fun _ => id) (.inl rfl) (.inl rfl)
          rfl rfl (List.Subset.refl _) rfl
      · cases stepped

theorem receive_changes {event : CommandEvent} (stepped : lifecycle.receive event = .ok next) :
    lifecycle.Changes (.receive event) next := by
  unfold receive at stepped
  split at stepped
  case h_2 => cases stepped
  case h_1 child here =>
    split at stepped
    · split at stepped
      · obtain rfl := Except.ok.inj stepped
        exact changes_of_supervisor (ne_stopped_of here nofun) (fun _ => id) (.inl rfl) (.inl rfl)
          rfl rfl (List.Subset.refl _) rfl
      · cases stepped
    · obtain rfl := Except.ok.inj stepped
      exact changes_of_supervisor (ne_stopped_of here nofun) (fun _ => id) (.inl rfl) (.inl rfl) rfl rfl
        (List.Subset.refl _) rfl

/-- An access of another thread than the supervisor. -/
theorem changes_of_other (supervisor : next.supervisor = lifecycle.supervisor)
    (spawned : next.spawned = lifecycle.spawned)
    (forced : ∀ caller, (lifecycle.forced caller).hasTaken = true →
      (next.forced caller).hasTaken = true)
    (monitors : ∀ child, next.monitors child = .setReady →
      lifecycle.monitors child = .setReady ∨ action = .probe child true)
    (child : next.child = lifecycle.child ∨ lifecycle.Takes action)
    (phase : next.phase = lifecycle.phase ∨ next.phase = .failed ∨
      ∃ child, lifecycle.SetsReady action child)
    (observed : next.exit.observed = true →
      lifecycle.exit.observed = true ∨ lifecycle.LooksAtStopped action)
    (killed : lifecycle.killed ⊆ next.killed)
    (terminated : lifecycle.terminated ⊆ next.terminated) :
    lifecycle.Changes action next :=
  ⟨monitors, child.imp id .inl, phase.imp id (.imp id .inr), observed,
    fun stopped => ⟨supervisor.trans stopped, spawned⟩, forced,
    fun _ gone => gone.mono killed terminated⟩

variable {child : CommandChild}

theorem monitor_changes (stepped : lifecycle.monitor child = .ok next) :
    lifecycle.Changes (.monitor child) next := by
  have moved : ∀ {point : MonitorPoint}, point ≠ .setReady → ∀ watched,
      Function.update lifecycle.monitors child point watched = .setReady →
        lifecycle.monitors watched = .setReady ∨ LifecycleAction.monitor child = .probe watched true :=
    fun other watched ready => .inl (setReady_of_update other ready)
  unfold monitor at stepped
  split at stepped
  case h_1 here =>
    obtain rfl := Except.ok.inj stepped
    exact changes_of_other rfl rfl (fun _ => id) (moved nofun) (.inl rfl) (.inr (.inr ⟨child, rfl, here⟩)) .inl
      (List.Subset.refl _) (List.Subset.refl _)
  case h_2 here =>
    obtain rfl := Except.ok.inj stepped
    refine changes_of_other rfl rfl (fun _ => id) (moved ?_) (.inl rfl) (.inl rfl) .inl
      (List.Subset.refl _) (List.Subset.refl _)
    split
    · nofun
    · nofun
  case h_3 here =>
    obtain rfl := Except.ok.inj stepped
    refine changes_of_other rfl rfl (fun _ => id) (moved ?_) (.inl rfl) (.inl rfl) .inl
      (List.Subset.refl _) (List.Subset.refl _)
    split
    · nofun
    · nofun
  case h_4 here =>
    split at stepped
    · cases stepped
    · split at stepped
      · rename_i taken slot
        split at stepped
        · rename_i same
          obtain rfl := Except.ok.inj stepped
          exact changes_of_other rfl rfl (fun _ => id) (moved nofun) (.inr ⟨here, taken, slot, same⟩) (.inl rfl)
            .inl (List.Subset.refl _) (List.Subset.refl _)
        · obtain rfl := Except.ok.inj stepped
          exact changes_of_other rfl rfl (fun _ => id) (moved nofun) (.inl rfl) (.inl rfl) .inl
            (List.Subset.refl _) (List.Subset.refl _)
      · obtain rfl := Except.ok.inj stepped
        exact changes_of_other rfl rfl (fun _ => id) (moved nofun) (.inl rfl) (.inl rfl) .inl
          (List.Subset.refl _) (List.Subset.refl _)
  case h_5 taken here =>
    obtain rfl := Except.ok.inj stepped
    exact changes_of_other rfl rfl (fun _ => id) (moved nofun) (.inl rfl) (.inr (.inl rfl)) .inl
      (List.Subset.refl _) (List.Subset.refl _)
  case h_6 taken here =>
    obtain rfl := Except.ok.inj stepped
    exact changes_of_other rfl rfl (fun _ => id) (moved nofun) (.inl rfl) (.inl rfl) .inl
      (List.subset_append_right _ _) (List.Subset.refl _)
  case h_7 taken here =>
    obtain rfl := Except.ok.inj stepped
    exact changes_of_other rfl rfl (fun _ => id) (moved nofun) (.inl rfl) (.inl rfl) .inl
      (List.subset_cons_self _ _) (List.Subset.refl _)
  case h_8 => cases stepped

theorem monitorDeadline_changes {expired : Bool}
    (stepped : lifecycle.monitorDeadline child expired = .ok next) :
    lifecycle.Changes (.monitorDeadline child expired) next := by
  unfold monitorDeadline at stepped
  split at stepped
  case h_1 here =>
    obtain rfl := Except.ok.inj stepped
    refine changes_of_other rfl rfl (fun _ => id) (fun watched ready => .inl (setReady_of_update ?_ ready))
      (.inl rfl) (.inl rfl) .inl (List.Subset.refl _) (List.Subset.refl _)
    split
    · nofun
    · nofun
  case h_2 => cases stepped

theorem probe_changes {ready : Bool} (stepped : lifecycle.probe child ready = .ok next) :
    lifecycle.Changes (.probe child ready) next := by
  unfold probe at stepped
  split at stepped
  case h_1 here =>
    obtain rfl := Except.ok.inj stepped
    refine changes_of_other rfl rfl (fun _ => id) (fun watched announces => ?_) (.inl rfl) (.inl rfl) .inl
      (List.Subset.refl _) (List.Subset.refl _)
    cases ready with
    | false =>
      have quiet : MonitorPoint.checkDeadline ≠ .setReady := nofun
      exact .inl (setReady_of_update quiet announces)
    | true =>
      by_cases same : watched = child
      · rw [same]
        exact .inr rfl
      · unfold BackendLifecycle.atMonitor at announces
        dsimp only at announces
        rw [Function.update_of_ne same] at announces
        exact .inl announces
  case h_2 => cases stepped

variable {caller : ForcedCaller}

/-- A call of `force_shutdown` moves, and has taken the child if it had. -/
theorem taken_of_update {point : ForcedPoint}
    (still : (lifecycle.forced caller).hasTaken = true → point.hasTaken = true) :
    ∀ other, (lifecycle.forced other).hasTaken = true →
      (Function.update lifecycle.forced caller point other).hasTaken = true := by
  intro other taken
  by_cases same : other = caller
  · rw [same, Function.update_self]
    exact still (same ▸ taken)
  · rw [Function.update_of_ne same]
    exact taken

theorem forceShutdown_changes
    (stepped : lifecycle.forceShutdown caller = .ok next) : lifecycle.Changes action next := by
  unfold forceShutdown at stepped
  split at stepped
  case h_1 here =>
    obtain rfl := Except.ok.inj stepped
    exact changes_of_other rfl rfl (taken_of_update (by rw [here]; decide)) (fun _ => .inl) (.inl rfl) (.inl rfl) .inl
      (List.Subset.refl _) (List.Subset.refl _)
  case h_2 => cases stepped

theorem forceNext_changes (stepped : lifecycle.forceNext caller = .ok next) :
    lifecycle.Changes (.forced caller) next := by
  unfold forceNext at stepped
  split at stepped
  case h_1 here =>
    split at stepped
    · cases stepped
    · obtain rfl := Except.ok.inj stepped
      exact changes_of_other rfl rfl (taken_of_update fun _ => rfl) (fun _ => .inl) (.inr here) (.inl rfl) .inl
        (List.Subset.refl _) (List.Subset.refl _)
  case h_2 taken here =>
    obtain rfl := Except.ok.inj stepped
    refine changes_of_other rfl rfl (taken_of_update fun _ => ?_) (fun _ => .inl) (.inl rfl) (.inl rfl) .inl
      (List.subset_append_right _ _) (List.Subset.refl _)
    split
    · rfl
    · rfl
  case h_3 taken here =>
    obtain rfl := Except.ok.inj stepped
    exact changes_of_other rfl rfl (taken_of_update fun _ => rfl) (fun _ => .inl) (.inl rfl) (.inl rfl) .inl
      (List.subset_cons_self _ _) (List.Subset.refl _)
  case h_4 => cases stepped

/-- The exiting thread goes from one point to another. -/
theorem changes_of_exit {shuttingDown complete : Bool} {point : ExitPoint}
    (observed : point.observed = true →
      lifecycle.exit.observed = true ∨ lifecycle.LooksAtStopped action) :
    lifecycle.Changes action
      { lifecycle with
        shuttingDown := shuttingDown, shutdownComplete := complete, exit := point } :=
  changes_of_other rfl rfl (fun _ => id) (fun _ => .inl) (.inl rfl) (.inl rfl) observed
    (List.Subset.refl _) (List.Subset.refl _)

theorem exitNext_changes (stepped : lifecycle.exitNext = .ok next) :
    lifecycle.Changes .exit next := by
  unfold exitNext at stepped
  split at stepped
  case h_1 requested here =>
    split at stepped
    · cases stepped
    · obtain rfl := Except.ok.inj stepped
      refine changes_of_exit fun seen => ?_
      split at seen
      · cases seen
      · cases seen
  case h_2 requested here =>
    obtain rfl := Except.ok.inj stepped
    refine changes_of_exit fun seen => ?_
    split at seen
    · cases seen
    · rename_i stopped
      exact .inr ⟨rfl, ⟨requested, here⟩, (Bool.not_eq_true _).mp stopped⟩
  case h_3 here =>
    obtain rfl := Except.ok.inj stepped
    exact changes_of_exit fun _ => .inl (by rw [here]; rfl)
  case h_4 requested here =>
    split at stepped
    · cases stepped
    · obtain rfl := Except.ok.inj stepped
      refine changes_of_exit fun seen => ?_
      split at seen
      · cases seen
      · cases seen
  case h_5 here =>
    obtain ⟨forcing, forced, rest⟩ := bind_ok_iff.mp stepped
    obtain rfl := Except.ok.inj rest
    have changes : lifecycle.Changes .exit forcing := forceShutdown_changes forced
    exact ⟨changes.monitors, changes.child, changes.phase, nofun, changes.stopped, changes.forced,
      changes.gone⟩
  case h_6 here =>
    split at stepped
    · obtain rfl := Except.ok.inj stepped
      exact changes_of_exit nofun
    · cases stepped
  case h_7 here =>
    obtain rfl := Except.ok.inj stepped
    exact changes_of_exit nofun
  case h_8 => cases stepped

theorem exitDeadline_changes {expired : Bool}
    (stepped : lifecycle.exitDeadline expired = .ok next) :
    lifecycle.Changes (.exitDeadline expired) next := by
  unfold exitDeadline at stepped
  split at stepped
  case h_1 requested here =>
    obtain rfl := Except.ok.inj stepped
    refine changes_of_exit fun seen => ?_
    split at seen
    · cases seen
    · cases seen
  case h_2 here =>
    obtain rfl := Except.ok.inj stepped
    refine changes_of_exit fun seen => ?_
    split at seen
    · cases seen
    · cases seen
  case h_3 => cases stepped

theorem requestShutdown_changes {accepted : Bool}
    (stepped : lifecycle.requestShutdown accepted = .ok next) :
    lifecycle.Changes (.requestShutdown accepted) next := by
  unfold requestShutdown at stepped
  split at stepped
  case h_1 here =>
    obtain rfl := Except.ok.inj stepped
    exact changes_of_exit nofun
  case h_2 => cases stepped

theorem terminate_changes (stepped : lifecycle.terminate child = .ok next) :
    lifecycle.Changes (.terminate child) next := by
  unfold terminate at stepped
  split at stepped
  · obtain rfl := Except.ok.inj stepped
    exact changes_of_other rfl rfl (fun _ => id) (fun _ => .inl) (.inl rfl) (.inl rfl) .inl
      (List.Subset.refl _) (List.subset_cons_self _ _)
  · cases stepped

theorem startGracefulExit_changes :
    lifecycle.Changes .startGracefulExit lifecycle.startGracefulExit := by
  refine changes_of_exit fun seen => ?_
  split at seen
  · exact .inl seen
  · cases seen

theorem step_changes {windows : Bool}
    (stepped : lifecycle.step windows action = .ok next) : lifecycle.Changes action next := by
  cases action with
  | supervise => exact supervise_changes stepped
  | findDirectory found => exact findDirectory_changes stepped
  | spawn processId => exact spawn_changes stepped
  | assignJob assigned => exact assignJob_changes stepped
  | receive event => exact receive_changes stepped
  | monitor child => exact monitor_changes stepped
  | monitorDeadline child expired => exact monitorDeadline_changes stepped
  | probe child ready => exact probe_changes stepped
  | startGracefulExit =>
    obtain rfl := Except.ok.inj stepped
    exact startGracefulExit_changes
  | exit => exact exitNext_changes stepped
  | exitDeadline expired => exact exitDeadline_changes stepped
  | requestShutdown accepted => exact requestShutdown_changes stepped
  | forceShutdown call => exact forceShutdown_changes stepped
  | forced caller => exact forceNext_changes stepped
  | terminate child => exact terminate_changes stepped

end

/-! ### In time -/

/-- The answer of a probe is of the child in the slot, this child is not taken from the slot before
the answer is announced, and the exiting thread does not look at a supervisor that has
stopped while another thread has a child that it has taken and not killed. -/
structure InTime (lifecycle : BackendLifecycle) (action : LifecycleAction) : Prop where
  answered : ∀ child, action = .probe child true → lifecycle.child = some child
  announced : lifecycle.Takes action →
    ∀ child, lifecycle.child = some child → lifecycle.monitors child ≠ .setReady
  killed : lifecycle.LooksAtStopped action →
    ∀ child, lifecycle.Taken child → lifecycle.Gone child

/-- What the interleavings keep whose steps are in time. -/
structure Steady (lifecycle : BackendLifecycle) : Prop where
  sound : lifecycle.Sound
  watches : ∀ child, lifecycle.monitors child = .setReady → lifecycle.child = some child
  observed : lifecycle.exit.observed = true →
    lifecycle.supervisor = .stopped ∧ ∀ child ∈ lifecycle.spawned, lifecycle.Gone child

section

variable {lifecycle next : BackendLifecycle} {action : LifecycleAction}

/-- While a supervisor does not supervise, the slot is empty. -/
theorem Sound.empty (sound : lifecycle.Sound) {point : SupervisorPoint}
    (here : lifecycle.supervisor = point) (supervises : point.supervises = none) :
    lifecycle.child = none := by
  refine Option.eq_none_iff_forall_ne_some.mpr fun child slot => ?_
  have supervised := sound.slot child slot
  rw [here, supervises] at supervised
  cases supervised

/-- A supervisor that has stopped has no child, nor has the slot. -/
theorem Sound.gone_of_stopped (sound : lifecycle.Sound)
    (stopped : lifecycle.supervisor = .stopped)
    (killed : ∀ child, lifecycle.Taken child → lifecycle.Gone child) :
    ∀ child ∈ lifecycle.spawned, lifecycle.Gone child := by
  intro child member
  rcases sound.accounted child member with gone | held | slot | taken
  · exact gone
  · rw [stopped] at held
    cases held
  · rw [sound.empty stopped rfl] at slot
    cases slot
  · exact killed child taken

theorem Steady.step {windows : Bool} (steady : lifecycle.Steady) (inTime : lifecycle.InTime action)
    (stepped : lifecycle.step windows action = .ok next) : next.Steady := by
  have changes := step_changes stepped
  refine ⟨step_sound steady.sound stepped, fun child ready => ?_, fun seen => ?_⟩
  · rcases changes.child with same | takes | ⟨other, installs⟩
    · rw [same]
      rcases changes.monitors child ready with before | answered
      · exact steady.watches child before
      · exact inTime.answered child answered
    · rcases changes.monitors child ready with before | answered
      · exact absurd before (inTime.announced takes child (steady.watches child before))
      · rw [answered] at takes
        exact absurd takes id
    · have empty := steady.sound.empty installs rfl
      rcases changes.monitors child ready with before | answered
      · have slot := steady.watches child before
        rw [empty] at slot
        cases slot
      · have slot := inTime.answered child answered
        rw [empty] at slot
        cases slot
  · have before : lifecycle.supervisor = .stopped ∧
        ∀ child ∈ lifecycle.spawned, lifecycle.Gone child := by
      rcases changes.observed seen with already | looks
      · exact steady.observed already
      · have stopped := steady.sound.running looks.2.2
        exact ⟨stopped, steady.sound.gone_of_stopped stopped (inTime.killed looks)⟩
    obtain ⟨stopped, gone⟩ := before
    obtain ⟨stays, spawned⟩ := changes.stopped stopped
    refine ⟨stays, fun child member => changes.gone child (gone child ?_)⟩
    rw [← spawned]
    exact member

end

/-! ### The contract -/

/-- What a state of the lifecycle promises, to the steps and the runs that meet a condition. -/
structure Contract (windows : Bool) (meets : BackendLifecycle → LifecycleAction → Prop)
    (lifecycle : BackendLifecycle) : Prop where
  /-- The restarts are bounded. -/
  spawns : lifecycle.spawnAttempts ≤ 1 + maxRestarts
  /-- A supervisor that gave up has failed for good. -/
  failed : lifecycle.supervisor = .stopped → lifecycle.phase = .failed →
    ∀ later, (backendLifecycle windows).LaterWhen meets lifecycle later → later.phase ≠ .ready
  /-- Only a monitor makes the phase ready. -/
  announces : ∀ action next, meets lifecycle action →
    lifecycle.step windows action = .ok next → next.phase = .ready →
      lifecycle.phase = .ready ∨ ∃ child, lifecycle.SetsReady action child
  /-- A monitor that does so does it for the child that is supervised. -/
  ready : ∀ action child, meets lifecycle action → lifecycle.SetsReady action child →
    lifecycle.child = some child ∧ lifecycle.supervisor.supervises = some child
  /-- No child is installed after a forced shutdown has looked at the slot. -/
  forced : ∀ caller, (lifecycle.forced caller).hasTaken = true →
    ∀ later, (backendLifecycle windows).LaterWhen meets lifecycle later → later.child = none
  /-- A graceful exit that observes completion leaves no child behind. -/
  observed : lifecycle.exit.observed = true →
    ∀ child ∈ lifecycle.spawned, lifecycle.Gone child

end BackendLifecycle

section

variable {windows : Bool} {lifecycle : BackendLifecycle}

theorem backendLifecycle_steady
    (reached : (backendLifecycle windows).ReachableWhen BackendLifecycle.InTime lifecycle) :
    lifecycle.Steady := by
  refine reached.invariant BackendLifecycle.Steady ?_ ?_
  · rintro first rfl
    exact ⟨BackendLifecycle.new_sound, nofun, nofun⟩
  · exact fun before action after steady inTime stepped => steady.step inTime stepped

/-- No child is installed after a forced shutdown has looked at the slot. -/
theorem backendLifecycle_forced {meets : BackendLifecycle → LifecycleAction → Prop}
    {later : BackendLifecycle} (reached : (backendLifecycle windows).Reachable lifecycle)
    (caller : ForcedCaller) (taken : (lifecycle.forced caller).hasTaken = true)
    (after : (backendLifecycle windows).LaterWhen meets lifecycle later) : later.child = none := by
  have sound : later.Sound ∧ (later.forced caller).hasTaken = true := by
    induction after with
    | here => exact ⟨backendLifecycle_sound reached, taken⟩
    | step _ _ committed inductionHypothesis =>
      obtain ⟨sound, taken⟩ := inductionHypothesis
      exact ⟨BackendLifecycle.step_sound sound committed,
        (BackendLifecycle.step_changes committed).forced caller taken⟩
  exact (sound.1.emptied caller sound.2).2.1

/-- The restarts are bounded in every interleaving. -/
theorem BackendLifecycle.Sound.spawns (sound : lifecycle.Sound) :
    lifecycle.spawnAttempts ≤ 1 + maxRestarts := by
  have budget := sound.budget
  have bounded := sound.bounded
  have once : lifecycle.supervisor.attempts ≤ 1 := by
    unfold SupervisorPoint.attempts
    split
    all_goals decide
  omega

/-- Where every announcement is in time, a supervisor that gave up has failed for good. -/
theorem backendLifecycle_failed {later : BackendLifecycle}
    (reached : (backendLifecycle windows).ReachableWhen BackendLifecycle.InTime lifecycle)
    (stopped : lifecycle.supervisor = .stopped) (failed : lifecycle.phase = .failed)
    (after : (backendLifecycle windows).LaterWhen BackendLifecycle.InTime lifecycle later) :
    later.phase ≠ .ready := by
  have still : later.supervisor = .stopped ∧ later.phase = .failed := by
    refine Machine.LaterWhen.invariant
      (fun state => state.supervisor = .stopped ∧ state.phase = .failed) reached
      ⟨stopped, failed⟩ ?_ after
    rintro before action next reached ⟨stopped, failed⟩ inTime stepped
    have steady := backendLifecycle_steady reached
    have changes := BackendLifecycle.step_changes stepped
    refine ⟨(changes.stopped stopped).1, ?_⟩
    rcases changes.phase with same | failed | ⟨-, goesOn⟩ | ⟨child, -, ready⟩
    · exact same.trans failed
    · exact failed
    · exact absurd stopped goesOn
    · have slot := steady.watches child ready
      rw [steady.sound.empty stopped rfl] at slot
      cases slot
  rw [still.2]
  decide

/-- In every run whose announcements are in time, the lifecycle keeps its contract in every state
it reaches; the bound of the restarts and the empty slot after a forced shutdown need no
condition. -/
theorem backendLifecycle_safe :
    (∀ lifecycle, (backendLifecycle windows).Reachable lifecycle →
      lifecycle.spawnAttempts ≤ 1 + maxRestarts ∧
        ∀ caller, (lifecycle.forced caller).hasTaken = true →
          ∀ later, (backendLifecycle windows).Later lifecycle later → later.child = none) ∧
      ∀ lifecycle, (backendLifecycle windows).ReachableWhen BackendLifecycle.InTime lifecycle →
        lifecycle.Contract windows BackendLifecycle.InTime := by
  refine ⟨fun lifecycle reached => ⟨(backendLifecycle_sound reached).spawns,
    fun caller taken later after => backendLifecycle_forced reached caller taken after⟩,
    fun lifecycle reached => ?_⟩
  have steady := backendLifecycle_steady reached
  refine ⟨steady.sound.spawns, fun stopped failed later after =>
      backendLifecycle_failed reached stopped failed after, fun action next _ stepped ready => ?_,
    fun action child _ sets => ?_, fun caller taken later after =>
      backendLifecycle_forced reached.reachable caller taken after,
    fun seen => (steady.observed seen).2⟩
  · rcases (BackendLifecycle.step_changes stepped).phase with same | failed | ⟨other, -⟩ | sets
    · exact .inl (same ▸ ready)
    · rw [failed] at ready
      cases ready
    · exact absurd ready other
    · exact .inr sets
  · have slot := steady.watches child sets.2
    exact ⟨slot, steady.sound.slot child slot⟩

end

/-! ### A backend that is announced after its end -/

section

/-- The first child, after two spawns that failed. -/
def thirdChild : CommandChild := ⟨2, 41⟩

/-- A round of the supervisor whose spawn fails. -/
def failedSpawn : List LifecycleAction :=
  [.supervise, .supervise, .findDirectory true, .spawn none, .supervise]

/-- The supervisor starts the child and its monitor, and the child answers the probe. -/
def answeredProbe : List LifecycleAction :=
  [.supervise, .supervise, .findDirectory true, .spawn (some 41), .assignJob true, .supervise,
    .supervise, .supervise, .supervise, .monitorDeadline thirdChild false, .probe thirdChild true]

/-- The child crashes, and the supervisor gives up. -/
def crash : List LifecycleAction :=
  [.terminate thirdChild, .receive .terminated, .supervise, .supervise, .supervise, .supervise,
    .supervise, .supervise]

def gaveUp : List LifecycleAction := failedSpawn ++ failedSpawn ++ answeredProbe ++ crash

/-- A step that is in time whatever the monitors do: nothing is taken from the slot, and the
answer of a probe is of the child in the slot. -/
def BackendLifecycle.quiet (lifecycle : BackendLifecycle) : LifecycleAction → Bool
  | .supervise =>
    match lifecycle.supervisor with
    | .takeChild _ _ => false
    | _ => true
  | .probe child _ => lifecycle.child == some child
  | .monitor child => lifecycle.monitors child != .takeChild
  | .exit | .forced _ => false
  | _ => true

theorem BackendLifecycle.inTime_of_quiet (lifecycle : BackendLifecycle) (action : LifecycleAction)
    (quiet : lifecycle.quiet action = true) : lifecycle.InTime action := by
  refine ⟨?_, fun takes => ?_, ?_⟩
  · rintro child rfl
    exact beq_iff_eq.mp quiet
  · unfold BackendLifecycle.Takes at takes
    unfold BackendLifecycle.quiet at quiet
    split at takes
    · obtain ⟨child, terminated, here⟩ := takes
      dsimp only at quiet
      rw [here] at quiet
      cases quiet
    · exact absurd takes.1 (bne_iff_ne.mp quiet)
    · cases quiet
    · exact absurd takes id
  · rintro ⟨rfl, -⟩
    cases quiet

theorem quiet_answered :
    (((backendLifecycle false).checkedRun BackendLifecycle.quiet .new
      (failedSpawn ++ failedSpawn ++ answeredProbe ++ [.monitor thirdChild])).map fun last =>
        (last.phase, last.child)) = some (.ready, some thirdChild) := by
  decide +kernel

/-- A run that is in time, at the end of which the backend is ready. -/
theorem backendLifecycle_safe_ready : ∃ lifecycle : BackendLifecycle,
    lifecycle.phase = .ready ∧ lifecycle.child = some thirdChild ∧
      lifecycle.Contract false BackendLifecycle.InTime := by
  obtain ⟨lifecycle, ran, observed⟩ := Option.map_eq_some_iff.mp quiet_answered
  obtain ⟨ready, child⟩ := Prod.mk.inj observed
  have reached : (backendLifecycle false).ReachableWhen BackendLifecycle.InTime lifecycle :=
    Machine.ReachableWhen.checkedRun (.initial rfl) BackendLifecycle.inTime_of_quiet ran
  exact ⟨lifecycle, ready, child, backendLifecycle_safe.2 lifecycle reached⟩

theorem gaveUp_ready :
    (((backendLifecycle false).run .new gaveUp).toOption.map fun last =>
      (last.supervisor, last.phase, last.child,
        (last.step false (.monitor thirdChild)).toOption.map BackendLifecycle.phase)) =
      some (.stopped, .failed, none, some .ready) := by
  decide +kernel

/-- The monitor of a child that has crashed announces readiness, after the supervisor has given
up: the phase goes from failed to ready. -/
theorem backendLifecycle_announces_late :
    ¬∀ lifecycle : BackendLifecycle, (backendLifecycle false).Reachable lifecycle →
      lifecycle.Contract false fun _ _ => True := by
  intro claimed
  obtain ⟨lifecycle, ran, observed⟩ := Machine.run_ok_of_observed gaveUp_ready
  rw [Prod.mk.injEq, Prod.mk.injEq, Prod.mk.injEq, Option.map_eq_some_iff] at observed
  obtain ⟨stopped, failed, -, next, announced, ready⟩ := observed
  have reached : (backendLifecycle false).Reachable lifecycle :=
    Machine.Reachable.run (.initial rfl) ran
  have committed : (backendLifecycle false).step lifecycle (.monitor thirdChild) = .ok next := by
    cases outcome : lifecycle.step false (.monitor thirdChild) with
    | error refusal =>
      rw [outcome] at announced
      cases announced
    | ok last =>
      rw [outcome] at announced
      obtain rfl := Option.some.inj announced
      exact outcome
  exact (claimed lifecycle reached).failed stopped failed next (.step .here trivial committed) ready

end

end CareerOS
