/-
This file proves what holds of the desktop lifecycle in every interleaving. A child that
was spawned is always in somebody's hands: the supervisor's, the slot's, or those of the
thread that took it from the slot, until it was killed or its process ended. What a
thread holds is read off its point, so an access is checked against the other threads by
their points alone.
-/

import CareerOS.Desktop.BackendLifecycle
import CareerOS.Library.Outcome

namespace CareerOS

/-! ### What a point holds -/

namespace SupervisorPoint

/-- The child of the loop while the slot may hold it. -/
def supervises : SupervisorPoint → Option CommandChild
  | .setWaiting child | .startMonitor child | .receive child | .takeChild child _ => some child
  | _ => none

/-- The child in the supervisor's own hands. -/
def held : SupervisorPoint → Option CommandChild
  | .assignJob child | .killUnassigned child | .lockChild child | .installChild child
  | .releaseLate child | .killLate child | .killTaken child => some child
  | .releaseJob taken terminated => if terminated then none else taken
  | _ => none

/-- The child of which a termination was received. -/
def ended : SupervisorPoint → Option CommandChild
  | .takeChild child true => some child
  | _ => none

/-- The child whose monitor is still to be started, if it ever is. -/
def unwatched : SupervisorPoint → Option CommandChild
  | .assignJob child | .killUnassigned child | .lockChild child | .installChild child
  | .releaseLate child | .killLate child | .setWaiting child | .startMonitor child => some child
  | _ => none

/-- The spawn of this round, once it was attempted. -/
def attempts : SupervisorPoint → Nat
  | .readShuttingDown | .setSpawning | .findDirectory | .spawn => 0
  | _ => 1

end SupervisorPoint

/-- The child that a monitor has taken and not yet killed. -/
def MonitorPoint.held : MonitorPoint → Option CommandChild
  | .setFailed taken | .releaseJob taken | .killTaken taken => some taken
  | _ => none

namespace ForcedPoint

/-- The child that a forced shutdown has taken and not yet killed. -/
def held : ForcedPoint → Option CommandChild
  | .releaseJob taken => taken
  | .killTaken taken => some taken
  | _ => none

/-- The slot was emptied. -/
def hasTaken : ForcedPoint → Bool
  | .notCalled | .takeChild => false
  | _ => true

end ForcedPoint

/-- The exiting thread has seen neither a child nor a supervisor. -/
def ExitPoint.observed : ExitPoint → Bool
  | .markObserved | .exited true => true
  | _ => false

namespace BackendLifecycle

/-- The child was killed, or its process ended. -/
def Gone (lifecycle : BackendLifecycle) (child : CommandChild) : Prop :=
  child ∈ lifecycle.killed ∨ child ∈ lifecycle.terminated

/-- A monitor or a forced shutdown has taken the child from the slot, to kill it. -/
def Taken (lifecycle : BackendLifecycle) (child : CommandChild) : Prop :=
  (∃ watched, (lifecycle.monitors watched).held = some child) ∨
    ∃ caller, (lifecycle.forced caller).held = some child

/-- Somebody has the child. -/
def Kept (lifecycle : BackendLifecycle) (child : CommandChild) : Prop :=
  lifecycle.supervisor.held = some child ∨ lifecycle.child = some child ∨ lifecycle.Taken child

/-- What holds in every interleaving. -/
structure Sound (lifecycle : BackendLifecycle) : Prop where
  budget : lifecycle.spawnAttempts ≤
    lifecycle.restartPolicy.attempts + lifecycle.supervisor.attempts
  bounded : lifecycle.restartPolicy.attempts ≤ maxRestarts
  maximum : lifecycle.restartPolicy.maximum = maxRestarts
  slot : ∀ child, lifecycle.child = some child → lifecycle.supervisor.supervises = some child
  ended : ∀ child, lifecycle.supervisor.ended = some child → child ∈ lifecycle.terminated
  running : lifecycle.supervisorRunning = false → lifecycle.supervisor = .stopped
  emptied : ∀ caller, (lifecycle.forced caller).hasTaken = true →
    lifecycle.shuttingDown = true ∧ lifecycle.child = none ∧ lifecycle.childLocked = false
  called : ∀ caller, lifecycle.forced caller ≠ .notCalled → lifecycle.shuttingDown = true
  unwatched : ∀ child, lifecycle.supervisor.unwatched = some child →
    lifecycle.monitors child = .notStarted ∧ child.number < lifecycle.spawnAttempts
  watched : ∀ child, lifecycle.monitors child ≠ .notStarted →
    child.number < lifecycle.spawnAttempts
  accounted : ∀ child ∈ lifecycle.spawned, lifecycle.Gone child ∨ lifecycle.Kept child

/-! ### One access at a time -/

section

variable {lifecycle next : BackendLifecycle} {child : CommandChild}

theorem Gone.mono (gone : lifecycle.Gone child) (killed : lifecycle.killed ⊆ next.killed)
    (terminated : lifecycle.terminated ⊆ next.terminated) : next.Gone child := by
  rcases gone with member | member
  · exact .inl (killed member)
  · exact .inr (terminated member)

theorem childLocked_eq_false_of {lifecycle : BackendLifecycle}
    (elsewhere : ∀ child, lifecycle.supervisor ≠ .installChild child) :
    lifecycle.childLocked = false := by
  unfold childLocked
  split
  · rename_i child here
    exact absurd here (elsewhere child)
  · rfl

/-- More children are gone, and nothing else has changed but the phase and the job. -/
theorem Sound.of_gone (sound : lifecycle.Sound)
    (same : next = { lifecycle with
      phase := next.phase, processJob := next.processJob, killed := next.killed,
      terminated := next.terminated })
    (killed : lifecycle.killed ⊆ next.killed)
    (terminated : lifecycle.terminated ⊆ next.terminated) : next.Sound := by
  rw [same]
  refine ⟨sound.budget, sound.bounded, sound.maximum, sound.slot,
    fun child ended => terminated (sound.ended child ended), sound.running, sound.emptied,
    sound.called, sound.unwatched, sound.watched, fun child member => ?_⟩
  rcases sound.accounted child member with gone | kept
  · exact .inl (Gone.mono gone killed terminated)
  · exact .inr kept

theorem Sound.setPhase (sound : lifecycle.Sound) (phase : BackendPhase) :
    (lifecycle.setPhase phase).Sound :=
  sound.of_gone rfl (List.Subset.refl _) (List.Subset.refl _)

theorem Sound.kill (sound : lifecycle.Sound) (child : CommandChild) :
    (lifecycle.kill child).Sound :=
  sound.of_gone rfl (List.subset_cons_self _ _) (List.Subset.refl _)

theorem Sound.releaseProcessJob (sound : lifecycle.Sound) :
    lifecycle.releaseProcessJob.Sound :=
  sound.of_gone rfl (List.subset_append_right _ _) (List.Subset.refl _)

theorem Sound.assignProcessJob (sound : lifecycle.Sound) (windows : Bool)
    (child : CommandChild) : (lifecycle.assignProcessJob windows child).Sound := by
  unfold BackendLifecycle.assignProcessJob
  split
  · exact sound.of_gone rfl (List.subset_append_right _ _) (List.Subset.refl _)
  · exact sound

/-! ### The supervisor -/

/-- What the supervisor must not lose on its way from one point to another. -/
structure Leads (lifecycle : BackendLifecycle) (before after : SupervisorPoint) : Prop where
  attempts : before.attempts ≤ after.attempts
  supervises : ∀ child, before.supervises = some child → after.supervises = some child
  held : ∀ child, before.held = some child → lifecycle.Gone child ∨ after.held = some child
  ended : ∀ child, after.ended = some child → child ∈ lifecycle.terminated
  unwatched : ∀ child, after.unwatched = some child → before.unwatched = some child
  goesOn : before ≠ .stopped
  locks : ∀ child, after = .installChild child → lifecycle.shuttingDown = false

theorem Sound.move {before after : SupervisorPoint} (sound : lifecycle.Sound)
    (here : lifecycle.supervisor = before) (leads : lifecycle.Leads before after) :
    { lifecycle with supervisor := after }.Sound := by
  subst here
  refine ⟨Nat.le_trans sound.budget (Nat.add_le_add_left leads.attempts _), sound.bounded, sound.maximum,
    fun child slot => leads.supervises child (sound.slot child slot), leads.ended,
    fun halted => absurd (sound.running halted) leads.goesOn, fun caller taken => ?_,
    sound.called, fun child unwatched => sound.unwatched child (leads.unwatched child unwatched),
    sound.watched, fun child member => ?_⟩
  · obtain ⟨shuttingDown, empty, -⟩ := sound.emptied caller taken
    refine ⟨shuttingDown, empty, childLocked_eq_false_of fun child arrives => ?_⟩
    have running := leads.locks child arrives
    rw [shuttingDown] at running
    cases running
  · rcases sound.accounted child member with gone | held | others
    · exact .inl gone
    · exact (leads.held child held).imp id .inl
    · exact .inr (.inr others)

/-- A point that holds nothing leads to one that promises nothing. -/
theorem Leads.free {before after : SupervisorPoint} (attempts : before.attempts ≤ after.attempts)
    (supervises : before.supervises = none) (held : before.held = none)
    (ended : after.ended = none) (unwatched : after.unwatched = none) (goesOn : before ≠ .stopped) :
    lifecycle.Leads before after := by
  refine ⟨attempts, fun child other => ?_, fun child other => ?_, fun child other => ?_,
    fun child other => ?_, goesOn, fun child arrives => ?_⟩
  · rw [supervises] at other
    cases other
  · rw [held] at other
    cases other
  · rw [ended] at other
    cases other
  · rw [unwatched] at other
    cases other
  · rw [arrives] at unwatched
    cases unwatched

theorem registerFailure_cases (policy : RestartPolicy) :
    policy.registerFailure = (false, policy) ∨
      (policy.registerFailure = (true, { policy with attempts := policy.attempts + 1 }) ∧
        policy.attempts < policy.maximum) := by
  unfold RestartPolicy.registerFailure
  by_cases spent : policy.maximum ≤ policy.attempts
  · exact .inl (if_pos spent)
  · exact .inr ⟨if_neg spent, Nat.lt_of_not_le spent⟩

/-- A failure is counted before the next round. -/
theorem Sound.canRestart {before : SupervisorPoint} (sound : lifecycle.Sound)
    (here : lifecycle.supervisor = before) (attempts : before.attempts = 1)
    (supervises : before.supervises = none) (held : before.held = none)
    (goesOn : before ≠ .stopped) : lifecycle.canRestart.Sound := by
  have free : lifecycle.Leads before .setFailed :=
    .free (Nat.le_of_eq attempts) supervises held rfl rfl goesOn
  have failed := sound.move here free
  rcases registerFailure_cases lifecycle.restartPolicy with refused | ⟨allowed, room⟩
  · have same : lifecycle.canRestart = { lifecycle with supervisor := .setFailed } := by
      unfold BackendLifecycle.canRestart
      rw [refused]
      rfl
    rw [same]
    exact failed
  · have same : lifecycle.canRestart = { lifecycle with
        restartPolicy :=
          { lifecycle.restartPolicy with attempts := lifecycle.restartPolicy.attempts + 1 }
        supervisor := .readShuttingDown } := by
      unfold BackendLifecycle.canRestart
      rw [allowed]
      rfl
    have budget := sound.budget
    rw [here, attempts] at budget
    rw [sound.maximum] at room
    rw [same]
    exact ⟨budget, room, sound.maximum, failed.slot, nofun,
      fun halted => absurd (failed.running halted) nofun, failed.emptied, failed.called, nofun,
      failed.watched, failed.accounted⟩

/-- The child goes from the supervisor's hands into the slot, which was empty. -/
theorem Sound.installChild (sound : lifecycle.Sound)
    (here : lifecycle.supervisor = .installChild child) :
    { lifecycle with child := some child, supervisor := .setWaiting child }.Sound := by
  refine ⟨?_, sound.bounded, sound.maximum, fun other same => same, nofun,
    fun halted => ?_, fun caller taken => ?_, sound.called, ?_, sound.watched,
    fun other member => ?_⟩
  · have budget := sound.budget
    rw [here] at budget
    exact budget
  · have stopped := sound.running halted
    rw [here] at stopped
    cases stopped
  · have unlocked := (sound.emptied caller taken).2.2
    unfold BackendLifecycle.childLocked at unlocked
    rw [here] at unlocked
    cases unlocked
  · have unwatched := sound.unwatched
    rw [here] at unwatched
    exact unwatched
  · rcases sound.accounted other member with gone | held | slot | taken
    · exact .inl gone
    · rw [here] at held
      exact .inr (.inr (.inl held))
    · have supervised := sound.slot other slot
      rw [here] at supervised
      cases supervised
    · exact .inr (.inr (.inr taken))

/-- The supervisor empties the slot; a child it does not keep has ended. -/
theorem Sound.takeChild {terminated : Bool} (sound : lifecycle.Sound)
    (here : lifecycle.supervisor = .takeChild child terminated) :
    { lifecycle with
      child := none, supervisor := .releaseJob lifecycle.child terminated }.Sound := by
  refine ⟨?_, sound.bounded, sound.maximum, nofun, nofun, fun halted => ?_, fun caller taken => ?_,
    sound.called, nofun, sound.watched, fun other member => ?_⟩
  · have budget := sound.budget
    rw [here] at budget
    exact budget
  · have stopped := sound.running halted
    rw [here] at stopped
    cases stopped
  · exact ⟨(sound.emptied caller taken).1, rfl, rfl⟩
  · rcases sound.accounted other member with gone | held | slot | taken
    · exact .inl gone
    · rw [here] at held
      cases held
    · have supervised := sound.slot other slot
      rw [here] at supervised
      obtain rfl := Option.some.inj supervised
      cases terminated with
      | false => exact .inr (.inl slot)
      | true => exact .inl (.inr (sound.ended child (by rw [here]; rfl)))
    · exact .inr (.inr (.inr taken))

/-- A monitor is at another point and holds what it held. -/
theorem Sound.atMonitor {point : MonitorPoint} (sound : lifecycle.Sound)
    (started : child.number < lifecycle.spawnAttempts)
    (other : lifecycle.supervisor.unwatched ≠ some child)
    (held : ∀ taken, (lifecycle.monitors child).held = some taken →
      lifecycle.Gone taken ∨ point.held = some taken) : (lifecycle.atMonitor child point).Sound := by
  refine ⟨sound.budget, sound.bounded, sound.maximum, sound.slot, sound.ended, sound.running,
    sound.emptied, sound.called, fun watched unwatched => ?_, fun watched begun => ?_, fun kept member => ?_⟩
  · have different : watched ≠ child := fun same => other (same ▸ unwatched)
    refine ⟨?_, (sound.unwatched watched unwatched).2⟩
    exact (Function.update_of_ne different _ _).trans (sound.unwatched watched unwatched).1
  · by_cases same : watched = child
    · rw [same]
      exact started
    · refine sound.watched watched ?_
      rw [← Function.update_of_ne same point lifecycle.monitors]
      exact begun
  · rcases sound.accounted kept member with gone | hand | slot | ⟨watched, taken⟩ | forced
    · exact .inl gone
    · exact .inr (.inl hand)
    · exact .inr (.inr (.inl slot))
    · by_cases same : watched = child
      · rw [same] at taken
        refine (held kept taken).imp id fun still => .inr (.inr (.inl ⟨child, ?_⟩))
        unfold BackendLifecycle.atMonitor
        dsimp only
        rw [Function.update_self]
        exact still
      · refine .inr (.inr (.inr (.inl ⟨watched, ?_⟩)))
        unfold BackendLifecycle.atMonitor
        dsimp only
        rw [Function.update_of_ne same]
        exact taken
    · exact .inr (.inr (.inr (.inr forced)))

theorem supervise_sound (sound : lifecycle.Sound) (stepped : lifecycle.supervise = .ok next) :
    next.Sound := by
  unfold supervise at stepped
  split at stepped
  case h_1 here =>
    obtain rfl := Except.ok.inj stepped
    split
    · exact sound.move here (.free (Nat.zero_le _) rfl rfl rfl rfl nofun)
    · exact sound.move here (.free (Nat.le_refl _) rfl rfl rfl rfl nofun)
  case h_2 here =>
    obtain rfl := Except.ok.inj stepped
    exact (sound.setPhase .spawning).move here (.free (Nat.le_refl _) rfl rfl rfl rfl nofun)
  case h_3 here =>
    obtain rfl := Except.ok.inj stepped
    exact sound.canRestart here rfl rfl rfl nofun
  case h_4 child here =>
    obtain rfl := Except.ok.inj stepped
    refine (sound.kill child).move here ⟨Nat.le_refl _, nofun, ?_, nofun, nofun, nofun, nofun⟩
    intro held same
    obtain rfl := Option.some.inj same
    exact .inl (.inl List.mem_cons_self)
  case h_5 here =>
    obtain rfl := Except.ok.inj stepped
    exact sound.releaseProcessJob.move here (.free (Nat.le_refl _) rfl rfl rfl rfl nofun)
  case h_6 child here =>
    obtain rfl := Except.ok.inj stepped
    split
    · exact sound.move here ⟨Nat.le_refl _, nofun, fun _ => .inr, nofun, fun _ => id, nofun, nofun⟩
    · rename_i running
      exact sound.move here ⟨Nat.le_refl _, nofun, fun _ => .inr, nofun, fun _ => id, nofun,
        fun _ _ => (Bool.not_eq_true _).mp running⟩
  case h_7 child here =>
    obtain rfl := Except.ok.inj stepped
    exact sound.installChild here
  case h_8 child here =>
    obtain rfl := Except.ok.inj stepped
    exact sound.releaseProcessJob.move here
      ⟨Nat.le_refl _, nofun, fun _ => .inr, nofun, fun _ => id, nofun, nofun⟩
  case h_9 child here =>
    obtain rfl := Except.ok.inj stepped
    refine (sound.kill child).move here ⟨Nat.le_refl _, nofun, ?_, nofun, nofun, nofun, nofun⟩
    intro held same
    obtain rfl := Option.some.inj same
    exact .inl (.inl List.mem_cons_self)
  case h_10 child here =>
    obtain rfl := Except.ok.inj stepped
    exact (sound.setPhase .waitingReady).move here
      ⟨Nat.le_refl _, fun _ => id, nofun, nofun, fun _ => id, nofun, nofun⟩
  case h_11 child here =>
    obtain rfl := Except.ok.inj stepped
    obtain ⟨unstarted, started⟩ := sound.unwatched child (by rw [here]; rfl)
    have leads : lifecycle.Leads (.startMonitor child) (.receive child) :=
      ⟨Nat.le_refl _, fun _ => id, nofun, nofun, nofun, nofun, nofun⟩
    have moved := sound.move here leads
    refine moved.atMonitor started nofun fun taken held => ?_
    dsimp only at held
    rw [unstarted] at held
    cases held
  case h_12 child terminated here =>
    obtain rfl := Except.ok.inj stepped
    exact sound.takeChild here
  case h_13 taken terminated here =>
    obtain rfl := Except.ok.inj stepped
    refine sound.releaseProcessJob.move here ?_
    cases terminated with
    | true => exact .free (Nat.le_refl _) rfl rfl rfl rfl nofun
    | false =>
      cases taken with
      | none => exact .free (Nat.le_refl _) rfl rfl rfl rfl nofun
      | some child =>
        exact ⟨Nat.le_refl _, nofun, fun _ => .inr, nofun, nofun, nofun, nofun⟩
  case h_14 child here =>
    obtain rfl := Except.ok.inj stepped
    refine (sound.kill child).move here ⟨Nat.le_refl _, nofun, ?_, nofun, nofun, nofun, nofun⟩
    intro held same
    obtain rfl := Option.some.inj same
    exact .inl (.inl List.mem_cons_self)
  case h_15 here =>
    obtain rfl := Except.ok.inj stepped
    split
    · exact sound.move here (.free (Nat.le_refl _) rfl rfl rfl rfl nofun)
    · exact sound.move here (.free (Nat.le_refl _) rfl rfl rfl rfl nofun)
  case h_16 here =>
    obtain rfl := Except.ok.inj stepped
    exact sound.canRestart here rfl rfl rfl nofun
  case h_17 here =>
    obtain rfl := Except.ok.inj stepped
    exact (sound.setPhase .failed).move here (.free (Nat.le_refl _) rfl rfl rfl rfl nofun)
  case h_18 here =>
    obtain rfl := Except.ok.inj stepped
    have leads : lifecycle.Leads .clearRunning .stopped :=
      .free (Nat.le_refl _) rfl rfl rfl rfl nofun
    have stopped := sound.move here leads
    exact ⟨stopped.budget, stopped.bounded, stopped.maximum, stopped.slot, stopped.ended,
      fun _ => rfl, stopped.emptied, stopped.called, stopped.unwatched, stopped.watched, stopped.accounted⟩
  case h_19 => cases stepped

theorem findDirectory_sound {found : Bool} (sound : lifecycle.Sound)
    (stepped : lifecycle.findDirectory found = .ok next) : next.Sound := by
  unfold findDirectory at stepped
  split at stepped
  case h_1 here =>
    obtain rfl := Except.ok.inj stepped
    split
    · exact sound.move here (.free (Nat.le_refl _) rfl rfl rfl rfl nofun)
    · exact sound.move here (.free (Nat.zero_le _) rfl rfl rfl rfl nofun)
  case h_2 => cases stepped

theorem Sound.beforeSpawn (sound : lifecycle.Sound) (here : lifecycle.supervisor = .spawn) :
    lifecycle.spawnAttempts ≤ lifecycle.restartPolicy.attempts ∧ lifecycle.child = none ∧
      lifecycle.supervisorRunning = true := by
  refine ⟨?_, ?_, ?_⟩
  · have budget := sound.budget
    rw [here] at budget
    exact budget
  · refine Option.eq_none_iff_forall_ne_some.mpr fun child slot => ?_
    have supervised := sound.slot child slot
    rw [here] at supervised
    cases supervised
  · refine (Bool.not_eq_false _).mp fun halted => ?_
    have stopped := sound.running halted
    rw [here] at stopped
    cases stopped

theorem spawn_sound {processId : Option Nat} (sound : lifecycle.Sound)
    (stepped : lifecycle.spawn processId = .ok next) : next.Sound := by
  unfold spawn at stepped
  split at stepped
  case h_2 => cases stepped
  case h_1 here =>
    obtain ⟨budget, empty, running⟩ := sound.beforeSpawn here
    have counted : lifecycle.spawnAttempts + 1 ≤ lifecycle.restartPolicy.attempts + 1 :=
      Nat.succ_le_succ budget
    have slot : ∀ child, lifecycle.child ≠ some child := fun child slot => by
      rw [empty] at slot
      cases slot
    have halts : lifecycle.supervisorRunning ≠ false := by
      rw [running]
      decide
    have emptied : ∀ caller, (lifecycle.forced caller).hasTaken = true →
        lifecycle.shuttingDown = true ∧ lifecycle.child = none ∧ false = false :=
      fun caller taken => ⟨(sound.emptied caller taken).1, empty, rfl⟩
    have watched : ∀ child, lifecycle.monitors child ≠ .notStarted →
        child.number < lifecycle.spawnAttempts + 1 :=
      fun child begun => Nat.lt_succ_of_lt (sound.watched child begun)
    have others : ∀ child ∈ lifecycle.spawned, lifecycle.Gone child ∨ lifecycle.Taken child := by
      intro child member
      rcases sound.accounted child member with gone | held | full | taken
      · exact .inl gone
      · rw [here] at held
        cases held
      · exact absurd full (slot child)
      · exact .inr taken
    split at stepped
    case h_1 identifier =>
      obtain rfl := Except.ok.inj stepped
      refine ⟨counted, sound.bounded, sound.maximum, fun child full => absurd full (slot child),
        nofun, fun halted => absurd halted halts, emptied, sound.called,
        fun child unwatched => ?_, watched, fun child member => ?_⟩
      · obtain rfl := Option.some.inj unwatched
        refine ⟨?_, Nat.lt_succ_self _⟩
        by_contra begun
        exact Nat.lt_irrefl _ (sound.watched _ begun)
      · rcases List.mem_cons.mp member with rfl | older
        · exact .inr (.inl rfl)
        · exact (others child older).imp id fun taken => .inr (.inr taken)
    case h_2 =>
      obtain rfl := Except.ok.inj stepped
      exact ⟨counted, sound.bounded, sound.maximum, fun child full => absurd full (slot child),
        nofun, fun halted => absurd halted halts, emptied, sound.called, nofun, watched,
        fun child member => (others child member).imp id fun taken => .inr (.inr taken)⟩

theorem assignProcessJob_supervisor (windows : Bool) (child : CommandChild) :
    (lifecycle.assignProcessJob windows child).supervisor = lifecycle.supervisor := by
  unfold BackendLifecycle.assignProcessJob
  split
  · rfl
  · rfl

theorem assignJob_sound {windows assigned : Bool} (sound : lifecycle.Sound)
    (stepped : lifecycle.assignJob windows assigned = .ok next) : next.Sound := by
  unfold assignJob at stepped
  split at stepped
  case h_2 => cases stepped
  case h_1 child here =>
    split at stepped
    · obtain rfl := Except.ok.inj stepped
      exact (sound.assignProcessJob windows child).move
        ((assignProcessJob_supervisor windows child).trans here)
        ⟨Nat.le_refl _, nofun, fun _ => .inr, nofun, fun _ => id, nofun, nofun⟩
    · split at stepped
      · obtain rfl := Except.ok.inj stepped
        exact sound.move here
          ⟨Nat.le_refl _, nofun, fun _ => .inr, nofun, fun _ => id, nofun, nofun⟩
      · cases stepped

theorem receive_sound {event : CommandEvent} (sound : lifecycle.Sound)
    (stepped : lifecycle.receive event = .ok next) : next.Sound := by
  unfold receive at stepped
  split at stepped
  case h_2 => cases stepped
  case h_1 child here =>
    split at stepped
    · split at stepped
      · rename_i ended
        obtain rfl := Except.ok.inj stepped
        refine sound.move here ⟨Nat.le_refl _, fun _ => id, nofun, ?_, nofun, nofun, nofun⟩
        intro other same
        obtain rfl := Option.some.inj same
        exact ended
      · cases stepped
    · obtain rfl := Except.ok.inj stepped
      exact sound.move here ⟨Nat.le_refl _, fun _ => id, nofun, nofun, nofun, nofun, nofun⟩

/-! ### The monitors -/

/-- A monitor that has begun is not one that the supervisor is still to start. -/
theorem Sound.begun (sound : lifecycle.Sound) (begun : lifecycle.monitors child ≠ .notStarted) :
    child.number < lifecycle.spawnAttempts ∧ lifecycle.supervisor.unwatched ≠ some child :=
  ⟨sound.watched child begun, fun unwatched => begun (sound.unwatched child unwatched).1⟩

/-- A monitor that holds nothing, or goes on holding it, moves. -/
theorem Sound.moveMonitor {before point : MonitorPoint}
    (sound : lifecycle.Sound) (here : lifecycle.monitors child = before)
    (begun : before ≠ .notStarted)
    (held : ∀ taken, before.held = some taken → lifecycle.Gone taken ∨ point.held = some taken) :
    (lifecycle.atMonitor child point).Sound := by
  obtain ⟨started, other⟩ := sound.begun (here ▸ begun)
  exact sound.atMonitor started other (here ▸ held)

/-- A monitor takes what is in the slot, whichever child that is. -/
theorem Sound.monitorTakes {child taken : CommandChild} (sound : lifecycle.Sound)
    (here : lifecycle.monitors child = .takeChild) (slot : lifecycle.child = some taken) :
    ({ lifecycle with child := none }.atMonitor child (.setFailed taken)).Sound := by
  have moved : (lifecycle.atMonitor child (.setFailed taken)).Sound :=
    sound.moveMonitor here nofun nofun
  refine ⟨moved.budget, moved.bounded, moved.maximum, nofun, moved.ended, moved.running,
    fun caller emptied => ?_, moved.called, moved.unwatched, moved.watched, fun kept member => ?_⟩
  · obtain ⟨-, empty, -⟩ := sound.emptied caller emptied
    rw [empty] at slot
    cases slot
  · rcases moved.accounted kept member with gone | held | full | others
    · exact .inl gone
    · exact .inr (.inl held)
    · have same : taken = kept := Option.some.inj (slot.symm.trans full)
      refine .inr (.inr (.inr (.inl ⟨child, ?_⟩)))
      unfold BackendLifecycle.atMonitor
      dsimp only
      rw [Function.update_self, same]
      rfl
    · exact .inr (.inr (.inr others))

theorem monitor_sound (sound : lifecycle.Sound)
    (stepped : lifecycle.monitor child = .ok next) : next.Sound := by
  unfold monitor at stepped
  split at stepped
  case h_1 here =>
    obtain rfl := Except.ok.inj stepped
    exact (sound.setPhase .ready).moveMonitor here nofun nofun
  case h_2 here =>
    obtain rfl := Except.ok.inj stepped
    exact sound.moveMonitor here nofun nofun
  case h_3 here =>
    obtain rfl := Except.ok.inj stepped
    exact sound.moveMonitor here nofun nofun
  case h_4 here =>
    split at stepped
    · cases stepped
    · split at stepped
      · rename_i taken slot
        split at stepped
        · obtain rfl := Except.ok.inj stepped
          exact sound.monitorTakes here slot
        · obtain rfl := Except.ok.inj stepped
          exact sound.moveMonitor here nofun nofun
      · obtain rfl := Except.ok.inj stepped
        exact sound.moveMonitor here nofun nofun
  case h_5 taken here =>
    obtain rfl := Except.ok.inj stepped
    exact (sound.setPhase .failed).moveMonitor here nofun fun _ => .inr
  case h_6 taken here =>
    obtain rfl := Except.ok.inj stepped
    exact sound.releaseProcessJob.moveMonitor here nofun fun _ => .inr
  case h_7 taken here =>
    obtain rfl := Except.ok.inj stepped
    refine (sound.kill taken).moveMonitor here nofun fun other same => ?_
    obtain rfl := Option.some.inj same
    exact .inl (.inl List.mem_cons_self)
  case h_8 => cases stepped

theorem monitorDeadline_sound {expired : Bool} (sound : lifecycle.Sound)
    (stepped : lifecycle.monitorDeadline child expired = .ok next) : next.Sound := by
  unfold monitorDeadline at stepped
  split at stepped
  case h_1 here =>
    obtain rfl := Except.ok.inj stepped
    exact sound.moveMonitor here nofun nofun
  case h_2 => cases stepped

theorem probe_sound {ready : Bool} (sound : lifecycle.Sound)
    (stepped : lifecycle.probe child ready = .ok next) : next.Sound := by
  unfold probe at stepped
  split at stepped
  case h_1 here =>
    obtain rfl := Except.ok.inj stepped
    exact sound.moveMonitor here nofun nofun
  case h_2 => cases stepped

/-! ### The forced shutdown -/

variable {caller : ForcedCaller}

/-- A forced shutdown moves on with what it holds; past its look at the slot, the slot stays
empty. -/
theorem Sound.atForced {point : ForcedPoint} (sound : lifecycle.Sound)
    (shuttingDown : lifecycle.shuttingDown = true)
    (emptied : point.hasTaken = true → lifecycle.child = none ∧ lifecycle.childLocked = false)
    (held : ∀ taken, (lifecycle.forced caller).held = some taken →
      lifecycle.Gone taken ∨ point.held = some taken) :
    (lifecycle.atForced caller point).Sound := by
  refine ⟨sound.budget, sound.bounded, sound.maximum, sound.slot, sound.ended, sound.running,
    fun other taken => ?_, fun _ _ => shuttingDown, sound.unwatched, sound.watched,
    fun kept member => ?_⟩
  · unfold BackendLifecycle.atForced at taken
    dsimp only at taken
    by_cases same : other = caller
    · rw [same, Function.update_self] at taken
      exact ⟨shuttingDown, emptied taken⟩
    · rw [Function.update_of_ne same] at taken
      exact sound.emptied other taken
  · rcases sound.accounted kept member with gone | hand | slot | watched | ⟨other, taken⟩
    · exact .inl gone
    · exact .inr (.inl hand)
    · exact .inr (.inr (.inl slot))
    · exact .inr (.inr (.inr (.inl watched)))
    · by_cases same : other = caller
      · rw [same] at taken
        refine (held kept taken).imp id fun still => .inr (.inr (.inr ⟨caller, ?_⟩))
        unfold BackendLifecycle.atForced
        dsimp only
        rw [Function.update_self]
        exact still
      · refine .inr (.inr (.inr (.inr ⟨other, ?_⟩)))
        unfold BackendLifecycle.atForced
        dsimp only
        rw [Function.update_of_ne same]
        exact taken

theorem Sound.shutDown (sound : lifecycle.Sound) :
    { lifecycle with shuttingDown := true }.Sound :=
  ⟨sound.budget, sound.bounded, sound.maximum, sound.slot, sound.ended, sound.running,
    fun caller taken => ⟨rfl, (sound.emptied caller taken).2⟩, fun _ _ => rfl, sound.unwatched,
    sound.watched, sound.accounted⟩

theorem forceShutdown_sound (sound : lifecycle.Sound)
    (stepped : lifecycle.forceShutdown caller = .ok next) : next.Sound := by
  unfold forceShutdown at stepped
  split at stepped
  case h_1 here =>
    obtain rfl := Except.ok.inj stepped
    refine sound.shutDown.atForced rfl nofun fun taken held => ?_
    dsimp only at held
    rw [here] at held
    cases held
  case h_2 => cases stepped

/-- A forced shutdown takes the child; it has stored the flag before, so that the supervisor
installs no other. -/
theorem Sound.forcedTakes (sound : lifecycle.Sound)
    (here : lifecycle.forced caller = .takeChild) (unlocked : lifecycle.childLocked = false) :
    ({ lifecycle with child := none }.atForced caller (.releaseJob lifecycle.child)).Sound := by
  have shuttingDown : lifecycle.shuttingDown = true :=
    sound.called caller (by rw [here]; nofun)
  refine ⟨sound.budget, sound.bounded, sound.maximum, nofun, sound.ended, sound.running,
    fun _ _ => ⟨shuttingDown, rfl, unlocked⟩, fun _ _ => shuttingDown, sound.unwatched, sound.watched,
    fun kept member => ?_⟩
  unfold BackendLifecycle.atForced
  rcases sound.accounted kept member with gone | hand | slot | watched | ⟨other, taken⟩
  · exact .inl gone
  · exact .inr (.inl hand)
  · refine .inr (.inr (.inr (.inr ⟨caller, ?_⟩)))
    dsimp only
    rw [Function.update_self]
    exact slot
  · exact .inr (.inr (.inr (.inl watched)))
  · refine .inr (.inr (.inr (.inr ⟨other, ?_⟩)))
    have different : other ≠ caller := by
      rintro rfl
      rw [here] at taken
      cases taken
    dsimp only
    rw [Function.update_of_ne different]
    exact taken

/-- A forced shutdown past its look at the slot moves. -/
theorem Sound.moveForced {before point : ForcedPoint}
    (sound : lifecycle.Sound) (here : lifecycle.forced caller = before)
    (taken : before.hasTaken = true)
    (held : ∀ child, before.held = some child → lifecycle.Gone child ∨ point.held = some child) :
    (lifecycle.atForced caller point).Sound := by
  subst here
  obtain ⟨shuttingDown, emptied⟩ := sound.emptied caller taken
  exact sound.atForced shuttingDown (fun _ => emptied) held

theorem forceNext_sound (sound : lifecycle.Sound)
    (stepped : lifecycle.forceNext caller = .ok next) : next.Sound := by
  unfold forceNext at stepped
  split at stepped
  case h_1 here =>
    split at stepped
    · cases stepped
    · rename_i unlocked
      obtain rfl := Except.ok.inj stepped
      exact sound.forcedTakes here ((Bool.not_eq_true _).mp unlocked)
  case h_2 taken here =>
    obtain rfl := Except.ok.inj stepped
    refine sound.releaseProcessJob.moveForced here rfl fun child held => .inr ?_
    obtain rfl : taken = some child := held
    rfl
  case h_3 taken here =>
    obtain rfl := Except.ok.inj stepped
    refine (sound.kill taken).moveForced here rfl fun other same => ?_
    obtain rfl := Option.some.inj same
    exact .inl (.inl List.mem_cons_self)
  case h_4 => cases stepped

/-! ### The graceful exit -/

/-- The exiting thread changes nothing but its point and the mark of completion. -/
theorem Sound.atExit (sound : lifecycle.Sound) (complete : Bool) (point : ExitPoint) :
    { lifecycle with shutdownComplete := complete, exit := point }.Sound :=
  ⟨sound.budget, sound.bounded, sound.maximum, sound.slot, sound.ended, sound.running,
    sound.emptied, sound.called, sound.unwatched, sound.watched, sound.accounted⟩

theorem startGracefulExit_sound (sound : lifecycle.Sound) : lifecycle.startGracefulExit.Sound :=
  sound.shutDown.atExit _ _

theorem exitNext_sound (sound : lifecycle.Sound) (stepped : lifecycle.exitNext = .ok next) :
    next.Sound := by
  unfold exitNext at stepped
  split at stepped
  case h_1 =>
    split at stepped
    · cases stepped
    · obtain rfl := Except.ok.inj stepped
      exact sound.atExit _ _
  case h_2 =>
    obtain rfl := Except.ok.inj stepped
    exact sound.atExit _ _
  case h_3 =>
    obtain rfl := Except.ok.inj stepped
    exact sound.atExit _ _
  case h_4 =>
    split at stepped
    · cases stepped
    · obtain rfl := Except.ok.inj stepped
      exact sound.atExit _ _
  case h_5 =>
    obtain ⟨forcing, forced, rest⟩ := bind_ok_iff.mp stepped
    obtain rfl := Except.ok.inj rest
    exact (forceShutdown_sound sound forced).atExit _ _
  case h_6 =>
    split at stepped
    · obtain rfl := Except.ok.inj stepped
      exact sound.atExit _ _
    · cases stepped
  case h_7 =>
    obtain rfl := Except.ok.inj stepped
    exact sound.atExit _ _
  case h_8 => cases stepped

theorem exitDeadline_sound {expired : Bool} (sound : lifecycle.Sound)
    (stepped : lifecycle.exitDeadline expired = .ok next) : next.Sound := by
  unfold exitDeadline at stepped
  split at stepped
  case h_1 =>
    obtain rfl := Except.ok.inj stepped
    exact sound.atExit _ _
  case h_2 =>
    obtain rfl := Except.ok.inj stepped
    exact sound.atExit _ _
  case h_3 => cases stepped

theorem requestShutdown_sound {accepted : Bool} (sound : lifecycle.Sound)
    (stepped : lifecycle.requestShutdown accepted = .ok next) : next.Sound := by
  unfold requestShutdown at stepped
  split at stepped
  case h_1 =>
    obtain rfl := Except.ok.inj stepped
    exact sound.atExit _ _
  case h_2 => cases stepped

theorem terminate_sound (sound : lifecycle.Sound)
    (stepped : lifecycle.terminate child = .ok next) : next.Sound := by
  unfold terminate at stepped
  split at stepped
  · obtain rfl := Except.ok.inj stepped
    exact sound.of_gone rfl (List.Subset.refl _) (List.subset_cons_self _ _)
  · cases stepped

/-- Every access keeps what holds in every interleaving. -/
theorem step_sound {windows : Bool} {action : LifecycleAction} (sound : lifecycle.Sound)
    (stepped : lifecycle.step windows action = .ok next) : next.Sound := by
  cases action with
  | supervise => exact supervise_sound sound stepped
  | findDirectory found => exact findDirectory_sound sound stepped
  | spawn processId => exact spawn_sound sound stepped
  | assignJob assigned => exact assignJob_sound sound stepped
  | receive event => exact receive_sound sound stepped
  | monitor child => exact monitor_sound sound stepped
  | monitorDeadline child expired => exact monitorDeadline_sound sound stepped
  | probe child ready => exact probe_sound sound stepped
  | startGracefulExit =>
    obtain rfl := Except.ok.inj stepped
    exact startGracefulExit_sound sound
  | exit => exact exitNext_sound sound stepped
  | exitDeadline expired => exact exitDeadline_sound sound stepped
  | requestShutdown accepted => exact requestShutdown_sound sound stepped
  | forceShutdown call => exact forceShutdown_sound sound stepped
  | forced caller => exact forceNext_sound sound stepped
  | terminate child => exact terminate_sound sound stepped

theorem new_sound : BackendLifecycle.new.Sound := by
  refine ⟨Nat.le_refl _, Nat.zero_le _, rfl, nofun, nofun, nofun, nofun, fun caller called => ?_,
    nofun, fun child begun => ?_, fun child member => ?_⟩
  · exact absurd rfl called
  · exact absurd rfl begun
  · exact absurd member List.not_mem_nil

end

end BackendLifecycle

theorem backendLifecycle_sound {windows : Bool} {lifecycle : BackendLifecycle}
    (reached : (backendLifecycle windows).Reachable lifecycle) : lifecycle.Sound := by
  refine reached.invariant BackendLifecycle.Sound ?_ ?_
  · rintro first rfl
    exact BackendLifecycle.new_sound
  · exact fun before action after sound _ stepped => BackendLifecycle.step_sound sound stepped

end CareerOS
