/-
This file proves whose lock and whose memory a section of an operation may touch. A
release or an activation works under its token: where the token owns no lock, it changes
no row, and in no process anything that belongs to another token. What has no token is
the stop of a search, which changes no lock and no status, and the clearing before
maintenance, which is meant to end every owner.
-/

import CareerOS.Search.SearchLock

namespace CareerOS

open EventLoop

variable {service next : SearchService} {memory : ProcessMemory}

/-- What a section leaves behind, read off its result. -/
theorem left_by {State Rest : Type} {left next : State} {first second : Rest}
    (ran : some (left, first) = some (next, second)) : left = next :=
  (Prod.mk.inj (Option.some.inj ran)).1

/-- The owner of the durable lock. -/
def LockedBy (service : SearchService) (profile : Nat) (owner : String) : Prop :=
  ∃ row, service.rows profile = some row ∧ row.searchLockToken = some owner

/-- The profile and the token that a phase releases or activates. -/
def SearchPhase.actsFor : SearchPhase → Option (Nat × String)
  | .activating _ profile _ token => some (profile, token)
  | .finalizing _ profile _ token => some (profile, token)
  | .rollingBack profile token => some (profile, token)
  | .releasing profile token _ => token.map fun token => (profile, token)
  | _ => none

/-- The profile and the token that a request releases or activates. -/
def SearchRequest.actsFor : SearchRequest → Option (Nat × String)
  | .registerTask _ profile _ token => token.map fun token => (profile, token)
  | .releaseTask _ profile token => token.map fun token => (profile, token)
  | _ => none

/-- The profile and the token for which a section of a release or an activation runs. -/
def actsFor (tasks : Tasks SearchService SearchPhase) :
    TaskEvent SearchRequest (Rat × Bool) → Option (Nat × String)
  | .start request => request.actsFor
  | .turn task _ => tasks.phases[task]?.bind SearchPhase.actsFor

/-- No row has changed, and in no process anything that belongs to another token. -/
structure ForeignKept (token : String) (service next : SearchService) : Prop where
  rows : next.rows = service.rows
  reservations : ∀ process profile reservation,
    (service.processes process).reservedTasks profile = some reservation →
    reservation.token ≠ token →
    (next.processes process).reservedTasks profile = some reservation
  statuses : ∀ process profile entry,
    (service.processes process).statuses profile = some entry →
    entry.reservationToken ≠ some token →
    (next.processes process).statuses profile = some entry
  running : ∀ process profile task,
    (service.processes process).activeTasks profile = some task →
    service.finished task = false →
    (next.processes process).activeTasks profile = some task

/-- In no process a task that is not done has been replaced by another. -/
def RunningKept (service next : SearchService) : Prop :=
  ∀ process profile task other, (service.processes process).activeTasks profile = some task →
    service.finished task = false →
    (next.processes process).activeTasks profile = some other → other = task

/-- A section that ends an ownership: the owner releases, a release asks for no token, or the lock
is acquired because it was stale. -/
inductive EndsOwnership (activeTtl : Rat) (service : SearchService) (profile : Nat)
    (owner : String) : SearchPhase → Rat × Bool → Prop
  | rollsBack {now : Rat} :
    EndsOwnership activeTtl service profile owner (.rollingBack profile owner) (now, false)
  | releases {now : Rat} {released : Bool} :
    EndsOwnership activeTtl service profile owner (.releasing profile (some owner) released)
      (now, false)
  | releasesAny {now : Rat} {released : Bool} :
    EndsOwnership activeTtl service profile owner (.releasing profile none released) (now, false)
  | clears {now : Rat} {process : Nat} {profiles : List Nat} :
    EndsOwnership activeTtl service profile owner (.clearingRow process profile profiles)
      (now, false)
  | expires {now : Rat} {process : Nat} {token : String} {fields : Dict String Json}
      {row : LockRow} (here : service.rows profile = some row)
      (stale : row.acquirable activeTtl now = true) :
    EndsOwnership activeTtl service profile owner (.acquiring process profile token fields)
      (now, false)

/-! ### Rows -/

theorem rows_transact (profile : Nat) (change : LockRow → Option LockRow) :
    (service.transact profile change = (service, false) ∧
      (service.rows profile).bind change = none) ∨
    ∃ row changed, service.rows profile = some row ∧ change row = some changed ∧
      service.transact profile change =
        ({ service with rows := Function.update service.rows profile (some changed) }, true) := by
  unfold SearchService.transact
  cases known : (service.rows profile).bind change with
  | none => exact .inl ⟨rfl, rfl⟩
  | some changed =>
    obtain ⟨row, here, made⟩ := Option.bind_eq_some_iff.mp known
    exact .inr ⟨row, changed, here, made, rfl⟩

variable {token : String} {profile : Nat}

/-- A conditional update under a token that owns no lock updates nothing. -/
theorem transact_of_not_locked
    {change : LockRow → Option LockRow} (foreign : ¬LockedBy service profile token)
    (conditional : ∀ row changed, change row = some changed → row.searchLockToken = some token) :
    service.transact profile change = (service, false) := by
  rcases rows_transact profile change with ⟨unchanged, -⟩ | ⟨row, changed, here, made, -⟩
  · exact unchanged
  · exact absurd ⟨row, here, conditional row changed made⟩ foreign

variable {row changed : LockRow}

theorem token_of_activate {now : Rat}
    (activated : row.activateSearchLock token now = some changed) :
    row.searchLockToken = some token := by
  unfold LockRow.activateSearchLock at activated
  split at activated
  · assumption
  · cases activated

theorem token_of_release (released : row.releaseSearchLock (some token) = some changed) :
    row.searchLockToken = some token := by
  unfold LockRow.releaseSearchLock at released
  split at released
  · rename_i owned
    exact owned.resolve_left (Option.some_ne_none token)
  · cases released

/-! ### Releases and activations -/

theorem ForeignKept.refl (token : String) (service : SearchService) :
    ForeignKept token service service where
  rows := rfl
  reservations _ _ _ here _ := here
  statuses _ _ _ here _ := here
  running _ _ _ here _ := here

variable {process : Nat}

/-- A section on the memory of one process. -/
theorem ForeignKept.within
    (reservations : ∀ profile reservation,
      (service.processes process).reservedTasks profile = some reservation →
      reservation.token ≠ token → memory.reservedTasks profile = some reservation)
    (statuses : ∀ profile entry, (service.processes process).statuses profile = some entry →
      entry.reservationToken ≠ some token → memory.statuses profile = some entry)
    (running : ∀ profile task, (service.processes process).activeTasks profile = some task →
      service.finished task = false → memory.activeTasks profile = some task) :
    ForeignKept token service (service.within process memory) := by
  have same : ((service.within process memory).processes process) = memory :=
    Function.update_self ..
  have others : ∀ other, other ≠ process →
      (service.within process memory).processes other = service.processes other :=
    fun other different => Function.update_of_ne different ..
  refine ⟨rfl, fun other => ?_, fun other => ?_, fun other => ?_⟩
  · by_cases here : other = process
    · rw [here, same]
      exact reservations
    · rw [others other here]
      exact fun _ _ known _ => known
  · by_cases here : other = process
    · rw [here, same]
      exact statuses
    · rw [others other here]
      exact fun _ _ known _ => known
  · by_cases here : other = process
    · rw [here, same]
      exact running
    · rw [others other here]
      exact fun _ _ known _ => known

/-- A reservation that is popped was one of the token. -/
theorem reservedTasks_popReserved
    (own : ∀ reservation, memory.reservedTasks profile = some reservation →
      reservation.token = token) (other : Nat) (reservation : Reservation)
    (here : memory.reservedTasks other = some reservation) (foreign : reservation.token ≠ token) :
    (memory.popReserved profile).reservedTasks other = some reservation := by
  by_cases same : other = profile
  · rw [same] at here
    exact absurd (own reservation here) foreign
  · exact (Function.update_of_ne same ..).trans here

/-- The first section of a release takes what is its own. -/
theorem foreignKept_releaseReservation {process profile : Nat} {released : Bool}
    (taken : (service.processes process).releaseReservation profile (some token) =
      some (memory, released)) : ForeignKept token service (service.within process memory) := by
  unfold ProcessMemory.releaseReservation at taken
  dsimp only at taken
  split at taken
  · cases taken
  · rename_i allowed
    have own : ∀ reservation,
        (service.processes process).reservedTasks profile = some reservation →
        reservation.token = token := by
      intro reservation here
      by_contra different
      refine allowed ⟨Option.some_ne_none _, ?_, ?_⟩
      · rw [here]
        exact Option.some_ne_none _
      · rw [here]
        exact fun same => different (Option.some.inj same)
    split at taken
    · obtain rfl := left_by taken
      exact .within (fun other reservation => reservedTasks_popReserved own other reservation)
        (fun _ _ here _ => here) fun _ _ here _ => here
    · rename_i entry there
      split at taken
      · rename_i reserved
        obtain rfl := left_by taken
        refine .within (fun other reservation => reservedTasks_popReserved own other reservation)
          (fun other kept here foreign => ?_) fun _ _ here _ => here
        by_cases same : other = profile
        · have entryIs : kept = entry := by
            rw [same] at here
            exact Option.some.inj (here.symm.trans there)
          rw [entryIs] at foreign
          exact absurd (reserved.2.resolve_left (Option.some_ne_none _)) foreign
        · exact (Function.update_of_ne same ..).trans here
      · obtain rfl := left_by taken
        exact .within (fun other reservation => reservedTasks_popReserved own other reservation)
          (fun _ _ here _ => here) fun _ _ here _ => here

/-- The second section of an activation takes its own reservation and a free slot. -/
theorem foreignKept_finalize {process profile task : Nat}
    (free : (service.processes process).slotAvailable service.finished profile = true)
    (own : ((service.processes process).reservedTasks profile).map Reservation.token =
      some token) :
    ForeignKept token service (service.within process {
      (service.processes process).popReserved profile with
      activeTasks := Function.update (service.processes process).activeTasks profile
        (some task) }) := by
  have mine : ∀ reservation,
      (service.processes process).reservedTasks profile = some reservation →
      reservation.token = token := fun reservation here => by
    rw [here] at own
    exact Option.some.inj own
  refine .within (fun other reservation => reservedTasks_popReserved mine other reservation)
    (fun _ _ here _ => here) fun other running here unfinished => ?_
  by_cases same : other = profile
  · unfold ProcessMemory.slotAvailable at free
    rw [same] at here
    rw [here] at free
    exact absurd (free.symm.trans unfinished) Bool.noConfusion
  · exact (Function.update_of_ne same ..).trans here

variable {phase : SearchPhase}

theorem foreignKept_begin {request : SearchRequest} (acts : request.actsFor = some (profile, token))
    (began : service.begin_ request = some (next, phase)) : ForeignKept token service next := by
  cases request with
  | registerTask process other task found =>
    cases found with
    | none => cases acts
    | some found =>
      unfold SearchService.begin_ at began
      dsimp only at began
      split at began
      · obtain rfl := left_by began
        exact .refl token _
      · split at began
        · obtain rfl := left_by began
          exact .refl token _
        · obtain rfl := left_by began
          exact .refl token _
  | releaseTask process other found =>
    cases found with
    | none => cases acts
    | some found =>
      obtain ⟨rfl, rfl⟩ := Prod.mk.inj (Option.some.inj acts)
      unfold SearchService.begin_ at began
      dsimp only at began
      split at began
      · obtain rfl := left_by began
        exact .refl _ _
      · rename_i taken
        obtain rfl := left_by began
        exact foreignKept_releaseReservation taken
  | reserveTask => cases acts
  | unregisterTask => cases acts
  | cancelTask => cases acts
  | cancelAndClearTasks => cases acts
  | reportStatus => cases acts
  | loadStatus => cases acts
  | expireStatus => cases acts
  | cleanup => cases acts
  | finish => cases acts

variable {activeTtl now : Rat}

theorem foreignKept_turn {raises : Bool} {before after : SearchPhase}
    (acts : before.actsFor = some (profile, token)) (foreign : ¬LockedBy service profile token)
    (turned : service.turn activeTtl before (now, raises) = some (next, after)) :
    ForeignKept token service next := by
  have activates : service.transact profile (fun row => row.activateSearchLock token now) =
      (service, false) := transact_of_not_locked foreign fun _ _ => token_of_activate
  have releases : service.transact profile (fun row => row.releaseSearchLock (some token)) =
      (service, false) := transact_of_not_locked foreign fun _ _ => token_of_release
  cases before with
  | activating process other task found =>
    obtain ⟨rfl, rfl⟩ := Prod.mk.inj (Option.some.inj acts)
    unfold SearchService.turn at turned
    dsimp only at turned
    rw [activates] at turned
    split at turned
    · obtain rfl := left_by turned
      exact .refl _ _
    · obtain rfl := left_by turned
      exact .refl _ _
  | finalizing process other task found =>
    obtain ⟨rfl, rfl⟩ := Prod.mk.inj (Option.some.inj acts)
    unfold SearchService.turn at turned
    dsimp only at turned
    split at turned
    · obtain rfl := left_by turned
      exact .refl _ _
    · rename_i free
      split at turned
      · obtain rfl := left_by turned
        exact .refl _ _
      · rename_i own
        obtain rfl := left_by turned
        exact foreignKept_finalize ((Bool.not_eq_false _).mp free) (not_not.mp own)
  | rollingBack other found =>
    obtain ⟨rfl, rfl⟩ := Prod.mk.inj (Option.some.inj acts)
    unfold SearchService.turn at turned
    dsimp only at turned
    rw [releases] at turned
    split at turned
    · obtain rfl := left_by turned
      exact .refl _ _
    · obtain rfl := left_by turned
      exact .refl _ _
  | releasing other found released =>
    cases found with
    | none => cases acts
    | some found =>
      obtain ⟨rfl, rfl⟩ := Prod.mk.inj (Option.some.inj acts)
      unfold SearchService.turn at turned
      dsimp only at turned
      rw [releases] at turned
      split at turned
      · obtain rfl := left_by turned
        exact .refl _ _
      · obtain rfl := left_by turned
        exact .refl _ _
  | acquiring => cases acts
  | recording => cases acts
  | snapshotting => cases acts
  | persisting => cases acts
  | joining => cases acts
  | clearing => cases acts
  | clearingRow => cases acts
  | clearingStatus => cases acts
  | clearingPersisted => cases acts
  | ended => cases acts

/-! ### Registered tasks -/

theorem RunningKept.refl (service : SearchService) : RunningKept service service :=
  fun _ _ _ _ here _ there => Option.some.inj (there.symm.trans here)

/-- A section that leaves the registered tasks, or removes some. -/
theorem RunningKept.within
    (kept : ∀ profile task other,
      (service.processes process).activeTasks profile = some task →
      service.finished task = false → memory.activeTasks profile = some other → other = task) :
    RunningKept service (service.within process memory) := by
  intro other profile task registered here unfinished there
  by_cases same : other = process
  · rw [same] at here there
    have memoryIs : (service.within process memory).processes process = memory :=
      Function.update_self ..
    rw [memoryIs] at there
    exact kept profile task registered here unfinished there
  · have memoryIs : (service.within process memory).processes other = service.processes other :=
      Function.update_of_ne same ..
    rw [memoryIs, here] at there
    exact (Option.some.inj there).symm

/-- A section that leaves the registered tasks. -/
theorem RunningKept.within_of_same
    (same : memory.activeTasks = (service.processes process).activeTasks) :
    RunningKept service (service.within process memory) :=
  .within fun profile task other here _ there => by
    rw [same, here] at there
    exact (Option.some.inj there).symm

/-- A task is registered where the slot is free. -/
theorem RunningKept.register {process profile task : Nat}
    (free : (service.processes process).slotAvailable service.finished profile = true)
    (sets : memory.activeTasks =
      Function.update (service.processes process).activeTasks profile (some task)) :
    RunningKept service (service.within process memory) := by
  refine .within fun other running registered here unfinished there => ?_
  rw [sets] at there
  by_cases same : other = profile
  · unfold ProcessMemory.slotAvailable at free
    rw [same] at here
    rw [here] at free
    exact absurd (free.symm.trans unfinished) Bool.noConfusion
  · rw [Function.update_of_ne same, here] at there
    exact (Option.some.inj there).symm

/-- A section on the rows. -/
theorem RunningKept.transact (profile : Nat) (change : LockRow → Option LockRow) :
    RunningKept service (service.transact profile change).1 := by
  rcases rows_transact profile change with ⟨same, -⟩ | ⟨_, _, -, -, same⟩
  · rw [same]
    exact .refl service
  · rw [same]
    exact .refl service

theorem RunningKept.within_of_fewer
    (fewer : ∀ profile task, memory.activeTasks profile = some task →
      (service.processes process).activeTasks profile = some task) :
    RunningKept service (service.within process memory) :=
  .within fun profile _ other here _ there =>
    Option.some.inj ((fewer profile other there).symm.trans here)

theorem activeTasks_cleanup {finished : Nat → Bool} {now : Rat} {profile task : Nat}
    (here : (memory.cleanupStaleReservations finished now).activeTasks profile = some task) :
    memory.activeTasks profile = some task := by
  have reserved : ∀ memory : ProcessMemory, ∀ stale there : Bool,
      (if stale = true then
        if there = true then (memory.popReserved profile).putStatus profile none
        else memory.popReserved profile
      else memory).activeTasks = memory.activeTasks := by
    intro memory stale there
    cases stale <;> cases there <;> rfl
  have cleaned : ∃ middle : ProcessMemory, middle.activeTasks = memory.activeTasks ∧
      memory.cleanupProfile finished now profile =
        if (middle.activeTasks profile).any finished = true then middle.popActive profile
        else middle := ⟨_, reserved memory _ _, rfl⟩
  obtain ⟨middle, same, cleanedIs⟩ := cleaned
  replace here : (memory.cleanupProfile finished now profile).activeTasks profile = some task := here
  rw [cleanedIs] at here
  split at here
  · exact absurd ((Function.update_self ..).symm.trans here) (Option.some_ne_none _).symm
  · rwa [same] at here

theorem activeTasks_foldl_popReserved (profiles : List Nat) (memory : ProcessMemory) :
    (profiles.foldl ProcessMemory.popReserved memory).activeTasks = memory.activeTasks := by
  induction profiles generalizing memory with
  | nil => rfl
  | cons profile profiles inductionHypothesis =>
    exact inductionHypothesis (memory.popReserved profile)

theorem activeTasks_releaseReservation {before : ProcessMemory}
    {token : Option String} {released : Bool}
    (taken : before.releaseReservation profile token = some (memory, released)) :
    memory.activeTasks = before.activeTasks := by
  unfold ProcessMemory.releaseReservation at taken
  dsimp only at taken
  split at taken
  · cases taken
  · split at taken
    · obtain rfl := left_by taken
      rfl
    · split at taken
      · obtain rfl := left_by taken
        rfl
      · obtain rfl := left_by taken
        rfl

theorem activeTasks_popActive {profile other task : Nat}
    (here : ((memory.popReserved profile).popActive profile).activeTasks other = some task) :
    memory.activeTasks other = some task := by
  by_cases same : other = profile
  · rw [same] at here
    exact absurd ((Function.update_self ..).symm.trans here) (Option.some_ne_none _).symm
  · exact (Function.update_of_ne same ..).symm.trans here

/-! ### All sections -/

/-- A section that replaces no running task and ends an ownership only as it may. -/
structure Restrained (ends : Nat → String → Prop) (service next : SearchService) : Prop where
  running : RunningKept service next
  owners : ∀ profile owner, LockedBy service profile owner → ¬LockedBy next profile owner →
    ends profile owner

namespace Restrained

variable {ends : Nat → String → Prop}

theorem refl (service : SearchService) : Restrained ends service service where
  running := .refl service
  owners _ _ locked lost := absurd locked lost

/-- A section that changes no row. -/
theorem of_rows (rows : next.rows = service.rows) (running : RunningKept service next) :
    Restrained ends service next where
  running := running
  owners profile owner locked lost := by
    obtain ⟨row, here, token⟩ := locked
    exact absurd ⟨row, by rw [rows]; exact here, token⟩ lost

/-- A transaction ends the ownerships of the rows whose token it changes. -/
theorem transact (profile : Nat) (change : LockRow → Option LockRow)
    (may : ∀ row changed owner, service.rows profile = some row → change row = some changed →
      row.searchLockToken = some owner → changed.searchLockToken ≠ some owner →
      ends profile owner) :
    Restrained ends service (service.transact profile change).1 where
  running := .transact profile change
  owners other owner locked lost := by
    rcases rows_transact profile change with ⟨same, -⟩ | ⟨row, changed, here, made, same⟩
    · rw [same] at lost
      exact absurd locked lost
    · rw [same] at lost
      obtain ⟨old, found, token⟩ := locked
      by_cases known : other = profile
      · subst known
        obtain rfl := Option.some.inj (here.symm.trans found)
        exact may row changed owner here made token fun kept =>
          lost ⟨changed, Function.update_self .., kept⟩
      · exact absurd ⟨old, (Function.update_of_ne known ..).trans found, token⟩ lost

end Restrained

/-- The first section of an operation ends no ownership. -/
theorem restrained_begin {request : SearchRequest}
    (began : service.begin_ request = some (next, phase)) : Restrained (fun _ _ => False) service next := by
  unfold SearchService.begin_ at began
  cases request with
  | reserveTask process profile token fields now =>
    dsimp only at began
    have cleaned : Restrained (fun _ _ => False) service (service.within process
        ((service.processes process).cleanupStaleReservations service.finished now)) :=
      .of_rows rfl <| .within_of_fewer fun _ _ here => activeTasks_cleanup here
    split at began
    · obtain rfl := left_by began
      exact cleaned
    · obtain rfl := left_by began
      exact cleaned
  | registerTask process profile task token =>
    dsimp only at began
    split at began
    · split at began
      · obtain rfl := left_by began
        exact .refl _
      · split at began
        · obtain rfl := left_by began
          exact .refl _
        · obtain rfl := left_by began
          exact .refl _
    · split at began
      · obtain rfl := left_by began
        exact .refl _
      · rename_i free
        obtain rfl := left_by began
        exact .of_rows rfl <| .register ((Bool.not_eq_false _).mp free) rfl
  | unregisterTask process profile =>
    obtain rfl := left_by began
    exact .of_rows rfl <| .within_of_fewer fun _ _ here => activeTasks_popActive here
  | releaseTask process profile token =>
    dsimp only at began
    split at began
    · obtain rfl := left_by began
      exact .refl _
    · rename_i taken
      obtain rfl := left_by began
      exact .of_rows rfl <| .within_of_same (activeTasks_releaseReservation taken)
  | cancelTask process profile =>
    obtain rfl := left_by began
    exact .of_rows rfl <| .within_of_same rfl
  | cancelAndClearTasks process profiles =>
    obtain rfl := left_by began
    exact .of_rows rfl <| .within_of_same (activeTasks_foldl_popReserved profiles _)
  | reportStatus process profile entry =>
    dsimp only at began
    split at began
    · cases began
    · obtain rfl := left_by began
      exact .of_rows rfl <| .within_of_same rfl
  | loadStatus process profile =>
    dsimp only at began
    split at began
    · obtain rfl := left_by began
      exact .refl _
    · obtain rfl := left_by began
      exact .of_rows rfl <| .within_of_same rfl
  | expireStatus profile =>
    obtain rfl := left_by began
    exact .transact _ _ fun row changed owner _ made token other => by
      obtain rfl := Option.some.inj made
      exact other token
  | cleanup process now =>
    obtain rfl := left_by began
    exact .of_rows rfl <| .within_of_fewer fun _ _ here => activeTasks_cleanup here
  | finish task =>
    obtain rfl := left_by began
    exact .of_rows rfl fun _ _ _ _ here _ there => Option.some.inj (there.symm.trans here)

theorem acquirable_of_acquire
    (acquired : row.acquireSearchLock token activeTtl now = some changed) :
    row.acquirable activeTtl now = true := by
  unfold LockRow.acquireSearchLock at acquired
  split at acquired
  · assumption
  · cases acquired

theorem searchLockToken_activate {now : Rat}
    (activated : row.activateSearchLock token now = some changed) :
    changed.searchLockToken = row.searchLockToken := by
  unfold LockRow.activateSearchLock at activated
  split at activated
  · obtain rfl := Option.some.inj activated
    rfl
  · cases activated

/-- A section that ends an ownership is one of those that may. -/
theorem restrained_turn {raises : Bool} {before after : SearchPhase}
    (turned : service.turn activeTtl before (now, raises) = some (next, after)) :
    Restrained (fun profile owner =>
      EndsOwnership activeTtl service profile owner before (now, raises)) service next := by
  unfold SearchService.turn at turned
  cases before with
  | acquiring process profile token fields =>
    cases raises with
    | true =>
      obtain rfl := left_by turned
      exact .refl _
    | false =>
      have transacted : Restrained (fun other owner => EndsOwnership activeTtl service other
          owner (.acquiring process profile token fields) (now, false)) service
          (service.transact profile fun row => row.acquireSearchLock token activeTtl now).1 :=
        .transact _ _ fun row changed owner here made _ _ =>
          .expires here (acquirable_of_acquire made)
      dsimp only at turned
      rw [if_neg Bool.false_ne_true] at turned
      split at turned
      · rename_i acquired
        obtain rfl := left_by turned
        rw [acquired] at transacted
        exact transacted
      · rename_i acquired
        obtain rfl := left_by turned
        rw [acquired] at transacted
        exact transacted
  | recording process profile token fields =>
    obtain rfl := left_by turned
    exact .of_rows rfl <| .within_of_same rfl
  | snapshotting process profile result =>
    dsimp only at turned
    split at turned
    · obtain rfl := left_by turned
      exact .refl _
    · obtain rfl := left_by turned
      exact .refl _
  | persisting profile entry result =>
    cases raises with
    | true =>
      obtain rfl := left_by turned
      exact .refl _
    | false =>
      obtain rfl := left_by turned
      exact .transact _ _ fun row changed owner _ made token other => by
        obtain rfl := Option.some.inj made
        exact absurd token other
  | activating process profile task token =>
    cases raises with
    | true =>
      obtain rfl := left_by turned
      exact .refl _
    | false =>
      have transacted : Restrained (fun other owner => EndsOwnership activeTtl service other
          owner (.activating process profile task token) (now, false)) service
          (service.transact profile fun row => row.activateSearchLock token now).1 :=
        .transact _ _ fun row changed owner here made kept other =>
          absurd ((searchLockToken_activate made).trans kept) other
      dsimp only at turned
      rw [if_neg Bool.false_ne_true] at turned
      split at turned
      · rename_i activated
        obtain rfl := left_by turned
        rw [activated] at transacted
        exact transacted
      · rename_i activated
        obtain rfl := left_by turned
        rw [activated] at transacted
        exact transacted
  | finalizing process profile task token =>
    dsimp only at turned
    split at turned
    · obtain rfl := left_by turned
      exact .refl _
    · rename_i free
      split at turned
      · obtain rfl := left_by turned
        exact .refl _
      · obtain rfl := left_by turned
        exact .of_rows rfl <| .register ((Bool.not_eq_false _).mp free) rfl
  | rollingBack profile token =>
    cases raises with
    | true =>
      obtain rfl := left_by turned
      exact .refl _
    | false =>
      obtain rfl := left_by turned
      exact .transact _ _ fun row changed owner _ made kept _ => by
        obtain rfl := Option.some.inj ((token_of_release made).symm.trans kept)
        exact .rollsBack
  | releasing profile token released =>
    cases raises with
    | true =>
      obtain rfl := left_by turned
      exact .refl _
    | false =>
      obtain rfl := left_by turned
      exact .transact _ _ fun row changed owner _ made kept _ => by
        cases token with
        | none => exact .releasesAny
        | some token =>
          obtain rfl := Option.some.inj ((token_of_release made).symm.trans kept)
          exact .releases
  | joining process profiles tasks =>
    dsimp only at turned
    split at turned
    · obtain rfl := left_by turned
      exact .refl _
    · cases turned
  | clearing process profiles =>
    cases profiles with
    | nil =>
      obtain rfl := left_by turned
      exact .refl _
    | cons profile profiles =>
      dsimp only at turned
      split at turned
      · cases turned
      · rename_i taken
        obtain rfl := left_by turned
        exact .of_rows rfl <| .within_of_same (activeTasks_releaseReservation taken)
  | clearingRow process profile profiles =>
    cases raises with
    | true =>
      obtain rfl := left_by turned
      exact .refl _
    | false =>
      obtain rfl := left_by turned
      exact .transact _ _ fun _ _ _ _ _ _ _ => .clears
  | clearingStatus process profile profiles =>
    obtain rfl := left_by turned
    exact .of_rows rfl <| .within_of_same rfl
  | clearingPersisted process profile profiles =>
    cases raises with
    | true =>
      obtain rfl := left_by turned
      exact .refl _
    | false =>
      obtain rfl := left_by turned
      exact .transact _ _ fun row changed owner _ made token other => by
        obtain rfl := Option.some.inj made
        exact absurd token other
  | ended => cases turned

/-! ### Every run -/

/-- What one section may do to the owners of locks. -/
structure OwnersRespected (activeTtl : Rat) (tasks next : Tasks SearchService SearchPhase)
    (event : TaskEvent SearchRequest (Rat × Bool)) : Prop where
  /-- A lock has one owner at most. -/
  single : ∀ profile first second, LockedBy next.shared profile first →
    LockedBy next.shared profile second → first = second
  /-- A task that is registered and not done is not replaced. -/
  running : RunningKept tasks.shared next.shared
  /-- An ownership ends by a release of the owner, by one that asks for no token, or when it is
  stale. -/
  ends : ∀ profile owner, LockedBy tasks.shared profile owner →
    ¬LockedBy next.shared profile owner → ∃ task phase what, event = .turn task what ∧
      tasks.phases[task]? = some phase ∧
        EndsOwnership activeTtl tasks.shared profile owner phase what
  /-- A release or an activation under a token that owns no lock touches nothing of another token. -/
  foreign : ∀ profile token, actsFor tasks event = some (profile, token) →
    ¬LockedBy tasks.shared profile token → ForeignKept token tasks.shared next.shared
  /-- A stop changes no lock and no status. -/
  stops : ∀ process profile, event = .start (.cancelTask process profile) →
    next.shared.rows = tasks.shared.rows ∧
      ∀ other, (next.shared.processes other).statuses = (tasks.shared.processes other).statuses

theorem lockedBy_unique {first second : String}
    (one : LockedBy service profile first) (other : LockedBy service profile second) :
    first = second := by
  obtain ⟨row, here, token⟩ := one
  obtain ⟨same, there, held⟩ := other
  obtain rfl := Option.some.inj (here.symm.trans there)
  exact Option.some.inj (token.symm.trans held)

theorem statuses_cancelTask {process profile : Nat}
    (began : service.begin_ (.cancelTask process profile) = some (next, phase)) :
    next.rows = service.rows ∧
      ∀ other, (next.processes other).statuses = (service.processes other).statuses := by
  obtain rfl := left_by began
  refine ⟨rfl, fun other => ?_⟩
  by_cases same : other = process
  · show (Function.update service.processes process
      ((service.processes process).popReserved profile) other).statuses = _
    rw [same, Function.update_self]
    rfl
  · exact congrArg ProcessMemory.statuses (Function.update_of_ne same ..)

/-- However the sections of all operations of all workers interleave, from any state: no section
ends the ownership of another worker before it is stale, and a release or an activation by a worker
that owns no lock touches neither a lock nor what other workers have in memory. -/
theorem searchOwners_respected {activeTtl : Rat} {rows : Nat → Option LockRow}
    {tasks next : Tasks SearchService SearchPhase}
    {event : TaskEvent SearchRequest (Rat × Bool)}
    (stepped : (searchMachine activeTtl rows).step tasks event = .ok next) :
    OwnersRespected activeTtl tasks next event := by
  have moves : (searchLoop activeTtl).Moves tasks next event := EventLoop.step_ok stepped
  cases moves with
  | @start request phase began _ _ =>
    have kept := restrained_begin began
    refine ⟨fun _ _ _ => lockedBy_unique, kept.running, fun profile owner locked lost =>
      absurd (kept.owners profile owner locked lost) id, fun profile token acts _ =>
      foreignKept_begin acts began, fun process profile same => ?_⟩
    cases same
    exact statuses_cancelTask began
  | @turn task what before after _ here turned _ _ =>
    obtain ⟨now, raises⟩ := what
    have kept := restrained_turn turned
    refine ⟨fun _ _ _ => lockedBy_unique, kept.running, fun profile owner locked lost =>
      ⟨task, before, (now, raises), rfl, here, kept.owners profile owner locked lost⟩,
      fun profile token acts foreign => ?_, nofun⟩
    have phaseActs : before.actsFor = some (profile, token) := by
      unfold actsFor at acts
      dsimp only at acts
      rw [here] at acts
      exact acts
    exact foreignKept_turn phaseActs foreign turned

/-- One profile whose lock is free. -/
def freeRow : Nat → Option LockRow
  | 7 => some ⟨none, none, none, none⟩
  | _ => none

/-- One profile whose lock another worker has taken. -/
def takenService : SearchService where
  rows
    | 7 => some ⟨some "b", some "reserved", some 100, some ⟨"reserved", some "b", []⟩⟩
    | _ => none
  processes _ := ⟨fun _ => none, fun _ => none, fun _ => none⟩
  finished _ := false

/-- A worker that was too slow releases, and the lock stays with its owner. -/
theorem searchOwners_respected_slowRelease :
    OwnersRespected 1860 ⟨takenService, [.releasing 7 (some "a") true]⟩
      ⟨takenService, [.ended true]⟩ (.turn 0 (101, false)) :=
  @searchOwners_respected 1860 freeRow _ _ _ rfl

/-- The clearing before maintenance carries no token: it ends the ownership of a worker whose lock
is fresh, and takes its status and its reservation. A stop takes a reservation too. -/
theorem clearing_ends_ownership :
    (∃ tasks next, (searchMachine 1860 freeRow).Reachable tasks ∧
      (searchMachine 1860 freeRow).step tasks (.turn 1 (3, false)) = .ok next ∧
      tasks.phases[1]? = some (.clearingRow 0 7 []) ∧
      LockedBy tasks.shared 7 "b" ∧ ¬LockedBy next.shared 7 "b" ∧
      (tasks.shared.processes 0).statuses 7 = none) ∧
    ∃ tasks next, (searchMachine 1860 freeRow).Reachable tasks ∧
      (searchMachine 1860 freeRow).step tasks (.start (.cancelTask 0 7)) = .ok next ∧
      LockedBy tasks.shared 7 "b" ∧
      ((tasks.shared.processes 0).reservedTasks 7).map Reservation.token = some "b" ∧
      (next.shared.processes 0).reservedTasks 7 = none := by
  constructor
  · have ran : (searchMachine 1860 freeRow).run ⟨.start freeRow, []⟩
        [.start (.reserveTask 0 7 "b" [] 0), .turn 0 (0, false), .turn 0 (1, false),
          .start (.cancelAndClearTasks 0 [7]), .turn 1 (2, false), .turn 1 (2, false)] = .ok _ := rfl
    refine ⟨_, _, Machine.Reachable.run (.initial rfl) ran, rfl, rfl, ⟨_, rfl, rfl⟩, ?_, rfl⟩
    rintro ⟨row, here, token⟩
    obtain rfl := Option.some.inj here
    cases token
  · have ran : (searchMachine 1860 freeRow).run ⟨.start freeRow, []⟩
        [.start (.reserveTask 0 7 "b" [] 0), .turn 0 (0, false), .turn 0 (1, false)] = .ok _ := rfl
    exact ⟨_, _, Machine.Reachable.run (.initial rfl) ran, rfl, ⟨_, rfl, rfl⟩, rfl, rfl⟩

end CareerOS
