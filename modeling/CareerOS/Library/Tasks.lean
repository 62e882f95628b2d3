/-
This file is an event loop of one thread. A task runs from one point where it may be
suspended to the next without anything in between: this is one turn. The loop holds
the shared state and where every task is suspended; which task has the next turn, and
whether it goes on or is cancelled there, is the action of the step.

What a turn changes is said once, by how many tasks are suspended where.
-/

import CareerOS.Library.Machine

namespace CareerOS

/-- The shared state, and where each task is suspended. -/
structure Tasks (Shared Phase : Type) where
  shared : Shared
  phases : List Phase
  deriving DecidableEq

/-- What an event loop does next. -/
inductive TaskEvent (Start Turn : Type)
  /-- A new task has its first turn. -/
  | start (what : Start)
  /-- A suspended task has a turn. -/
  | turn (task : Nat) (what : Turn)

/-- The turns of the tasks of a program; nothing when the task cannot take this turn. -/
structure EventLoop (Shared Phase Start Turn : Type) where
  begin_ : Shared → Start → Option (Shared × Phase)
  turn : Shared → Phase → Turn → Option (Shared × Phase)

namespace Tasks

variable {Shared Phase : Type}

/-- How many tasks are suspended at such a place. -/
def tally (tasks : Tasks Shared Phase) (among : Phase → Bool) : Nat :=
  tasks.phases.countP among

theorem tally_eq_zero_iff {tasks : Tasks Shared Phase} {among : Phase → Bool} :
    tasks.tally among = 0 ↔ ∀ phase ∈ tasks.phases, among phase = false := by
  unfold tally
  rw [List.countP_eq_zero]
  exact ⟨fun none phase member => (Bool.not_eq_true _).mp (none phase member),
    fun none phase member => (Bool.not_eq_true _).mpr (none phase member)⟩

end Tasks

namespace EventLoop

variable {Shared Phase Start Turn : Type} (loop : EventLoop Shared Phase Start Turn)

/-- One turn. -/
def step (tasks : Tasks Shared Phase) : TaskEvent Start Turn → Except Unit (Tasks Shared Phase)
  | .start what =>
    match loop.begin_ tasks.shared what with
    | some (shared, phase) => .ok ⟨shared, tasks.phases ++ [phase]⟩
    | none => .error ()
  | .turn task what =>
    match tasks.phases[task]? with
    | some phase =>
      match loop.turn tasks.shared phase what with
      | some (shared, next) => .ok ⟨shared, tasks.phases.set task next⟩
      | none => .error ()
    | none => .error ()

/-- The runs of an event loop that starts without tasks. -/
def machine (shared : Shared) : Machine (Tasks Shared Phase) (TaskEvent Start Turn) Unit where
  initial := fun tasks => tasks = ⟨shared, []⟩
  step := loop.step

/-- One where a task is suspended there, and nothing where it is not. -/
def weight (among : Phase → Bool) (phase : Phase) : Nat := if among phase = true then 1 else 0

theorem weight_of_true {among : Phase → Bool} {phase : Phase} (holds : among phase = true) :
    weight among phase = 1 := if_pos holds

theorem weight_of_false {among : Phase → Bool} {phase : Phase} (fails : among phase = false) :
    weight among phase = 0 := if_neg ((Bool.not_eq_true _).mpr fails)

/-- What one turn does: a new task is suspended somewhere, or a task moves on. -/
inductive Moves (tasks next : Tasks Shared Phase) : TaskEvent Start Turn → Prop
  | start {what : Start} {phase : Phase}
      (began : loop.begin_ tasks.shared what = some (next.shared, phase))
      (tallies : ∀ among, next.tally among = tasks.tally among + weight among phase)
      (phases : next.phases = tasks.phases ++ [phase]) : Moves tasks next (.start what)
  | turn {task : Nat} {what : Turn} {before after : Phase} (suspended : before ∈ tasks.phases)
      (here : tasks.phases[task]? = some before)
      (turned : loop.turn tasks.shared before what = some (next.shared, after))
      (tallies : ∀ among,
        next.tally among + weight among before = tasks.tally among + weight among after)
      (phases : next.phases = tasks.phases.set task after) : Moves tasks next (.turn task what)

variable {loop}

theorem step_ok {tasks next : Tasks Shared Phase} {event : TaskEvent Start Turn}
    (stepped : loop.step tasks event = .ok next) : loop.Moves tasks next event := by
  unfold step at stepped
  cases event with
  | start what =>
    dsimp only at stepped
    split at stepped
    · rename_i shared phase began
      obtain rfl := Except.ok.inj stepped
      refine .start began (fun among => ?_) rfl
      unfold Tasks.tally weight
      rw [List.countP_append, List.countP_singleton]
    · cases stepped
  | turn task what =>
    dsimp only at stepped
    split at stepped
    · rename_i before here
      split at stepped
      · rename_i shared after turned
        obtain rfl := Except.ok.inj stepped
        obtain ⟨inside, same⟩ := List.getElem?_eq_some_iff.mp here
        refine .turn (List.mem_of_getElem? here) here turned (fun among => ?_) rfl
        unfold Tasks.tally weight
        dsimp only
        rw [List.countP_set inside, same]
        have positive : among before = true → 0 < tasks.phases.countP among := fun holds =>
          List.countP_pos_iff.mpr ⟨before, List.mem_of_getElem? here, holds⟩
        by_cases holds : among before = true
        · have := positive holds
          rw [if_pos holds]
          omega
        · rw [if_neg holds]
          omega
      · cases stepped
    · cases stepped

end EventLoop

end CareerOS
