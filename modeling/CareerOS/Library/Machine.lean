/-
This file fixes what a run of a service is. A service holds a state; an
operation either commits a new state or is refused, and a refused operation
leaves the state as it was. Everything an operation reads from its surroundings
(the clock, a fresh identifier, another table) is part of the action, so a run
is a list of actions.

The one induction over runs is done here: a property that holds of every
initial state and survives every committed operation holds of every reachable
state. Reachability carries a condition on the steps, so that "in every run
whose steps all meet the condition" is the same statement with the condition
filled in.
-/

import Mathlib

namespace CareerOS

/-- A service: where it may start, and what one operation does. -/
structure Machine (State Action Refusal : Type*) where
  /-- The states a run may start in. -/
  initial : State → Prop
  /-- One operation: the committed state, or the reason it is refused. -/
  step : State → Action → Except Refusal State

namespace Machine

variable {State Action Refusal : Type*} (machine : Machine State Action Refusal)

/-- The states reached by runs whose committed steps all meet a condition on the state
before the step and the action. -/
inductive ReachableWhen (meets : State → Action → Prop) : State → Prop
  | initial {state : State} (starts : machine.initial state) : ReachableWhen meets state
  | step {state next : State} {action : Action} (reached : ReachableWhen meets state)
      (met : meets state action) (committed : machine.step state action = .ok next) :
      ReachableWhen meets next

/-- The states reached by any run. -/
abbrev Reachable : State → Prop := machine.ReachableWhen fun _ _ => True

/-- The states that come later: those that committed steps lead to which all meet a condition. -/
inductive LaterWhen (meets : State → Action → Prop) (first : State) : State → Prop
  | here : LaterWhen meets first first
  | step {state next : State} {action : Action} (later : LaterWhen meets first state)
      (met : meets state action) (committed : machine.step state action = .ok next) :
      LaterWhen meets first next

/-- The states that come later in any run. -/
abbrev Later : State → State → Prop := machine.LaterWhen fun _ _ => True

/-- A list of operations from one state; the first refusal ends the run. -/
def run (state : State) : List Action → Except Refusal State
  | [] => .ok state
  | action :: rest =>
    match machine.step state action with
    | .ok next => run next rest
    | .error refusal => .error refusal

variable {machine} {state : State}

namespace ReachableWhen

variable {meets : State → Action → Prop}

/-- The induction over runs. -/
theorem invariant (property : State → Prop) (reached : machine.ReachableWhen meets state)
    (starts : ∀ first, machine.initial first → property first)
    (preserved : ∀ before action after, property before → meets before action →
      machine.step before action = .ok after → property after) : property state := by
  induction reached with
  | initial first => exact starts _ first
  | step _ met committed inductionHypothesis =>
    exact preserved _ _ _ inductionHypothesis met committed

/-- A weaker condition on the steps reaches at least the same states. -/
theorem mono {weaker : State → Action → Prop} (reached : machine.ReachableWhen meets state)
    (weaken : ∀ before action, meets before action → weaker before action) :
    machine.ReachableWhen weaker state := by
  induction reached with
  | initial first => exact .initial first
  | step _ met committed inductionHypothesis =>
    exact .step inductionHypothesis (weaken _ _ met) committed

/-- Every conditional run is a run. -/
theorem reachable (reached : machine.ReachableWhen meets state) :
    machine.Reachable state :=
  reached.mono fun _ _ _ => trivial

end ReachableWhen

namespace LaterWhen

variable {meets : State → Action → Prop}

/-- What comes later in a run is reached by the run. -/
theorem reachable {first later : State} (reached : machine.ReachableWhen meets first)
    (after : machine.LaterWhen meets first later) : machine.ReachableWhen meets later := by
  induction after with
  | here => exact reached
  | step _ met committed inductionHypothesis => exact .step inductionHypothesis met committed

/-- The induction over what comes later, in a run that was reached. -/
theorem invariant (property : State → Prop) {first later : State}
    (reached : machine.ReachableWhen meets first) (starts : property first)
    (preserved : ∀ before action after, machine.ReachableWhen meets before → property before →
      meets before action → machine.step before action = .ok after → property after)
    (after : machine.LaterWhen meets first later) : property later := by
  induction after with
  | here => exact starts
  | step earlier met committed inductionHypothesis =>
    exact preserved _ _ _ (earlier.reachable reached) inductionHypothesis met committed

end LaterWhen

variable {actions : List Action} {state final : State}

/-- A run that commits every one of its operations, each of which meets the condition in every
state, ends in a reachable state. -/
theorem ReachableWhen.run {meets : State → Action → Prop}
    (reached : machine.ReachableWhen meets state) (ran : machine.run state actions = .ok final)
    (met : ∀ action ∈ actions, ∀ before, meets before action) :
    machine.ReachableWhen meets final := by
  induction actions generalizing state with
  | nil =>
    cases ran
    exact reached
  | cons action rest inductionHypothesis =>
    obtain ⟨now, later⟩ := List.forall_mem_cons.mp met
    unfold Machine.run at ran
    cases committed : machine.step state action with
    | ok next =>
      rw [committed] at ran
      exact inductionHypothesis (.step reached (now state) committed) ran later
    | error refusal =>
      rw [committed] at ran
      cases ran

theorem Reachable.run
    (reached : machine.Reachable state) (ran : machine.run state actions = .ok final) :
    machine.Reachable final :=
  ReachableWhen.run reached ran fun _ _ _ => trivial

/-- The last state of a run whose operations are all committed and pass a check. -/
def checkedRun (machine : Machine State Action Refusal) (passes : State → Action → Bool)
    (state : State) : List Action → Option State
  | [] => some state
  | action :: rest =>
    if passes state action then
      match machine.step state action with
      | .ok next => checkedRun machine passes next rest
      | .error _ => none
    else none

/-- A checked run ends in a state that is reached under what the check ensures. -/
theorem ReachableWhen.checkedRun {meets : State → Action → Prop} {passes : State → Action → Bool}
    (reached : machine.ReachableWhen meets state)
    (ensures : ∀ before action, passes before action = true → meets before action)
    (ran : machine.checkedRun passes state actions = some final) :
    machine.ReachableWhen meets final := by
  induction actions generalizing state with
  | nil =>
    obtain rfl := Option.some.inj ran
    exact reached
  | cons action rest inductionHypothesis =>
    unfold Machine.checkedRun at ran
    split at ran
    · rename_i passed
      split at ran
      · rename_i next committed
        exact inductionHypothesis (.step reached (ensures state action passed) committed) ran
      · cases ran
    · cases ran

/-- What a run commits, seen through an observation of its last state. -/
theorem run_ok_of_observed {Seen : Type*} {observe : State → Seen} {seen : Seen}
    (observed : (machine.run state actions).toOption.map observe = some seen) :
    ∃ final, machine.run state actions = .ok final ∧ observe final = seen := by
  cases outcome : machine.run state actions with
  | error refusal =>
    rw [outcome] at observed
    cases observed
  | ok final =>
    rw [outcome] at observed
    exact ⟨final, rfl, Option.some.inj observed⟩

end Machine

end CareerOS
