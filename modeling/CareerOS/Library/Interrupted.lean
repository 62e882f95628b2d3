/-
This file fixes what it means to stop a program between two of its steps. A
program is run in hazards: before each of its steps others may change the
state, and a step may be refused by the system. A run lists the states in which
the process may stop; its ending is a result or a failure that a handler sees.

A contract of a program bounds all three: the states it may stop in, what it
returns and what it leaves when it fails. Contracts compose along the program,
so a crash at any step of a long program is settled step by step.
-/

import Mathlib

namespace CareerOS

/-- What a run meets, by the number of the step. -/
structure Hazards (State : Type) where
  /-- What others do before the step. -/
  interference : Nat → State → State
  /-- Does the system refuse the step? -/
  refuses : Nat → Bool

/-- A run in which nobody else acts and no step is refused. -/
def Hazards.calm (State : Type) : Hazards State where
  interference _ state := state
  refuses _ := false

/-- One run: where it may stop, how it ends, what it leaves and how many steps it took. -/
structure Course (State Failure Result : Type) where
  stops : List State
  ending : Except Failure Result
  state : State
  clock : Nat

/-- A program. -/
def Program (State Failure Result : Type) : Type :=
  Hazards State → Nat → State → Course State Failure Result

namespace Program

variable {State Failure Result Other : Type}

/-- Return a value. -/
def done (value : Result) : Program State Failure Result :=
  fun _ clock state => ⟨[], .ok value, state, clock⟩

/-- Fail. -/
def fail (failure : Failure) : Program State Failure Result :=
  fun _ clock state => ⟨[], .error failure, state, clock⟩

/-- Go on with the result. -/
def andThen (first : Program State Failure Result)
    (rest : Result → Program State Failure Other) : Program State Failure Other :=
  fun hazards clock state =>
    let course := first hazards clock state
    match course.ending with
    | .ok value =>
      let next := rest value hazards course.clock course.state
      ⟨course.stops ++ next.stops, next.ending, next.state, next.clock⟩
    | .error failure => ⟨course.stops, .error failure, course.state, course.clock⟩

instance : Monad (Program State Failure) where
  pure := done
  bind := andThen

/-- The ending of a program, as a value. -/
def attempt (program : Program State Failure Result) :
    Program State Other (Except Failure Result) :=
  fun hazards clock state =>
    let course := program hazards clock state
    ⟨course.stops, .ok course.ending, course.state, course.clock⟩

/-- What a computation without steps gives. -/
def ofExcept (outcome : Except Failure Result) : Program State Failure Result :=
  match outcome with
  | .ok value => done value
  | .error failure => fail failure

/-- Fail when a condition holds. -/
def refuseWhen (condition : Prop) [Decidable condition] (failure : Failure) :
    Program State Failure Unit :=
  if condition then fail failure else done ()

/-- One step. The process may stop before it; it fails as given when the system refuses it. -/
def act (refusal : Failure) (step : State → Except Failure (Result × State)) :
    Program State Failure Result :=
  fun hazards clock state =>
    let current := hazards.interference clock state
    if hazards.refuses clock then ⟨[current], .error refusal, current, clock + 1⟩
    else
      match step current with
      | .ok (value, next) => ⟨[current], .ok value, next, clock + 1⟩
      | .error failure => ⟨[current], .error failure, current, clock + 1⟩

/-- A step for each of the items, in their order. -/
def each {Item : Type} (items : List Item) (body : Item → Program State Failure Unit) :
    Program State Failure Unit :=
  match items with
  | [] => done ()
  | item :: rest => andThen (body item) fun _ => each rest body

/-- What a step for each of the items gives, in their order. -/
def collect {Item : Type} (items : List Item) (body : Item → Program State Failure Result) :
    Program State Failure (List Result) :=
  match items with
  | [] => done []
  | item :: rest =>
    andThen (body item) fun value => andThen (collect rest body) fun values =>
      done (value :: values)

variable {rest : Result → Program State Failure Other} {first : Program State Failure Result}

/-- Going on after a run that is known. -/
theorem andThen_of_ok {hazards : Hazards State} {clock : Nat}
    {state : State} {stops : List State} {value : Result} {next : State} {later : Nat}
    (known : first hazards clock state = ⟨stops, .ok value, next, later⟩) :
    andThen first rest hazards clock state =
      ⟨stops ++ (rest value hazards later next).stops, (rest value hazards later next).ending,
        (rest value hazards later next).state, (rest value hazards later next).clock⟩ := by
  unfold andThen
  rw [known]

/-! ### Contracts -/

/-- What a run may meet: the changes of others, and whether steps may be refused. -/
structure Setting (State : Type) where
  relies : State → State → Prop
  mayRefuse : Prop

/-- The hazards of a setting. -/
structure Setting.Admits (setting : Setting State) (hazards : Hazards State) : Prop where
  interferes : ∀ clock state, setting.relies state (hazards.interference clock state)
  refuses : ∀ clock, hazards.refuses clock = true → setting.mayRefuse

/-- A run stops, returns and fails as said. -/
def Keeps (stops : State → Prop) (returns : Result → State → Prop) (fails : Failure → State → Prop)
    (course : Course State Failure Result) : Prop :=
  (∀ stop ∈ course.stops, stops stop) ∧
    match course.ending with
    | .ok value => returns value course.state
    | .error failure => fails failure course.state

/-- The contract of a program: from the required states it stops, returns and fails as said. -/
def Meets (setting : Setting State) (requires : State → Prop)
    (program : Program State Failure Result) (stops : State → Prop)
    (returns : Result → State → Prop) (fails : Failure → State → Prop) : Prop :=
  ∀ hazards, setting.Admits hazards → ∀ clock state, requires state →
    Keeps stops returns fails (program hazards clock state)

variable {setting : Setting State} {requires stops : State → Prop}
  {returns : Result → State → Prop} {fails : Failure → State → Prop}

theorem meets_done {value : Result} (holds : ∀ state, requires state → returns value state) :
    Meets setting requires (done value) stops returns fails :=
  fun _ _ _ state required => ⟨fun _ member => absurd member List.not_mem_nil, holds state required⟩

theorem meets_refuseWhen {condition : Prop} [Decidable condition] {failure : Failure}
    (refused : ∀ state, requires state → condition → fails failure state) :
    Meets setting requires (refuseWhen condition failure) stops
      (fun _ state => requires state ∧ ¬condition) fails := by
  intro hazards _ clock state required
  unfold refuseWhen
  split
  · rename_i holds
    exact ⟨fun _ member => absurd member List.not_mem_nil, refused state required holds⟩
  · rename_i holds
    exact ⟨fun _ member => absurd member List.not_mem_nil, required, holds⟩

theorem meets_ofExcept {outcome : Except Failure Result}
    (refused : ∀ failure state, outcome = .error failure → requires state → fails failure state) :
    Meets setting requires (ofExcept outcome) stops
      (fun value state => requires state ∧ outcome = .ok value) fails := by
  intro hazards _ clock state required
  unfold ofExcept
  cases outcome with
  | ok value => exact ⟨fun _ member => absurd member List.not_mem_nil, required, rfl⟩
  | error failure =>
    exact ⟨fun _ member => absurd member List.not_mem_nil, refused failure state rfl required⟩

theorem meets_fail {failure : Failure} (holds : ∀ state, requires state → fails failure state) :
    Meets setting requires (fail failure) stops returns fails :=
  fun _ _ _ state required => ⟨fun _ member => absurd member List.not_mem_nil, holds state required⟩

/-- A run that goes on with a result. -/
theorem keeps_andThen {middle : Result → State → Prop}
    {finally_ : Other → State → Prop} {hazards : Hazards State} {clock : Nat}
    {state : State} (head : Keeps stops middle fails (first hazards clock state))
    (tail : ∀ value clock state, middle value state →
      Keeps stops finally_ fails (rest value hazards clock state)) :
    Keeps stops finally_ fails (andThen first rest hazards clock state) := by
  obtain ⟨stopped, ended⟩ := head
  unfold andThen
  dsimp only
  cases ending : (first hazards clock state).ending with
  | ok value =>
    rw [ending] at ended
    obtain ⟨later, last⟩ := tail value (first hazards clock state).clock _ ended
    exact ⟨List.forall_mem_append.mpr ⟨stopped, later⟩, last⟩
  | error failure =>
    rw [ending] at ended
    exact ⟨stopped, ended⟩

theorem meets_andThen (middle : Result → State → Prop) {finally_ : Other → State → Prop}
    (head : Meets setting requires first stops middle fails)
    (tail : ∀ value, Meets setting (middle value) (rest value) stops finally_ fails) :
    Meets setting requires (andThen first rest) stops finally_ fails :=
  fun hazards admitted clock state required =>
    keeps_andThen (head hazards admitted clock state required)
      fun value clock state holds => tail value hazards admitted clock state holds

variable {program : Program State Failure Result}

/-- The ending of a program as a value: both endings are returned. -/
theorem meets_attempt
    {returned : Except Failure Result → State → Prop} {failed : Other → State → Prop}
    (meets : Meets setting requires program stops (fun value => returned (.ok value))
      fun failure => returned (.error failure)) :
    Meets setting requires (attempt program) stops returned failed := by
  intro hazards admitted clock state required
  obtain ⟨stopped, ended⟩ := meets hazards admitted clock state required
  refine ⟨stopped, ?_⟩
  unfold attempt
  dsimp only
  cases ending : (program hazards clock state).ending with
  | ok value =>
    rw [ending] at ended
    exact ended
  | error failure =>
    rw [ending] at ended
    exact ended

/-- What a single step keeps to. -/
theorem meets_act {refusal : Failure} {step : State → Except Failure (Result × State)}
    (holds : ∀ before after, requires before → setting.relies before after →
      stops after ∧ (setting.mayRefuse → fails refusal after) ∧
        match step after with
        | .ok (value, next) => returns value next
        | .error failure => fails failure after) :
    Meets setting requires (act refusal step) stops returns fails := by
  intro hazards admitted clock state required
  obtain ⟨stopped, refused, stepped⟩ :=
    holds state _ required (admitted.interferes clock state)
  unfold act
  dsimp only
  split
  · rename_i refuses
    exact ⟨List.forall_mem_singleton.mpr stopped, refused (admitted.refuses clock refuses)⟩
  · cases ending : step (hazards.interference clock state) with
    | ok pair =>
      rw [ending] at stepped
      exact ⟨List.forall_mem_singleton.mpr stopped, stepped⟩
    | error failure =>
      rw [ending] at stepped
      exact ⟨List.forall_mem_singleton.mpr stopped, stepped⟩

/-- A contract may ask for more and promise less. -/
theorem Meets.mono {stronger weakerStops : State → Prop} {weaker : Result → State → Prop}
    {weakerFails : Failure → State → Prop}
    (meets : Meets setting requires program stops returns fails)
    (asks : ∀ state, stronger state → requires state)
    (stopped : ∀ state, stops state → weakerStops state)
    (returned : ∀ value state, returns value state → weaker value state)
    (failed : ∀ failure state, fails failure state → weakerFails failure state) :
    Meets setting stronger program weakerStops weaker weakerFails := by
  intro hazards admitted clock state required
  obtain ⟨stops, ended⟩ := meets hazards admitted clock state (asks state required)
  refine ⟨fun stop member => stopped stop (stops stop member), ?_⟩
  cases ending : (program hazards clock state).ending with
  | ok value =>
    rw [ending] at ended
    exact returned _ _ ended
  | error failure =>
    rw [ending] at ended
    exact failed _ _ ended

/-- A contract may ask for more. -/
theorem Meets.asking {stronger : State → Prop}
    (meets : Meets setting requires program stops returns fails)
    (asks : ∀ state, stronger state → requires state) :
    Meets setting stronger program stops returns fails :=
  meets.mono asks (fun _ stopped => stopped) (fun _ _ holds => holds) fun _ _ failed => failed

/-- A contract may promise less of what it returns. -/
theorem Meets.promising {weaker : Result → State → Prop}
    (meets : Meets setting requires program stops returns fails)
    (returned : ∀ value state, returns value state → weaker value state) :
    Meets setting requires program stops weaker fails :=
  meets.mono (fun _ holds => holds) (fun _ stopped => stopped) returned fun _ _ failed => failed

/-- A contract for each choice is one for some choice. -/
theorem meets_exists {Choice : Type} {chosen : Choice → State → Prop}
    (meets : ∀ choice, Meets setting (chosen choice) program stops returns fails) :
    Meets setting (fun state => ∃ choice, chosen choice state) program stops returns fails := by
  rintro hazards admitted clock state ⟨choice, required⟩
  exact meets choice hazards admitted clock state required

/-- What does not depend on the state may be assumed. -/
theorem meets_given {fact : Prop}
    (meets : fact → Meets setting requires program stops returns fails) :
    Meets setting (fun state => fact ∧ requires state) program stops returns fails := by
  rintro hazards admitted clock state ⟨holds, required⟩
  exact meets holds hazards admitted clock state required

/-- A loop keeps what holds after each of its items. -/
theorem meets_each {Item : Type} {items : List Item} {body : Item → Program State Failure Unit}
    (after : List Item → State → Prop)
    (step : ∀ front item, front ++ [item] <+: items →
      Meets setting (after front) (body item) stops (fun _ => after (front ++ [item])) fails) :
    Meets setting (after []) (each items body) stops (fun _ => after items) fails := by
  have loop : ∀ rest front, front ++ rest = items →
      Meets setting (after front) (each rest body) stops (fun _ => after items) fails := by
    intro rest
    induction rest with
    | nil =>
      intro front same
      rw [List.append_nil] at same
      rw [same]
      exact meets_done fun _ kept => kept
    | cons item rest inductionHypothesis =>
      intro front same
      have inside : front ++ [item] ++ rest = items := by rw [← same, List.append_assoc]; rfl
      exact meets_andThen _ (step front item ⟨rest, inside⟩)
        fun _ => inductionHypothesis (front ++ [item]) inside
  exact loop items [] rfl

/-- A loop that collects keeps what holds after each of its items. -/
theorem meets_collect {Item : Type} {items : List Item}
    {body : Item → Program State Failure Result}
    (after : List Item → List Result → State → Prop)
    (step : ∀ front values item, front ++ [item] <+: items →
      Meets setting (after front values) (body item) stops
        (fun value => after (front ++ [item]) (values ++ [value])) fails) :
    Meets setting (after [] []) (collect items body) stops (fun values => after items values)
      fails := by
  have loop : ∀ rest front values, front ++ rest = items →
      Meets setting (after front values) (collect rest body) stops
        (fun later => after items (values ++ later)) fails := by
    intro rest
    induction rest with
    | nil =>
      intro front values same
      rw [List.append_nil] at same
      rw [same]
      exact meets_done fun _ kept => by rwa [List.append_nil]
    | cons item rest inductionHypothesis =>
      intro front values same
      have inside : front ++ [item] ++ rest = items := by rw [← same, List.append_assoc]; rfl
      refine meets_andThen _ (step front values item ⟨rest, inside⟩) fun value => ?_
      refine meets_andThen _ (inductionHypothesis (front ++ [item]) (values ++ [value]) inside)
        fun later => ?_
      exact meets_done fun _ kept => by rwa [List.append_assoc] at kept
  exact loop items [] [] rfl

end Program

end CareerOS
