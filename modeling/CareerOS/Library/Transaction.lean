/-
This file is what a program does to a database inside one session. The session
sees the committed rows and, once it has written, its own uncommitted ones. Each
statement may be failed by the database, and which ones are is not up to the
program: a run is given a choice of the statements that fail, so that "whatever
step fails" is a statement about all choices. What a program leaves behind when
its session closes is the committed rows.

A program that only flushes never moves the committed rows. A program that
commits as its last statement either succeeds or leaves them as they were.
-/

import Mathlib

namespace CareerOS

/-- What one session sees of a database. -/
structure Store (State : Type) where
  committed : State
  /-- The rows with the writes of the open transaction. -/
  working : State
  /-- How many statements the session has run. -/
  executed : Nat

/-- A program in a session, given which of its statements the database fails. -/
def Transaction (State Refusal Value : Type) : Type :=
  (Nat → Bool) → Store State → Except Refusal Value × Store State

namespace Transaction

variable {State Part Refusal Other First Second Value : Type}

/-- A session that begins on committed rows. -/
def openOn (state : State) : Store State := ⟨state, state, 0⟩

theorem fresh_openOn (state : State) : (openOn state).working = (openOn state).committed := rfl

instance : Monad (Transaction State Refusal) where
  pure value := fun _ store => (.ok value, store)
  bind first rest := fun failing store =>
    match first failing store with
    | (.ok value, next) => rest value failing next
    | (.error refusal, next) => (.error refusal, next)

/-- A computation outside of the database. -/
def ofExcept (outcome : Except Refusal Value) : Transaction State Refusal Value :=
  fun _ store => (outcome, store)

def refuse (refusal : Refusal) : Transaction State Refusal Value := ofExcept (.error refusal)

/-- Refuse when the condition holds. -/
def refuseIf (condition : Prop) [Decidable condition] (refusal : Refusal) :
    Transaction State Refusal Unit :=
  if condition then refuse refusal else pure ()

/-- One statement on the working rows. A statement that fails writes nothing. -/
def statement (failure : Refusal) (run : State → Except Refusal (Value × State)) :
    Transaction State Refusal Value := fun failing store =>
  let counted := { store with executed := store.executed + 1 }
  if failing store.executed then (.error failure, counted)
  else
    match run store.working with
    | .error refusal => (.error refusal, counted)
    | .ok (value, working) => (.ok value, { counted with working := working })

/-- A query. -/
def read (failure : Refusal) (query : State → Value) : Transaction State Refusal Value :=
  statement failure fun working => .ok (query working, working)

/-- A write that touches every row it matches. -/
def write (failure : Refusal) (change : State → State) : Transaction State Refusal Unit :=
  statement failure fun working => .ok ((), change working)

/-- `db.commit()`. -/
def commit (failure : Refusal) : Transaction State Refusal Unit := fun failing store =>
  let counted := { store with executed := store.executed + 1 }
  if failing store.executed then (.error failure, counted)
  else (.ok (), { counted with committed := store.working })

/-- `db.rollback()`. -/
def rollback : Transaction State Refusal Unit := fun _ store =>
  (.ok (), { store with working := store.committed })

/-- `db.begin_nested()`: what the body wrote is taken back when it is refused in the way that
can be recovered from. -/
def savepoint (recoverable : Refusal → Bool) (body recovery : Transaction State Refusal Value) :
    Transaction State Refusal Value := fun failing store =>
  match body failing store with
  | (.ok value, next) => (.ok value, next)
  | (.error refusal, next) =>
    if recoverable refusal then recovery failing { next with working := store.working }
    else (.error refusal, next)

/-- `except: db.rollback()`, with the refusal that is raised instead. -/
def rollingBack (convert : Refusal → Other) (body : Transaction State Refusal Value) :
    Transaction State Other Value := fun failing store =>
  match body failing store with
  | (.ok value, next) => (.ok value, next)
  | (.error refusal, next) => (.error (convert refusal), { next with working := next.committed })

/-- A program over a part of the rows. -/
def zoom (view : State → Part) (update : Part → State → State)
    (program : Transaction Part Refusal Value) : Transaction State Refusal Value :=
  fun failing store =>
    let (outcome, next) := program failing ⟨view store.committed, view store.working, store.executed⟩
    (outcome, ⟨update next.committed store.committed, update next.working store.working,
      next.executed⟩)

/-- One program for each item of a list, with an accumulator. -/
def foldItems {Item : Type} (program : Value → Item → Transaction State Refusal Value)
    (accumulated : Value) : List Item → Transaction State Refusal Value
  | [] => pure accumulated
  | item :: rest => do
    let next ← program accumulated item
    foldItems program next rest

/-! ### A program that succeeds -/

variable {first : Transaction State Refusal First} {rest : First → Transaction State Refusal Second}

variable {failure : Refusal}

section

variable {failing : Nat → Bool} {store final : Store State} {value : Value}

theorem run_bind_error {refusal : Refusal} (ran : first failing store = (.error refusal, final)) :
    (first >>= rest) failing store = (.error refusal, final) := by
  show (match first failing store with
    | (.ok value, next) => rest value failing next
    | (.error refusal, next) => (.error refusal, next)) = _
  rw [ran]

theorem run_bind_ok (rest : First → Transaction State Refusal Second) {value : First}
    (ran : first failing store = (.ok value, final)) :
    (first >>= rest) failing store = rest value failing final := by
  show (match first failing store with
    | (.ok value, next) => rest value failing next
    | (.error refusal, next) => (.error refusal, next)) = _
  rw [ran]

theorem bind_ok_iff {value : Second} :
    (first >>= rest) failing store = (.ok value, final) ↔
      ∃ result next, first failing store = (.ok result, next) ∧
        rest result failing next = (.ok value, final) := by
  rcases ran : first failing store with ⟨refusal | result, next⟩
  · rw [run_bind_error ran]
    constructor
    · intro impossible
      cases impossible
    · rintro ⟨_, _, impossible, -⟩
      cases impossible
  · rw [run_bind_ok rest ran]
    constructor
    · exact fun succeeded => ⟨result, next, rfl, succeeded⟩
    · rintro ⟨_, _, same, succeeded⟩
      cases same
      exact succeeded

theorem pure_ok_iff {result : Value} :
    (pure result : Transaction State Refusal Value) failing store = (.ok value, final) ↔
      result = value ∧ store = final := by
  show (Except.ok result, store) = (.ok value, final) ↔ _
  rw [Prod.mk.injEq, Except.ok.injEq]

theorem ofExcept_ok_iff {outcome : Except Refusal Value} :
    (ofExcept outcome : Transaction State Refusal Value) failing store = (.ok value, final) ↔
      outcome = .ok value ∧ store = final :=
  Prod.mk.injEq _ _ _ _ ▸ Iff.rfl

theorem refuseIf_ok_iff {condition : Prop} [Decidable condition] {refusal : Refusal}
    {value : Unit} :
    (refuseIf condition refusal : Transaction State Refusal Unit) failing store =
      (.ok value, final) ↔ ¬condition ∧ store = final := by
  unfold refuseIf
  split
  · rename_i refused
    refine ⟨fun impossible => ?_, fun both => absurd refused both.1⟩
    cases impossible
  · rename_i accepted
    rw [pure_ok_iff]
    exact ⟨fun both => ⟨accepted, both.2⟩, fun both => ⟨rfl, both.2⟩⟩

theorem statement_ok_iff {run : State → Except Refusal (Value × State)} :
    statement failure run failing store = (.ok value, final) ↔
      failing store.executed = false ∧ ∃ working, run store.working = .ok (value, working) ∧
        final = ⟨store.committed, working, store.executed + 1⟩ := by
  unfold statement
  cases failing store.executed with
  | true =>
    rw [if_pos rfl]
    constructor
    · intro impossible
      cases impossible
    · rintro ⟨impossible, -⟩
      cases impossible
  | false =>
    rw [if_neg (by decide)]
    rcases run store.working with refusal | ⟨result, working⟩
    · constructor
      · intro impossible
        cases impossible
      · rintro ⟨-, _, impossible, -⟩
        cases impossible
    · constructor
      · intro same
        cases same
        exact ⟨rfl, working, rfl, rfl⟩
      · rintro ⟨-, _, same, rfl⟩
        cases same
        rfl

theorem read_ok_iff {query : State → Value} :
    read failure query failing store = (.ok value, final) ↔
      failing store.executed = false ∧ query store.working = value ∧
        final = ⟨store.committed, store.working, store.executed + 1⟩ := by
  unfold read
  rw [statement_ok_iff]
  constructor
  · rintro ⟨healthy, working, same, rfl⟩
    cases same
    exact ⟨healthy, rfl, rfl⟩
  · rintro ⟨healthy, rfl, rfl⟩
    exact ⟨healthy, _, rfl, rfl⟩

theorem commit_ok_iff {value : Unit} :
    (commit failure : Transaction State Refusal Unit) failing store = (.ok value, final) ↔
      failing store.executed = false ∧
        final = ⟨store.working, store.working, store.executed + 1⟩ := by
  unfold commit
  cases failing store.executed with
  | true =>
    rw [if_pos rfl]
    constructor
    · intro impossible
      cases impossible
    · rintro ⟨impossible, -⟩
      cases impossible
  | false =>
    rw [if_neg (by decide)]
    constructor
    · intro same
      cases same
      exact ⟨rfl, rfl⟩
    · rintro ⟨-, rfl⟩
      rfl

/-- A program over a part of the rows leaves the other rows to the rest of the program. -/
theorem zoom_ok_iff {view : State → Part} {update : Part → State → State}
    {program : Transaction Part Refusal Value} :
    zoom view update program failing store = (.ok value, final) ↔
      ∃ next, program failing ⟨view store.committed, view store.working, store.executed⟩ =
          (.ok value, next) ∧
        final = ⟨update next.committed store.committed, update next.working store.working,
          next.executed⟩ := by
  unfold zoom
  rcases program failing ⟨view store.committed, view store.working, store.executed⟩ with
    ⟨outcome, next⟩
  constructor
  · intro same
    cases same
    exact ⟨next, rfl, rfl⟩
  · rintro ⟨_, same, rfl⟩
    cases same
    rfl

end

/-! ### A program that only flushes -/

/-- Whatever fails, the program leaves the committed rows alone. -/
def FlushOnly (program : Transaction State Refusal Value) : Prop :=
  ∀ failing store, (program failing store).2.committed = store.committed

/-- A refusal leaves the committed rows alone. -/
def Atomic (program : Transaction State Refusal Value) : Prop :=
  ∀ failing store refusal, (program failing store).1 = .error refusal →
    (program failing store).2.committed = store.committed

variable {program : Transaction State Refusal Value}

theorem FlushOnly.atomic (flushes : FlushOnly program) : Atomic program :=
  fun failing store _ _ => flushes failing store

theorem flushOnly_ofExcept (outcome : Except Refusal Value) :
    FlushOnly (ofExcept outcome : Transaction State Refusal Value) :=
  fun _ _ => rfl

theorem flushOnly_rollback : FlushOnly (rollback : Transaction State Refusal Unit) :=
  fun _ _ => rfl

theorem flushOnly_pure (value : Value) :
    FlushOnly (pure value : Transaction State Refusal Value) :=
  fun _ _ => rfl

theorem flushOnly_refuseIf (condition : Prop) [Decidable condition] (refusal : Refusal) :
    FlushOnly (refuseIf condition refusal : Transaction State Refusal Unit) := by
  unfold refuseIf
  split
  · exact flushOnly_ofExcept _
  · exact flushOnly_pure _

theorem flushOnly_statement (failure : Refusal) (run : State → Except Refusal (Value × State)) :
    FlushOnly (statement failure run) := by
  intro failing store
  unfold statement
  split
  · rfl
  · split <;> rfl

theorem flushOnly_read (failure : Refusal) (query : State → Value) :
    FlushOnly (read failure query) :=
  flushOnly_statement _ _

theorem flushOnly_write (failure : Refusal) (change : State → State) :
    FlushOnly (write failure change) :=
  flushOnly_statement _ _

theorem FlushOnly.bind (before : FlushOnly first)
    (after : ∀ value, FlushOnly (rest value)) : FlushOnly (first >>= rest) := by
  intro failing store
  have here := before failing store
  rcases ran : first failing store with ⟨refusal | value, next⟩
  · rw [ran] at here
    rw [run_bind_error ran]
    exact here
  · rw [ran] at here
    rw [run_bind_ok rest ran]
    exact (after value failing next).trans here

theorem FlushOnly.savepoint {recoverable : Refusal → Bool}
    {body recovery : Transaction State Refusal Value} (flushes : FlushOnly body)
    (recovers : FlushOnly recovery) : FlushOnly (savepoint recoverable body recovery) := by
  intro failing store
  have here := flushes failing store
  unfold Transaction.savepoint
  rcases ran : body failing store with ⟨refusal | value, next⟩
  · rw [ran] at here
    dsimp only
    split
    · exact (recovers failing _).trans here
    · exact here
  · rw [ran] at here
    exact here

theorem FlushOnly.zoom {view : State → Part} {update : Part → State → State}
    (same : ∀ state, update (view state) state = state)
    {program : Transaction Part Refusal Value} (flushes : FlushOnly program) :
    FlushOnly (zoom view update program) := by
  intro failing store
  have here := flushes failing ⟨view store.committed, view store.working, store.executed⟩
  unfold Transaction.zoom
  show update _ store.committed = store.committed
  rw [here]
  exact same store.committed

theorem FlushOnly.foldItems {Item : Type}
    {program : Value → Item → Transaction State Refusal Value}
    (flushes : ∀ accumulated item, FlushOnly (program accumulated item)) (accumulated : Value)
    (items : List Item) : FlushOnly (foldItems program accumulated items) := by
  induction items generalizing accumulated with
  | nil => exact flushOnly_pure _
  | cons item rest inductionHypothesis =>
    exact (flushes accumulated item).bind fun next => inductionHypothesis next

/-! ### A program that only reads -/

/-- Whatever fails, the program leaves all rows alone. -/
def ReadOnly (program : Transaction State Refusal Value) : Prop :=
  ∀ failing store, (program failing store).2.committed = store.committed ∧
    (program failing store).2.working = store.working

theorem ReadOnly.flushOnly (reads : ReadOnly program) : FlushOnly program :=
  fun failing store => (reads failing store).1

theorem readOnly_ofExcept (outcome : Except Refusal Value) :
    ReadOnly (ofExcept outcome : Transaction State Refusal Value) :=
  fun _ _ => ⟨rfl, rfl⟩

theorem readOnly_pure (value : Value) :
    ReadOnly (pure value : Transaction State Refusal Value) :=
  fun _ _ => ⟨rfl, rfl⟩

theorem readOnly_refuseIf (condition : Prop) [Decidable condition] (refusal : Refusal) :
    ReadOnly (refuseIf condition refusal : Transaction State Refusal Unit) := by
  unfold refuseIf
  split
  · exact readOnly_ofExcept _
  · exact readOnly_pure _

theorem readOnly_read (failure : Refusal) (query : State → Value) :
    ReadOnly (read failure query) := by
  intro failing store
  unfold read statement
  split
  · exact ⟨rfl, rfl⟩
  · exact ⟨rfl, rfl⟩

theorem ReadOnly.bind (before : ReadOnly first)
    (after : ∀ value, ReadOnly (rest value)) : ReadOnly (first >>= rest) := by
  intro failing store
  have here := before failing store
  rcases ran : first failing store with ⟨refusal | value, next⟩
  · rw [ran] at here
    rw [run_bind_error ran]
    exact here
  · rw [ran] at here
    rw [run_bind_ok rest ran]
    have there := after value failing next
    exact ⟨there.1.trans here.1, there.2.trans here.2⟩

/-- A program that only reads goes on over the rows it began with. -/
theorem ReadOnly.ran (reads : ReadOnly program)
    {failing : Nat → Bool} {store next : Store State} {outcome : Except Refusal Value}
    (run : program failing store = (outcome, next)) :
    next.committed = store.committed ∧ next.working = store.working := by
  have here := reads failing store
  rwa [run] at here

/-! ### A program that commits last -/

theorem atomic_commit (failure : Refusal) :
    Atomic (commit failure : Transaction State Refusal Unit) := by
  intro failing store refusal refused
  unfold commit at refused ⊢
  split
  · rfl
  · rename_i healthy
    rw [if_neg healthy] at refused
    cases refused

/-- Flushing before a program that commits last. -/
theorem FlushOnly.bind_atomic
    (before : FlushOnly first)
    (after : ∀ value, Atomic (rest value)) : Atomic (first >>= rest) := by
  intro failing store refusal
  have here := before failing store
  rcases ran : first failing store with ⟨_ | value, next⟩
  · rw [ran] at here
    rw [run_bind_error ran]
    exact fun _ => here
  · rw [ran] at here
    rw [run_bind_ok rest ran]
    exact fun refused => (after value failing next refusal refused).trans here

/-- Nothing fails after a commit that is the last statement. -/
theorem atomic_commit_pure (failure : Refusal) (value : Value) :
    Atomic (commit failure >>= fun _ => pure value : Transaction State Refusal Value) := by
  intro failing store refusal
  rcases ran : commit failure failing store with ⟨_ | done, next⟩
  · rw [run_bind_error ran]
    have kept := atomic_commit failure failing store
    rw [ran] at kept
    exact fun _ => kept _ rfl
  · rw [run_bind_ok _ ran]
    intro impossible
    cases impossible

theorem Atomic.rollingBack {convert : Refusal → Other} {body : Transaction State Refusal Value}
    (atomic : Atomic body) : Atomic (rollingBack convert body) := by
  intro failing store refusal
  have kept := atomic failing store
  unfold Transaction.rollingBack
  rcases ran : body failing store with ⟨_ | value, next⟩
  · rw [ran] at kept
    exact fun _ => kept _ rfl
  · intro impossible
    cases impossible

/-! ### What a session leaves behind -/

/-- The committed rows a run of the program ends with have a property. -/
def Leaves (program : Transaction State Refusal Value) (failing : Nat → Bool)
    (store : Store State) (property : State → Prop) : Prop :=
  property (program failing store).2.committed

section

variable {failing : Nat → Bool} {store : Store State} {property : State → Prop}

/-- A program that only flushes leaves what was committed. -/
theorem FlushOnly.leaves (flushes : FlushOnly program) (holds : property store.committed) :
    Leaves program failing store property := by
  unfold Leaves
  rw [flushes failing store]
  exact holds

/-- After a part that only flushes, the rest runs over the same committed rows. -/
theorem FlushOnly.bind_leaves
    (flushes : FlushOnly first) (holds : property store.committed)
    (goesOn : ∀ value next, first failing store = (.ok value, next) →
      next.committed = store.committed → Leaves (rest value) failing next property) :
    Leaves (first >>= rest) failing store property := by
  have here := flushes failing store
  unfold Leaves
  rcases ran : first failing store with ⟨refusal | value, next⟩
  · rw [ran] at here
    rw [run_bind_error ran]
    exact here ▸ holds
  · rw [ran] at here
    rw [run_bind_ok rest ran]
    exact goesOn value next ran here

/-- A commit leaves the working rows, or what was committed before. -/
theorem commit_bind_leaves {rest : Unit → Transaction State Refusal Second}
    (flushes : ∀ value, FlushOnly (rest value)) (holds : property store.committed)
    (published : property store.working) :
    Leaves (commit failure >>= rest) failing store property := by
  unfold Leaves
  rcases ran : commit failure failing store with ⟨refusal | value, next⟩
  · rw [run_bind_error ran]
    have here := atomic_commit failure failing store refusal (congrArg Prod.fst ran)
    rw [ran] at here
    exact here ▸ holds
  · obtain ⟨-, rfl⟩ := commit_ok_iff.mp ran
    rw [run_bind_ok rest ran, flushes value failing]
    exact published

theorem Leaves.rollingBack {convert : Refusal → Other} {body : Transaction State Refusal Value}
    (leaves : Leaves body failing store property) :
    Leaves (rollingBack convert body) failing store property := by
  unfold Leaves Transaction.rollingBack at *
  rcases ran : body failing store with ⟨_ | value, next⟩
  · rw [ran] at leaves
    exact leaves
  · rw [ran] at leaves
    exact leaves

end

end Transaction

end CareerOS
