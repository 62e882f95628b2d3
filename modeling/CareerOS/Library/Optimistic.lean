/-
This file is the general theory of compare-and-swap on a version counter. Any
number of clients work on one shared state. A client first reads the state, and
later, after any number of steps of the others, tries to write: its request
names the version it expects, is planned on the state it read, and is committed
on the state that is current by then. The attempt may only succeed when the
current version is the expected one, and a success advances the version by one.

Three things follow for every interleaving. A client that succeeds read exactly
the state it wrote over, so an interleaving is a sequential run of its accepted
requests. No two accepted requests expected the same version. A refused attempt
leaves the shared state alone.
-/

import CareerOS.Library.Machine

namespace CareerOS

/-- Writers of one shared state that carry an expected version. -/
structure Optimistic (State Request Refusal : Type*) where
  /-- The version counter of the state. -/
  version : State → Nat
  /-- The version a request expects. -/
  expected : Request → Nat
  /-- The outcome of a request planned on the state it read and committed on the current one. -/
  attempt : Request → State → State → Except Refusal State
  /-- The compare-and-swap. -/
  attempt_version : ∀ {request seen current next},
    attempt request seen current = .ok next →
      version current = expected request ∧ version next = version current + 1
  /-- A success over a version other than the one read did not use what it read. -/
  attempt_stale : ∀ {request seen current next},
    attempt request seen current = .ok next → version seen ≠ version current →
      attempt request current current = .ok next

namespace Optimistic

variable {State Request Refusal Client : Type*}

/-- The shared state, what each client has read and not yet tried to write, and the requests
accepted so far, newest first. -/
structure Session (State Request Client : Type*) where
  current : State
  inFlight : Client → Option (Request × State)
  accepted : List Request

/-- What a client can do next. -/
inductive Event (Request Client : Type*)
  /-- A client sends a request, which reads the current state. -/
  | receive (client : Client) (request : Request)
  /-- The client's request tries to commit. -/
  | finish (client : Client)
  /-- The client goes away. -/
  | abandon (client : Client)

namespace Session

/-- The session in which nobody has read anything yet. -/
def start (state : State) : Session State Request Client where
  current := state
  inFlight := fun _ => none
  accepted := []

/-- Record what one client has in flight. -/
def setFlight [DecidableEq Client] (session : Session State Request Client) (client : Client)
    (flight : Option (Request × State)) : Session State Request Client :=
  { session with inFlight := Function.update session.inFlight client flight }

end Session

variable (protocol : Optimistic State Request Refusal)

/-- One client at a time: a request is planned on the state it is committed on. -/
def sequential (initial : State → Prop) : Machine State Request Refusal where
  initial := initial
  step := fun state request => protocol.attempt request state state

/-- Every snapshot in flight is of an earlier version, or is the current state. -/
def SnapshotsFresh (session : Session State Request Client) : Prop :=
  ∀ client request seen, session.inFlight client = some (request, seen) →
    protocol.version seen ≤ protocol.version session.current ∧
      (protocol.version seen = protocol.version session.current → seen = session.current)

/-- The accepted requests expected pairwise different versions, all already passed. -/
def AcceptedDistinct (session : Session State Request Client) : Prop :=
  (session.accepted.map protocol.expected).Nodup ∧
    ∀ request ∈ session.accepted, protocol.expected request < protocol.version session.current

variable {session : Session State Request Client}

/-- Planned on a fresh snapshot, a success is the same success planned on the current state. -/
theorem attempt_current
    (fresh : protocol.SnapshotsFresh session) {client : Client} {request : Request}
    {seen next : State} (found : session.inFlight client = some (request, seen))
    (committed : protocol.attempt request seen session.current = .ok next) :
    protocol.attempt request session.current session.current = .ok next := by
  by_cases same : protocol.version seen = protocol.version session.current
  · rwa [← (fresh client request seen found).2 same] at committed ⊢
  · exact protocol.attempt_stale committed same

variable [DecidableEq Client]

/-- One event of a session. -/
def advance (session : Session State Request Client) :
    Event Request Client → Session State Request Client
  | .receive client request => session.setFlight client (some (request, session.current))
  | .abandon client => session.setFlight client none
  | .finish client =>
    match session.inFlight client with
    | none => session
    | some (request, seen) =>
      match protocol.attempt request seen session.current with
      | .error _ => session.setFlight client none
      | .ok next =>
        { session.setFlight client none with
          current := next
          accepted := request :: session.accepted }

variable (Client) in
/-- The sessions of some clients over a shared state that starts in one of the given states. -/
def sessions (initial : State → Prop) :
    Machine (Session State Request Client) (Event Request Client) Refusal where
  initial := fun session => ∃ state, initial state ∧ session = Session.start state
  step := fun session event => .ok (protocol.advance session event)

/-! ### What a reader knows -/

theorem snapshotsFresh_setFlight (fresh : protocol.SnapshotsFresh session) (client : Client)
    (flight : Option (Request × State))
    (now : ∀ request seen, flight = some (request, seen) → seen = session.current) :
    protocol.SnapshotsFresh (session.setFlight client flight) := by
  intro other request seen found
  by_cases same : other = client
  · subst same
    simp only [Session.setFlight, Function.update_self] at found
    rw [now request seen found]
    exact ⟨le_rfl, fun _ => rfl⟩
  · simp only [Session.setFlight, Function.update_of_ne same] at found
    exact fresh other request seen found

theorem snapshotsFresh_commit
    (fresh : protocol.SnapshotsFresh session) (client : Client) (next : State)
    (accepted : List Request)
    (newer : protocol.version session.current < protocol.version next) :
    protocol.SnapshotsFresh
      { session.setFlight client none with current := next, accepted := accepted } := by
  intro other request seen found
  have before := snapshotsFresh_setFlight protocol fresh client none
    (fun _ _ impossible => by cases impossible) other request seen found
  have older : protocol.version seen < protocol.version next := lt_of_le_of_lt before.1 newer
  exact ⟨older.le, fun equal => absurd equal older.ne⟩

/-- A session keeps its snapshots fresh. -/
theorem snapshotsFresh_advance
    (fresh : protocol.SnapshotsFresh session) (event : Event Request Client) :
    protocol.SnapshotsFresh (protocol.advance session event) := by
  cases event with
  | receive client request =>
    refine snapshotsFresh_setFlight protocol fresh client _ fun _ _ equal => ?_
    cases equal
    rfl
  | abandon client =>
    exact snapshotsFresh_setFlight protocol fresh client none fun _ _ equal => by cases equal
  | finish client =>
    simp only [advance]
    split
    · exact fresh
    · split
      · exact snapshotsFresh_setFlight protocol fresh client none fun _ _ equal => by cases equal
      · rename_i next committed
        refine snapshotsFresh_commit protocol fresh client next _ ?_
        rw [(protocol.attempt_version committed).2]
        exact Nat.lt_succ_self _

/-! ### Every interleaving is a sequential run -/

/-- What one event does to the shared state: nothing, or one sequential step whose request is
the newest accepted one. -/
theorem advance_current (fresh : protocol.SnapshotsFresh session) (event : Event Request Client) :
    ((protocol.advance session event).current = session.current ∧
        (protocol.advance session event).accepted = session.accepted) ∨
      ∃ request, protocol.attempt request session.current session.current =
          .ok (protocol.advance session event).current ∧
        (protocol.advance session event).accepted = request :: session.accepted := by
  cases event with
  | receive client request => exact Or.inl ⟨rfl, rfl⟩
  | abandon client => exact Or.inl ⟨rfl, rfl⟩
  | finish client =>
    simp only [advance]
    split
    · exact Or.inl ⟨rfl, rfl⟩
    · rename_i request seen found
      split
      · exact Or.inl ⟨rfl, rfl⟩
      · rename_i next committed
        exact Or.inr ⟨request, protocol.attempt_current fresh found committed, rfl⟩

theorem acceptedDistinct_advance
    (fresh : protocol.SnapshotsFresh session) (distinct : protocol.AcceptedDistinct session)
    (event : Event Request Client) :
    protocol.AcceptedDistinct (protocol.advance session event) := by
  rcases protocol.advance_current fresh event with ⟨sameState, sameLog⟩ | ⟨request, committed, log⟩
  · unfold AcceptedDistinct
    rw [sameState, sameLog]
    exact distinct
  · obtain ⟨versionWas, versionIs⟩ := protocol.attempt_version committed
    have passed : ∀ old ∈ session.accepted, protocol.expected old < protocol.expected request :=
      fun old member => versionWas ▸ distinct.2 old member
    unfold AcceptedDistinct
    rw [log, versionIs]
    refine ⟨?_, fun old member => ?_⟩
    · rw [List.map_cons, List.nodup_cons]
      refine ⟨fun repeated => ?_, distinct.1⟩
      obtain ⟨old, member, equal⟩ := List.mem_map.mp repeated
      exact absurd equal (passed old member).ne
    · rcases List.mem_cons.mp member with rfl | inside
      · rw [versionWas]
        exact Nat.lt_succ_self _
      · exact Nat.lt_succ_of_lt (distinct.2 old inside)

/-- In every reachable session the shared state is one a sequential run reaches, the snapshots
are fresh and no expected version was accepted twice. -/
theorem sessions_reachable {initial : State → Prop}
    (reached : (protocol.sessions Client initial).Reachable session) :
    (protocol.sequential initial).Reachable session.current ∧
      protocol.SnapshotsFresh session ∧ protocol.AcceptedDistinct session := by
  refine reached.invariant (fun session =>
    (protocol.sequential initial).Reachable session.current ∧
      protocol.SnapshotsFresh session ∧ protocol.AcceptedDistinct session) ?_ ?_
  · rintro _ ⟨state, starts, rfl⟩
    refine ⟨.initial starts, fun _ _ _ impossible => ?_, List.nodup_nil, fun _ member => ?_⟩
    · cases impossible
    · cases member
  · rintro before event after ⟨run, fresh, distinct⟩ _ committed
    cases committed
    refine ⟨?_, protocol.snapshotsFresh_advance fresh event,
      protocol.acceptedDistinct_advance fresh distinct event⟩
    rcases protocol.advance_current fresh event with ⟨sameState, _⟩ | ⟨request, accepted, _⟩
    · rw [sameState]
      exact run
    · exact .step run trivial accepted

/-- Any further events lead from a reachable session to a reachable one. -/
theorem reachable_events {initial : State → Prop}
    (reached : (protocol.sessions Client initial).Reachable session)
    (events : List (Event Request Client)) :
    (protocol.sessions Client initial).Reachable (events.foldl protocol.advance session) := by
  induction events generalizing session with
  | nil => exact reached
  | cons event rest inductionHypothesis =>
    exact inductionHypothesis (.step reached trivial rfl)

/-- A refused attempt leaves the shared state and the accepted requests as they were. -/
theorem advance_refused {client : Client} {request : Request} {seen : State} {refusal : Refusal}
    (found : session.inFlight client = some (request, seen))
    (refused : protocol.attempt request seen session.current = .error refusal) :
    (protocol.advance session (.finish client)).current = session.current ∧
      (protocol.advance session (.finish client)).accepted = session.accepted := by
  simp only [advance, found, refused]
  exact ⟨rfl, rfl⟩

end Optimistic

end CareerOS
