/-
This file is `lifecycle.rs` of the desktop application: the supervisor of the packaged
backend, the readiness monitor that each child gets, the graceful exit, and the forced
shutdown. They are threads of one process. Each holds a point, which stands before
the next access to something shared: the phase, the slot of the child, the restart
policy, a flag or the process job, each under its own lock. A step is one such access
of one thread, so a run is an arbitrary interleaving. The supervisor holds the lock of
the slot between its look at the shutdown flag and the installation of the child.

What comes from outside is part of the action: the clock, the answer of a probe, the
outcome of a spawn or of an assignment to a process job, the event of a child, and the
end of a process, which may come at any step.
-/

import CareerOS.Library.Machine

namespace CareerOS

/-! ### What the threads share -/

def maxRestarts : Nat := 2

inductive BackendPhase
  | spawning
  | waitingReady
  | ready
  | failed
  deriving DecidableEq

structure RestartPolicy where
  attempts : Nat
  maximum : Nat
  deriving DecidableEq

namespace RestartPolicy

def bounded (maximum : Nat) : RestartPolicy := ⟨0, maximum⟩

/-- Whether another attempt is allowed, which it then counts. -/
def registerFailure (policy : RestartPolicy) : Bool × RestartPolicy :=
  if policy.maximum ≤ policy.attempts then (false, policy)
  else (true, { policy with attempts := policy.attempts + 1 })

end RestartPolicy

/-- A spawned child: the how-many-eth it is, and the process identifier the system gave it,
which may have been that of an earlier child. -/
structure CommandChild where
  number : Nat
  processId : Nat
  deriving DecidableEq

/-- The events of a child that end the supervisor's wait. -/
inductive CommandEvent
  | terminated
  | error
  | closed
  deriving DecidableEq

/-! ### Where each thread is -/

/-- The next access of `start_backend_supervisor`. -/
inductive SupervisorPoint
  | readShuttingDown
  | setSpawning
  | findDirectory
  | spawn
  | countSpawnFailure
  | assignJob (child : CommandChild)
  | killUnassigned (child : CommandChild)
  | releaseUnassigned
  | lockChild (child : CommandChild)
  /-- The lock of the slot is held here. -/
  | installChild (child : CommandChild)
  | releaseLate (child : CommandChild)
  | killLate (child : CommandChild)
  | setWaiting (child : CommandChild)
  | startMonitor (child : CommandChild)
  | receive (child : CommandChild)
  | takeChild (child : CommandChild) (terminated : Bool)
  | releaseJob (taken : Option CommandChild) (terminated : Bool)
  | killTaken (child : CommandChild)
  | readShuttingDownAgain
  | countFailure
  | setFailed
  | clearRunning
  | stopped
  deriving DecidableEq

/-- The next access of a readiness monitor. -/
inductive MonitorPoint
  | notStarted
  | checkDeadline
  | probe
  | setReady
  | readShuttingDown
  | readPhase
  | takeChild
  | setFailed (taken : CommandChild)
  | releaseJob (taken : CommandChild)
  | killTaken (taken : CommandChild)
  | returned
  deriving DecidableEq

/-- The next access of a call of `force_shutdown`. -/
inductive ForcedPoint
  | notCalled
  | takeChild
  | releaseJob (taken : Option CommandChild)
  | killTaken (taken : CommandChild)
  | returned
  deriving DecidableEq

/-- Who calls `force_shutdown`: the graceful exit at its deadline, or the application's exit
event. -/
inductive ForcedCaller
  | gracefulExit
  | exitEvent (call : Nat)
  deriving DecidableEq

/-- The next access of the thread of `start_graceful_app_exit`. -/
inductive ExitPoint
  | notStarted
  | checkDeadline (requested : Bool)
  | readChild (requested : Bool)
  | readSupervisor (requested : Bool)
  | markObserved
  | readChildAgain (requested : Bool)
  | requestShutdown
  | forceShutdown
  | awaitForced
  | settle
  | markForced
  | exited (observed : Bool)
  deriving DecidableEq

/-- The lifecycle, where its threads are, and what has become of the children. -/
structure BackendLifecycle where
  phase : BackendPhase
  child : Option CommandChild
  restartPolicy : RestartPolicy
  shuttingDown : Bool
  supervisorRunning : Bool
  shutdownComplete : Bool
  /-- The child whose processes end when the job is closed. -/
  processJob : Option CommandChild
  supervisor : SupervisorPoint
  monitors : CommandChild → MonitorPoint
  exit : ExitPoint
  forced : ForcedCaller → ForcedPoint
  spawnAttempts : Nat
  spawned : List CommandChild
  killed : List CommandChild
  terminated : List CommandChild

/-- What happens next: an access of one thread, with what it learns from outside, or the end of
a process. -/
inductive LifecycleAction
  | supervise
  | findDirectory (found : Bool)
  | spawn (processId : Option Nat)
  | assignJob (assigned : Bool)
  | receive (event : CommandEvent)
  | monitor (child : CommandChild)
  | monitorDeadline (child : CommandChild) (expired : Bool)
  | probe (child : CommandChild) (ready : Bool)
  | startGracefulExit
  | exit
  | exitDeadline (expired : Bool)
  | requestShutdown (accepted : Bool)
  | forceShutdown (call : Nat)
  | forced (caller : ForcedCaller)
  | terminate (child : CommandChild)
  deriving DecidableEq

namespace BackendLifecycle

/-- `BackendLifecycle::new`, with the supervisor started. -/
def new : BackendLifecycle where
  phase := .spawning
  child := none
  restartPolicy := .bounded maxRestarts
  shuttingDown := false
  supervisorRunning := true
  shutdownComplete := false
  processJob := none
  supervisor := .readShuttingDown
  monitors := fun _ => .notStarted
  exit := .notStarted
  forced := fun _ => .notCalled
  spawnAttempts := 0
  spawned := []
  killed := []
  terminated := []

/-! ### The accesses -/

def setPhase (lifecycle : BackendLifecycle) (phase : BackendPhase) : BackendLifecycle :=
  { lifecycle with phase }

def canRestart (lifecycle : BackendLifecycle) : BackendLifecycle :=
  { lifecycle with
    restartPolicy := lifecycle.restartPolicy.registerFailure.2
    supervisor :=
      if lifecycle.restartPolicy.registerFailure.1 then .readShuttingDown else .setFailed }

def kill (lifecycle : BackendLifecycle) (child : CommandChild) : BackendLifecycle :=
  { lifecycle with killed := child :: lifecycle.killed }

/-- Closing the job kills what is in it. -/
def releaseProcessJob (lifecycle : BackendLifecycle) : BackendLifecycle :=
  { lifecycle with
    processJob := none
    killed := lifecycle.processJob.toList ++ lifecycle.killed }

/-- The child's own job replaces the previous one, which is closed; there are no jobs but on
Windows. -/
def assignProcessJob (lifecycle : BackendLifecycle) (windows : Bool) (child : CommandChild) :
    BackendLifecycle :=
  if windows then { lifecycle.releaseProcessJob with processJob := some child } else lifecycle

/-- The supervisor holds the lock of the slot. -/
def childLocked (lifecycle : BackendLifecycle) : Bool :=
  match lifecycle.supervisor with
  | .installChild _ => true
  | _ => false

/-! ### The threads -/

/-- An access of the supervisor that learns nothing from outside. -/
def supervise (lifecycle : BackendLifecycle) : Except Unit BackendLifecycle :=
  match lifecycle.supervisor with
  | .readShuttingDown =>
    .ok { lifecycle with
      supervisor := if lifecycle.shuttingDown then .clearRunning else .setSpawning }
  | .setSpawning => .ok { lifecycle.setPhase .spawning with supervisor := .findDirectory }
  | .countSpawnFailure => .ok lifecycle.canRestart
  | .killUnassigned child => .ok { lifecycle.kill child with supervisor := .releaseUnassigned }
  | .releaseUnassigned => .ok { lifecycle.releaseProcessJob with supervisor := .setFailed }
  | .lockChild child =>
    .ok { lifecycle with
      supervisor := if lifecycle.shuttingDown then .releaseLate child else .installChild child }
  | .installChild child =>
    .ok { lifecycle with child := some child, supervisor := .setWaiting child }
  | .releaseLate child => .ok { lifecycle.releaseProcessJob with supervisor := .killLate child }
  | .killLate child => .ok { lifecycle.kill child with supervisor := .clearRunning }
  | .setWaiting child =>
    .ok { lifecycle.setPhase .waitingReady with supervisor := .startMonitor child }
  | .startMonitor child =>
    .ok { lifecycle with
      monitors := Function.update lifecycle.monitors child .checkDeadline
      supervisor := .receive child }
  | .takeChild _ terminated =>
    .ok { lifecycle with
      child := none
      supervisor := .releaseJob lifecycle.child terminated }
  | .releaseJob taken terminated =>
    .ok { lifecycle.releaseProcessJob with
      supervisor :=
        if terminated then .readShuttingDownAgain
        else match taken with
          | some child => .killTaken child
          | none => .readShuttingDownAgain }
  | .killTaken child => .ok { lifecycle.kill child with supervisor := .readShuttingDownAgain }
  | .readShuttingDownAgain =>
    .ok { lifecycle with
      supervisor := if lifecycle.shuttingDown then .clearRunning else .countFailure }
  | .countFailure => .ok lifecycle.canRestart
  | .setFailed => .ok { lifecycle.setPhase .failed with supervisor := .clearRunning }
  | .clearRunning => .ok { lifecycle with supervisorRunning := false, supervisor := .stopped }
  | _ => .error ()

/-- `sidecar_working_directory`. -/
def findDirectory (lifecycle : BackendLifecycle) (found : Bool) :
    Except Unit BackendLifecycle :=
  match lifecycle.supervisor with
  | .findDirectory => .ok { lifecycle with supervisor := if found then .spawn else .setFailed }
  | _ => .error ()

/-- The spawn, which fails or gives a child with its process identifier. -/
def spawn (lifecycle : BackendLifecycle) (processId : Option Nat) :
    Except Unit BackendLifecycle :=
  match lifecycle.supervisor with
  | .spawn =>
    match processId with
    | some identifier =>
      .ok { lifecycle with
        spawnAttempts := lifecycle.spawnAttempts + 1
        spawned := ⟨lifecycle.spawnAttempts, identifier⟩ :: lifecycle.spawned
        supervisor := .assignJob ⟨lifecycle.spawnAttempts, identifier⟩ }
    | none =>
      .ok { lifecycle with
        spawnAttempts := lifecycle.spawnAttempts + 1
        supervisor := .countSpawnFailure }
  | _ => .error ()

/-- `assign_process_job`, which cannot fail where there are no jobs. -/
def assignJob (lifecycle : BackendLifecycle) (windows assigned : Bool) :
    Except Unit BackendLifecycle :=
  match lifecycle.supervisor with
  | .assignJob child =>
    if assigned then
      .ok { lifecycle.assignProcessJob windows child with supervisor := .lockChild child }
    else if windows then .ok { lifecycle with supervisor := .killUnassigned child }
    else .error ()
  | _ => .error ()

/-- The event that ends the wait; a termination is received of a child that has ended. -/
def receive (lifecycle : BackendLifecycle) (event : CommandEvent) :
    Except Unit BackendLifecycle :=
  match lifecycle.supervisor with
  | .receive child =>
    if event = .terminated then
      if child ∈ lifecycle.terminated then
        .ok { lifecycle with supervisor := .takeChild child true }
      else .error ()
    else .ok { lifecycle with supervisor := .takeChild child false }
  | _ => .error ()

def atMonitor (lifecycle : BackendLifecycle) (child : CommandChild) (point : MonitorPoint) :
    BackendLifecycle :=
  { lifecycle with monitors := Function.update lifecycle.monitors child point }

/-- An access of the readiness monitor of a child that learns nothing from outside. -/
def monitor (lifecycle : BackendLifecycle) (child : CommandChild) :
    Except Unit BackendLifecycle :=
  match lifecycle.monitors child with
  | .setReady => .ok ((lifecycle.setPhase .ready).atMonitor child .returned)
  | .readShuttingDown =>
    .ok (lifecycle.atMonitor child (if lifecycle.shuttingDown then .returned else .readPhase))
  | .readPhase =>
    .ok (lifecycle.atMonitor child
      (if lifecycle.phase = .ready then .returned else .takeChild))
  | .takeChild =>
    if lifecycle.childLocked then .error ()
    else
      match lifecycle.child with
      | some taken =>
        if taken.processId = child.processId then
          .ok ({ lifecycle with child := none }.atMonitor child (.setFailed taken))
        else .ok (lifecycle.atMonitor child .returned)
      | none => .ok (lifecycle.atMonitor child .returned)
  | .setFailed taken => .ok ((lifecycle.setPhase .failed).atMonitor child (.releaseJob taken))
  | .releaseJob taken => .ok (lifecycle.releaseProcessJob.atMonitor child (.killTaken taken))
  | .killTaken taken => .ok ((lifecycle.kill taken).atMonitor child .returned)
  | _ => .error ()

/-- The condition of the monitor's loop. -/
def monitorDeadline (lifecycle : BackendLifecycle) (child : CommandChild) (expired : Bool) :
    Except Unit BackendLifecycle :=
  match lifecycle.monitors child with
  | .checkDeadline =>
    .ok (lifecycle.atMonitor child
      (if expired || lifecycle.shuttingDown then .readShuttingDown else .probe))
  | _ => .error ()

/-- `readiness_probe`, which asks whoever answers on the port. -/
def probe (lifecycle : BackendLifecycle) (child : CommandChild) (ready : Bool) :
    Except Unit BackendLifecycle :=
  match lifecycle.monitors child with
  | .probe => .ok (lifecycle.atMonitor child (if ready then .setReady else .checkDeadline))
  | _ => .error ()

def atForced (lifecycle : BackendLifecycle) (caller : ForcedCaller) (point : ForcedPoint) :
    BackendLifecycle :=
  { lifecycle with forced := Function.update lifecycle.forced caller point }

/-- `force_shutdown` begins: the flag is stored first. -/
def forceShutdown (lifecycle : BackendLifecycle) (caller : ForcedCaller) :
    Except Unit BackendLifecycle :=
  match lifecycle.forced caller with
  | .notCalled => .ok ({ lifecycle with shuttingDown := true }.atForced caller .takeChild)
  | _ => .error ()

/-- The further accesses of `force_shutdown`. -/
def forceNext (lifecycle : BackendLifecycle) (caller : ForcedCaller) :
    Except Unit BackendLifecycle :=
  match lifecycle.forced caller with
  | .takeChild =>
    if lifecycle.childLocked then .error ()
    else .ok ({ lifecycle with child := none }.atForced caller (.releaseJob lifecycle.child))
  | .releaseJob taken =>
    .ok (lifecycle.releaseProcessJob.atForced caller
      (match taken with
      | some child => .killTaken child
      | none => .returned))
  | .killTaken taken => .ok ((lifecycle.kill taken).atForced caller .returned)
  | _ => .error ()

/-- `start_graceful_app_exit`, of which only the first call starts the thread. -/
def startGracefulExit (lifecycle : BackendLifecycle) : BackendLifecycle :=
  { lifecycle with
    shuttingDown := true
    exit := if lifecycle.shuttingDown then lifecycle.exit else .checkDeadline false }

/-- An access of the exiting thread that learns nothing from outside. -/
def exitNext (lifecycle : BackendLifecycle) : Except Unit BackendLifecycle :=
  match lifecycle.exit with
  | .readChild requested =>
    if lifecycle.childLocked then .error ()
    else
      .ok { lifecycle with
        exit := if lifecycle.child.isSome then .readChildAgain requested
          else .readSupervisor requested }
  | .readSupervisor requested =>
    .ok { lifecycle with
      exit := if lifecycle.supervisorRunning then .readChildAgain requested else .markObserved }
  | .markObserved => .ok { lifecycle with shutdownComplete := true, exit := .exited true }
  | .readChildAgain requested =>
    if lifecycle.childLocked then .error ()
    else
      .ok { lifecycle with
        exit := if lifecycle.child.isSome && !requested then .requestShutdown
          else .checkDeadline requested }
  | .forceShutdown =>
    do
      let forcing ← lifecycle.forceShutdown .gracefulExit
      pure { forcing with exit := .awaitForced }
  | .awaitForced =>
    if lifecycle.forced .gracefulExit = .returned then .ok { lifecycle with exit := .settle }
    else .error ()
  | .markForced => .ok { lifecycle with shutdownComplete := true, exit := .exited false }
  | _ => .error ()

/-- The conditions of the two loops of the exiting thread. -/
def exitDeadline (lifecycle : BackendLifecycle) (expired : Bool) :
    Except Unit BackendLifecycle :=
  match lifecycle.exit with
  | .checkDeadline requested =>
    .ok { lifecycle with exit := if expired then .forceShutdown else .readChild requested }
  | .settle =>
    .ok { lifecycle with
      exit := if lifecycle.supervisorRunning && !expired then .settle else .markForced }
  | _ => .error ()

/-- `request_backend_shutdown`. -/
def requestShutdown (lifecycle : BackendLifecycle) (accepted : Bool) :
    Except Unit BackendLifecycle :=
  match lifecycle.exit with
  | .requestShutdown => .ok { lifecycle with exit := .checkDeadline accepted }
  | _ => .error ()

/-- The process of a child ends, by itself or because it was killed. -/
def terminate (lifecycle : BackendLifecycle) (child : CommandChild) :
    Except Unit BackendLifecycle :=
  if child ∈ lifecycle.spawned then
    .ok { lifecycle with terminated := child :: lifecycle.terminated }
  else .error ()

def step (windows : Bool) (lifecycle : BackendLifecycle) :
    LifecycleAction → Except Unit BackendLifecycle
  | .supervise => lifecycle.supervise
  | .findDirectory found => lifecycle.findDirectory found
  | .spawn processId => lifecycle.spawn processId
  | .assignJob assigned => lifecycle.assignJob windows assigned
  | .receive event => lifecycle.receive event
  | .monitor child => lifecycle.monitor child
  | .monitorDeadline child expired => lifecycle.monitorDeadline child expired
  | .probe child ready => lifecycle.probe child ready
  | .startGracefulExit => .ok lifecycle.startGracefulExit
  | .exit => lifecycle.exitNext
  | .exitDeadline expired => lifecycle.exitDeadline expired
  | .requestShutdown accepted => lifecycle.requestShutdown accepted
  | .forceShutdown call => lifecycle.forceShutdown (.exitEvent call)
  | .forced caller => lifecycle.forceNext caller
  | .terminate child => lifecycle.terminate child

end BackendLifecycle

/-- The runs of the desktop application. -/
def backendLifecycle (windows : Bool) : Machine BackendLifecycle LifecycleAction Unit where
  initial := fun lifecycle => lifecycle = .new
  step := BackendLifecycle.step windows

end CareerOS
