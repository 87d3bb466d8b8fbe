import GatedRun.Config
import GatedRun.Event
import GatedRun.Stats

/-!
# Worker pools

A pool is a fixed number of worker threads that take jobs from one queue. This module holds its
state, the moves that change it, and what can be read off it. The type of jobs is a parameter, since
a job may have a state of its own while it runs.
-/

namespace GatedRun

/-- How a job ended: it returned, it unwound, or it unwound with a payload whose disposal unwinds
once more and so takes the worker with it. -/
inductive JobEnding where
  | returned
  | unwound
  | lethal
  deriving DecidableEq, Repr

/-- Where a worker is in its loop. -/
inductive WorkerPhase (J : Type) where
  /-- About to take the lock of the queue. -/
  | idle
  /-- Holding the lock, waiting for a job or for the end of the queue. -/
  | receiving
  | running (job : J)
  /-- The job is over and not yet counted. -/
  | reporting (ending : JobEnding)
  /-- The job is counted, and its payload is about to take the thread down. -/
  | dying
  /-- The queue was closed and empty. -/
  | leaving
  | exited
  | dead
  deriving DecidableEq, Repr

namespace WorkerPhase

variable {J : Type}

def isOver : WorkerPhase J → Bool
  | .exited | .dead => true
  | _ => false

def holdsLock : WorkerPhase J → Bool
  | .receiving => true
  | _ => false

def isDead : WorkerPhase J → Bool
  | .dead => true
  | _ => false

def job? : WorkerPhase J → Option J
  | .running job => some job
  | _ => none

end WorkerPhase

/-- What the system makes of the request for a thread. -/
inductive Grant where
  | given
  | refused (fault : SpawnFault)
  deriving DecidableEq, Repr

/-- Where a pool is in its life. -/
inductive PoolStage where
  /-- Workers are being started. -/
  | launching
  /-- A thread was refused; the workers started so far are being joined. -/
  | retreating (fault : SpawnFault)
  | accepting
  /-- Shut down, or being shut down. -/
  | closed
  /-- Let go; its workers finish on their own. -/
  | detached
  deriving DecidableEq, Repr

/-- A call that submits a job, between the count and its end. -/
structure SubmitCall (J : Type) where
  caller : Nat
  job : J
  /-- The job could not be sent. -/
  bounced : Bool := false
  deriving DecidableEq, Repr

/-- Worker threads, and the queue that they take jobs from. -/
structure Pool (J : Type) where
  config : Config
  /-- How many workers the pool is meant to have. -/
  width : Nat
  stage : PoolStage := .launching
  queue : List J := []
  workers : List (WorkerPhase J) := []
  /-- How many workers were joined, always the first ones. -/
  joined : Nat := 0
  calls : List (SubmitCall J) := []
  submitted : Nat := 0
  completed : Nat := 0
  panicked : Nat := 0
  deriving Repr

/-- Who does a step: the owner of a pool, or one of its workers. -/
inductive Actor where
  | owner
  | worker (worker : Nat)
  deriving DecidableEq, Repr

/-- What a step of a pool lets others know. -/
inductive PoolNote (J : Type) where
  | logged (actor : Actor) (event : Event)
  | accepted (caller : Nat) (job : J)
  | rejected (caller : Nat) (job : J)
  | taken (worker : Nat) (job : J)
  | ended (worker : Nat) (job : J) (ending : JobEnding)
  /-- Jobs that nobody will run, since the last worker is gone. -/
  | discarded (jobs : List J)
  deriving Repr

/-- One step of one thread. -/
inductive PoolMove (J : Type) where
  /-- The owner asks for the thread of the next worker. -/
  | spawn (grant : Grant)
  | close
  /-- The owner joins the next worker. -/
  | join
  | detach
  | count (caller : Nat) (job : J)
  | send (caller : Nat)
  | withdraw (caller : Nat)
  /-- A worker goes on with its own loop. -/
  | work (worker : Nat)
  /-- A running job goes on. -/
  | progress (worker : Nat) (job : J)
  | finish (worker : Nat) (ending : JobEnding)
  deriving Repr

namespace Pool

variable {J : Type}

/-! ### Making a pool -/

def unstarted (config : Config) (width : Nat) : Pool J := { config, width }

/-- A pool whose workers are yet to be started; an unsound configuration is refused first, then a
pool without workers. However many workers there are to be, there is room to keep account of them;
counts for which no memory could be had are left out. -/
def create (width : Nat) (config : Config) : Except ArgumentFault (Pool J) :=
  match config.check with
  | .error fault => .error fault
  | .ok () => if width = 0 then .error .poolSize else .ok (unstarted config width)

/-! ### Looking at a pool -/

def isOpen (pool : Pool J) : Bool := pool.stage == .accepting

/-- The workers that the owner may still join. -/
def size (pool : Pool J) : Nat :=
  match pool.stage with
  | .detached => 0
  | _ => pool.workers.length - pool.joined

def hasReceiver (pool : Pool J) : Bool := pool.workers.any (!·.isOver)

def lockIsFree (pool : Pool J) : Bool := pool.workers.all (!·.holdsLock)

def isQuiet (pool : Pool J) : Bool := pool.workers.all (·.isOver)

def isJoined (pool : Pool J) : Bool := pool.joined == pool.workers.length

/-- Whether the owner is done with starting the workers, for better or worse. -/
def isLaunched (pool : Pool J) : Bool :=
  match pool.stage with
  | .launching => false
  | .retreating _ => pool.isJoined
  | _ => true

/-- What whoever makes the pool gets, once the owner is done with starting the workers. -/
def made? (pool : Pool J) : Option (Except RunError Unit) :=
  match pool.stage with
  | .launching => none
  | .retreating fault => if pool.isJoined then some (.error (.spawn fault)) else none
  | _ => some (.ok ())

def isShut (pool : Pool J) : Bool := !pool.isOpen && pool.isJoined

/-- The counters as three looks at the pool read them, the number submitted first. -/
def statsAcross (first second third : Pool J) : PoolStats :=
  ⟨first.size, first.submitted, second.completed, third.panicked⟩

def stats (pool : Pool J) : PoolStats := statsAcross pool pool pool

def inspect (pool : Pool J) : Text.Inspection :=
  .record "WorkerPool" [.labelled "open" (.flag pool.isOpen),
    .labelled "stats" pool.stats.inspect] false

end Pool

end GatedRun
