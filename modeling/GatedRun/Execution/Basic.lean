import GatedRun.Pool.Basic
import GatedRun.ResultSet
import GatedRun.Sync.Gate
import GatedRun.Sync.Latch

/-!
# Executions

An execution is one run of a list of tasks on a pool of its own. The caller starts the pool, submits
one job for each task, waits until every worker holds a job (the `ready` latch), and opens the gate
at which these jobs wait. Then it waits until every job has filed its outcome (the `done` latch),
shuts the pool down, and hands the outcomes over in the order of submission. An interrupt ends the
first wait by abandoning the gate, so that no body is called, and the second one by letting the pool
go, so that every job is still run.

`Execution.step` is one step of the caller or of a worker. What the bodies of the tasks do is not
part of an execution: a step calls a body, and a later step takes its result.
-/

namespace GatedRun

open Sync (Latch Gate)

/-- Where a job is. -/
inductive JobPhase (α : Type) where
  /-- About to count the ready latch down. -/
  | arriving
  | atGate
  /-- The body of the task is called. -/
  | inBody (since : Instant)
  /-- The outcome is yet to be filed. -/
  | filing (since : Instant) (outcome : Outcome α)
  /-- The outcome is filed; the done latch is yet to be counted down. -/
  | counting
  /-- Nothing is left but to let go of the task. -/
  | ended
  deriving DecidableEq, Repr

/-- A job of an execution: the task at an index. -/
structure RunJob (τ α : Type) where
  index : Nat
  task : τ
  phase : JobPhase α := .arriving
  deriving DecidableEq, Repr

/-- Where the jobs file their outcomes and when they started, by index. -/
structure Slots (α : Type) where
  outcomes : List (Option (Outcome α))
  startedAt : List (Option Instant)
  deriving DecidableEq, Repr

namespace Slots

variable {α : Type}

def empty (size : Nat) : Slots α := ⟨List.replicate size none, List.replicate size none⟩

def file (slots : Slots α) (index : Nat) (since : Instant) (outcome : Outcome α) : Slots α :=
  ⟨slots.outcomes.set index (some outcome), slots.startedAt.set index (some since)⟩

def filed (slots : Slots α) : List (Outcome α) := slots.outcomes.filterMap id

def emptied : Slots α := ⟨[], []⟩

end Slots

/-- Where the caller of an execution is. -/
inductive CallerPhase (α : Type) where
  | launching
  /-- About to submit the task at an index, or in the middle of it. -/
  | submitting (next : Nat)
  | awaitingReady
  | opening
  | awaitingDone
  /-- The run has failed; the gate is yet to be abandoned. -/
  | abandoning (cause : RunError)
  /-- The run has failed; the pool is being shut down. -/
  | withdrawing (cause : RunError)
  /-- The run is interrupted; the pool is yet to be let go. -/
  | detaching
  /-- The outcomes are complete; the pool is being shut down. -/
  | gathering
  | returned (result : Except RunError (ResultSet α))

/-- One run of a list of tasks. -/
structure Execution (τ α : Type) where
  tasks : List τ
  config : Config
  begun : Instant
  caller : CallerPhase α
  pool : Pool (RunJob τ α)
  ready : Latch Nat
  gate : Gate Nat
  done : Latch Nat
  slots : Slots α

/-- What a step of an execution lets others know. -/
inductive RunNote (τ α : Type) where
  | logged (actor : Actor) (event : Event)
  /-- A handle on a task is made for a job. -/
  | handleTaken (task : τ)
  /-- A job's handle on its task is let go. -/
  | handleReleased (task : τ)
  /-- A worker takes the job of the task at an index. -/
  | jobTaken (worker index : Nat)
  /-- The job of the task at an index is over. -/
  | jobEnded (worker index : Nat)
  | bodyCalled (worker index : Nat) (task : τ)
  | bodyEnded (worker index : Nat) (result : BodyResult α)

/-- One step of an execution. -/
inductive RunMove (α : Type) where
  /-- The caller goes on; if it starts a worker, this is what the system makes of it. -/
  | call (grant : Grant)
  /-- A worker goes on. -/
  | work (worker : Nat)
  /-- The body that a worker called ends. -/
  | bodyEnds (worker : Nat) (result : BodyResult α)
  /-- A worker that sleeps at the gate wakes for no reason. -/
  | wake (worker : Nat)

/-- What a step leads to: the execution, the runner's interrupt flag, and the notes. -/
structure Stepped (τ α : Type) where
  execution : Execution τ α
  raised : Bool
  notes : List (RunNote τ α) := []

namespace Execution

variable {τ α : Type}

def taskCount (execution : Execution τ α) : Nat := execution.tasks.length

def poolSize (execution : Execution τ α) : Nat :=
  execution.config.poolSize execution.tasks.length

/-- What the caller got, once the call has returned. -/
def result? (execution : Execution τ α) : Option (Except RunError (ResultSet α)) :=
  match execution.caller with
  | .returned result => some result
  | _ => none

def isQuiet (execution : Execution τ α) : Bool :=
  execution.result?.isSome && execution.pool.isQuiet

def job? (execution : Execution τ α) (worker : Nat) : Option (RunJob τ α) :=
  execution.pool.workers[worker]?.bind WorkerPhase.job?

/-- A run none of whose steps is done. -/
def unstarted (tasks : List τ) (config : Config) (now : Instant) (caller : CallerPhase α) :
    Execution τ α :=
  let width := config.poolSize tasks.length
  { tasks, config, caller
    begun := now
    pool := Pool.unstarted config width
    ready := Latch.new width
    gate := {}
    done := Latch.new tasks.length
    slots := Slots.empty tasks.length }

/-- The run before its first worker is started. An unsound configuration, or a run without workers,
is refused here. -/
def start (tasks : List τ) (config : Config) (now : Instant) :
    Execution τ α × List (RunNote τ α) :=
  let width := config.poolSize tasks.length
  let caller : CallerPhase α :=
    match Pool.create (J := RunJob τ α) width config with
    | .ok _ => .launching
    -- Such a run has returned before its first step.
    | .error fault => .returned (.error (.invalidArgument fault))
  (unstarted tasks config now caller, [.logged .owner (.runStarting tasks.length width)])

end Execution

end GatedRun
