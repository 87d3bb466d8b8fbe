import GatedRun.Proofs.Execution.Ledger
import GatedRun.Proofs.Pool.Transition

/-!
# Sound executions

What holds in every state of an execution, as one structure for each concern.

* `Staged`: where the caller is says how the gate and the pool stand, what was submitted, and how
  the run can have failed.
* `Crewed`: what each worker can be doing.
* `Queued`: the jobs taken and the jobs in the queue are the tasks in the order of submission.
* `Counted`: the latches count exactly the jobs that have not come to them yet.
* `Recorded`: the body of a task was called, has ended and has filed its outcome as far as the
  task's job has come, and never twice.

All but the first speak of the ledger too, that is, of what the execution let others know.
-/

namespace GatedRun

open Sync (GateState)

variable {τ α : Type}

/-! ### Where the caller is -/

namespace CallerPhase

/-- How the gate stands while the caller is there. -/
def gate : CallerPhase α → GateState
  | .awaitingDone | .detaching | .gathering => .opened
  | .withdrawing _ => .abandoned
  | .returned (.ok _) | .returned (.error (.interrupted .completion)) => .opened
  | .returned (.error (.interrupted .readiness)) => .abandoned
  | _ => .closed

/-- The stages that the pool can be at while the caller is there. A run that was given up for want
of a thread tells of the fault that its pool was given up for. -/
def Admits (caller : CallerPhase α) (stage : PoolStage) : Prop :=
  match caller with
  | .launching => stage = .launching ∨ stage.Retreats ∨ stage = .accepting
  | .withdrawing _ | .gathering => stage = .accepting ∨ stage = .closed
  | .returned (.ok _) | .returned (.error (.interrupted .readiness)) => stage = .closed
  | .returned (.error (.interrupted .completion)) => stage = .detached
  | .returned (.error (.spawn fault)) => stage = .retreating fault
  | .returned (.error _) => False
  | _ => stage = .accepting

/-- The ways in which a run can have failed by the time the caller is there. -/
def Foreseen : CallerPhase α → Prop
  | .abandoning cause | .withdrawing cause => cause = .interrupted .readiness
  | .returned (.error cause) =>
    (∃ fault, cause = .spawn fault) ∨ ∃ phase, cause = .interrupted phase
  | _ => True

def seesReady : CallerPhase α → Bool
  | .opening => true
  | caller => caller.gate == .opened

def seesDone : CallerPhase α → Bool
  | .gathering | .returned (.ok _) => true
  | _ => false

def hasJoined : CallerPhase α → Bool
  | .returned (.error (.interrupted .completion)) => false
  | .returned _ => true
  | _ => false

end CallerPhase

/-! ### Where a job is -/

namespace JobPhase

/-- A body is called behind an open gate, and a job is over behind a settled one. -/
def Behind (gate : GateState) : JobPhase α → Prop
  | .arriving | .atGate => True
  | .inBody _ | .filing _ _ | .counting => gate = .opened
  | .ended => gate ≠ .closed

theorem early_of_closed {phase : JobPhase α} (behind : phase.Behind .closed) :
    phase = .arriving ∨ phase = .atGate := by
  cases phase with
  | arriving => exact .inl rfl
  | atGate => exact .inr rfl
  | inBody since => cases behind
  | filing since outcome => cases behind
  | counting => cases behind
  | ended => exact absurd rfl behind

end JobPhase

namespace WorkerPhase

def isArriving : WorkerPhase (RunJob τ α) → Bool
  | .running ⟨_, _, .arriving⟩ => true
  | _ => false

def isBusy : WorkerPhase (RunJob τ α) → Bool
  | .running ⟨_, _, .ended⟩ => false
  | .running _ => true
  | _ => false

end WorkerPhase

namespace Slots

def outcome? (slots : Slots α) (index : Nat) : Option (Outcome α) := slots.outcomes[index]?.join

def start? (slots : Slots α) (index : Nat) : Option Instant := slots.startedAt[index]?.join

def IsVacant (slots : Slots α) (index : Nat) : Prop :=
  slots.outcome? index = none ∧ slots.start? index = none

end Slots

namespace Execution

/-- What a worker can be doing. A job that it runs is one that it took; a worker leaves only once
nothing can come to the queue any more. -/
def Crew (execution : Execution τ α) (taken : List (Nat × Nat)) (worker : Nat) :
    WorkerPhase (RunJob τ α) → Prop
  | .idle | .receiving => True
  | .running job => (worker, job.index) ∈ taken ∧
      execution.tasks[job.index]? = some job.task ∧ job.phase.Behind execution.gate.state
  | .reporting ending => ending = .returned ∧ execution.gate.state ≠ .closed
  | .leaving | .exited => execution.pool.queue = [] ∧ execution.pool.stage ≠ .launching ∧
      execution.pool.stage ≠ .accepting
  | .dying | .dead => False

def Submitted (execution : Execution τ α) : CallerPhase α → Prop
  | .launching | .returned (.error (.spawn _)) =>
    execution.pool.submitted = 0 ∧ execution.pool.calls = []
  | .submitting next => next ≤ execution.taskCount ∧
      execution.pool.submitted = next + execution.pool.calls.length ∧
      (execution.pool.calls = [] ∨ ∃ task, execution.tasks[next]? = some task ∧
        execution.pool.calls = [{ caller := 0, job := { index := next, task } }])
  | _ => execution.pool.submitted = execution.taskCount ∧ execution.pool.calls = []

def Manned (execution : Execution τ α) : PoolStage → Prop
  | .launching | .retreating _ => execution.pool.workers.length < execution.poolSize
  | _ => execution.pool.workers.length = execution.poolSize

/-- How all that the caller handles stands while it is at a place. -/
structure Placed (execution : Execution τ α) (caller : CallerPhase α) : Prop where
  gate : execution.gate.state = caller.gate
  stage : caller.Admits execution.pool.stage
  foreseen : caller.Foreseen
  submitted : execution.Submitted caller
  ready : caller.seesReady = true → execution.ready.count = 0
  done : caller.seesDone = true → execution.done.count = 0
  joined : caller.hasJoined = true → execution.pool.joined = execution.pool.workers.length

/-- The pool is the one that the run is meant to have, and everything stands as the caller's place
says. -/
structure Staged (execution : Execution τ α) : Prop where
  positive : 0 < execution.poolSize
  bounded : execution.poolSize ≤ execution.taskCount
  width : execution.pool.width = execution.poolSize
  named : execution.pool.config = execution.config
  manned : execution.Manned execution.pool.stage
  joined : ∀ worker, worker < execution.pool.joined →
    execution.pool.workers[worker]? = some .exited
  placed : execution.Placed execution.caller

def Crewed (execution : Execution τ α) (taken : List (Nat × Nat)) : Prop :=
  ∀ (worker : Nat) (phase : WorkerPhase (RunJob τ α)),
    execution.pool.workers[worker]? = some phase → execution.Crew taken worker phase

theorem Staged.placedAt {execution : Execution τ α} {caller : CallerPhase α}
    (staged : execution.Staged) (at_ : execution.caller = caller) : execution.Placed caller :=
  at_ ▸ staged.placed

/-- The jobs taken and those in the queue are the tasks in the order of submission. -/
structure Queued (execution : Execution τ α) (taken : List (Nat × Nat)) : Prop where
  order : taken.map Prod.snd ++ execution.pool.queue.map RunJob.index =
    List.range (taken.length + execution.pool.queue.length)
  fresh : ∀ job ∈ execution.pool.queue,
    job.phase = .arriving ∧ execution.tasks[job.index]? = some job.task
  total : execution.pool.submitted =
    taken.length + execution.pool.queue.length + execution.pool.calls.length

/-- The latches count the jobs that have not come to them. Behind a closed gate no job ends, so a
worker holds the one job that it took; only behind an open one a job comes to the done latch. -/
structure Counted (execution : Execution τ α) (taken : List (Nat × Nat)) : Prop where
  held : execution.gate.state = .closed → ∀ take ∈ taken, ∃ job : RunJob τ α,
    execution.pool.workers[take.1]? = some (.running job) ∧ job.index = take.2
  ready : execution.gate.state = .closed → execution.ready.count + taken.length =
    execution.poolSize + execution.pool.workers.countP WorkerPhase.isArriving
  done : execution.gate.state ≠ .abandoned → execution.done.count + taken.length =
    execution.taskCount + execution.pool.workers.countP WorkerPhase.isBusy
  idle : execution.gate.state ≠ .opened → execution.done.count = execution.taskCount

/-! ### What becomes of a task -/

/-- The slots, or what was handed over of them. -/
def kept (execution : Execution τ α) : Slots α :=
  match execution.caller with
  | .returned (.ok results) => ⟨results.outcomes.map some, results.stats.startedAt⟩
  | _ => execution.slots

/-- Nothing has become of the task at an index: its body was not called, its slots are empty. -/
def Untouched (execution : Execution τ α) (notes : List (RunNote τ α)) (index : Nat) : Prop :=
  bodyEvents index notes = [] ∧ execution.kept.IsVacant index

/-- The body of the task at an index was called once, by the worker that took its job, has ended,
and its outcome is filed. -/
def Filed (execution : Execution τ α) (notes : List (RunNote τ α)) (index : Nat) : Prop :=
  ∃ worker task since result, (worker, index) ∈ takes notes ∧
    execution.tasks[index]? = some task ∧
    bodyEvents index notes = [.called worker task, .ended worker result] ∧
    execution.kept.outcome? index = some (Outcome.capture index result) ∧
    execution.kept.start? index = some since

/-- What has become of a task whose job is over: behind an open gate all, behind another nothing. -/
def Settled (execution : Execution τ α) (notes : List (RunNote τ α)) (index : Nat) : Prop :=
  (execution.gate.state = .opened → execution.Filed notes index) ∧
    (execution.gate.state ≠ .opened → execution.Untouched notes index)

/-- What has become of a task whose job a worker runs. -/
def Underway (execution : Execution τ α) (notes : List (RunNote τ α)) (worker : Nat)
    (job : RunJob τ α) : Prop :=
  match job.phase with
  | .arriving | .atGate => execution.Untouched notes job.index
  | .inBody _ => bodyEvents job.index notes = [.called worker job.task] ∧
      execution.kept.IsVacant job.index
  | .filing _ outcome => execution.kept.IsVacant job.index ∧ ∃ result,
      bodyEvents job.index notes = [.called worker job.task, .ended worker result] ∧
      outcome = Outcome.capture job.index result
  | .counting => execution.Filed notes job.index
  | .ended => execution.Settled notes job.index

def IsFree (execution : Execution τ α) (index : Nat) : Prop :=
  ∀ (worker : Nat) (job : RunJob τ α),
    execution.pool.workers[worker]? = some (.running job) → job.index ≠ index

/-- The ledger and the slots agree with where each job is. -/
structure Recorded (execution : Execution τ α) (notes : List (RunNote τ α)) : Prop where
  sizes : execution.kept.outcomes.length = execution.taskCount ∧
    execution.kept.startedAt.length = execution.taskCount
  waiting : ∀ index, (takes notes).length ≤ index → execution.Untouched notes index
  underway : ∀ (worker : Nat) (job : RunJob τ α),
    execution.pool.workers[worker]? = some (.running job) → execution.Underway notes worker job
  ended : ∀ index, index < (takes notes).length → execution.IsFree index →
    execution.Settled notes index
  figures : ∀ results, execution.caller = .returned (.ok results) →
    results.stats.poolSize = execution.poolSize ∧ results.stats.taskCount = execution.taskCount

structure Sound (execution : Execution τ α) (notes : List (RunNote τ α)) : Prop where
  staged : execution.Staged
  crewed : execution.Crewed (takes notes)
  queued : execution.Queued (takes notes)
  counted : execution.Counted (takes notes)
  recorded : execution.Recorded notes

end Execution

end GatedRun
