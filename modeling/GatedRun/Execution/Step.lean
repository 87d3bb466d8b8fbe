import GatedRun.Execution.Basic
import GatedRun.Pool.Step

/-!
# Steps of an execution

`Execution.step` takes the runner's interrupt flag and the time along: the two waits of the caller
look at the flag and take it down, and a job notes the time at which it passes the gate. The pool
and the gate of an execution are changed by their own steps alone.

Once an execution was interrupted, nobody takes its outcomes out. Whoever is the last to have a part
in it, the caller or a job, lets go of them on the way; they do not unwind when they are let go of
(see `Payload`), so this is no step of its own and has no effect on how the caller returns or the
job ends.
-/

namespace GatedRun

namespace RunNote

variable {τ α : Type}

/-- What a step of the pool tells about the run: its log events, the jobs that are taken and over,
and the handles of jobs that nobody will run. -/
def ofPoolNote : PoolNote (RunJob τ α) → List (RunNote τ α)
  | .logged actor event => [.logged actor event]
  | .rejected _ job => [.handleReleased job.task]
  | .discarded jobs => jobs.map fun job => .handleReleased job.task
  | .taken worker job => [.jobTaken worker job.index]
  | .ended worker job _ => [.jobEnded worker job.index]
  | .accepted _ _ => []

end RunNote

namespace Stepped

variable {τ α : Type}

def thenCaller (stepped : Stepped τ α) (caller : CallerPhase α) : Stepped τ α :=
  { stepped with execution := { stepped.execution with caller } }

def thenNotes (stepped : Stepped τ α) (notes : List (RunNote τ α)) : Stepped τ α :=
  { stepped with notes := stepped.notes ++ notes }

end Stepped

namespace Execution

variable {τ α : Type}

/-- A step of the run's pool. -/
def movePool (execution : Execution τ α) (raised : Bool) (move : PoolMove (RunJob τ α)) :
    Option (Stepped τ α) :=
  match execution.pool.step move with
  | none => none
  | some (pool, notes) =>
    some ⟨{ execution with pool }, raised, notes.flatMap RunNote.ofPoolNote⟩

def toCaller (execution : Execution τ α) (raised : Bool) (caller : CallerPhase α)
    (notes : List (RunNote τ α)) : Stepped τ α :=
  ⟨{ execution with caller }, raised, notes⟩

/-! ### The caller -/

/-- The caller starts the next worker; when a thread was refused, it joins the workers that were
started before. -/
def launch (execution : Execution τ α) (raised : Bool) (grant : Grant) : Option (Stepped τ α) :=
  match execution.pool.stage with
  | .launching => execution.movePool raised (.spawn grant)
  | .retreating fault =>
    if execution.pool.isJoined then
      some (execution.toCaller raised (.returned (.error (.spawn fault))) [])
    else execution.movePool raised .join
  -- The last worker has opened the pool.
  | _ => some (execution.toCaller raised (.submitting 0) [])

/-- The caller submits the task at an index, in as many steps as the pool asks for. -/
def submit (execution : Execution τ α) (raised : Bool) (next : Nat) : Option (Stepped τ α) :=
  match execution.pool.calls with
  -- No call is under way: the next task is counted, if there is one left.
  | [] =>
    match execution.tasks[next]? with
    | none => some (execution.toCaller raised .awaitingReady [])
    | some task =>
      if execution.pool.isOpen then
        (execution.movePool raised (.count 0 { index := next, task })).map
          (·.thenNotes [.handleTaken task])
      else some (execution.toCaller raised (.abandoning .poolClosed) [])
  -- A call is under way: its job is sent, or taken back if it could not be.
  | call :: _ =>
    if call.bounced then
      (execution.movePool raised (.withdraw 0)).map (·.thenCaller (.abandoning .poolClosed))
    else
      (execution.movePool raised (.send 0)).map (·.thenCaller
        (.submitting (if execution.pool.hasReceiver then next + 1 else next)))

/-- The caller closes the pool and joins its workers one by one; when all are joined, the last step
is done. -/
def drain (execution : Execution τ α) (raised : Bool) (last : Stepped τ α) :
    Option (Stepped τ α) :=
  if execution.pool.isOpen then execution.movePool raised .close
  else if execution.pool.isJoined then some last
  else execution.movePool raised .join

def failureNotes : RunError → List (RunNote τ α)
  | .interrupted phase => [.logged .owner (.runInterrupted phase)]
  | _ => []

/-- What a finished run hands over. -/
def results (execution : Execution τ α) (now : Instant) : ResultSet α where
  outcomes := execution.slots.filed
  stats := {
    poolSize := execution.poolSize
    taskCount := execution.taskCount
    startedAt := execution.slots.startedAt
    elapsed := now - execution.begun }

/-- The last step of a run whose outcomes are complete: they are taken out and handed over. -/
def handOver (execution : Execution τ α) (raised : Bool) (now : Instant) : Stepped τ α :=
  let results := execution.results now
  ⟨{ execution with slots := Slots.emptied, caller := .returned (.ok results) }, raised,
    [.logged .owner (.runFinished results.successCount results.failureCount
      execution.pool.completed)]⟩

/-- The caller goes on. It cannot while it waits for a latch and nothing has happened, while the
next worker to join is not over, and when it has returned. While it waits it looks at the latch time
and again, so a look that learns nothing is no step. -/
def call (execution : Execution τ α) (raised : Bool) (now : Instant) (grant : Grant) :
    Option (Stepped τ α) :=
  match execution.caller with
  | .launching => execution.launch raised grant
  | .submitting next => execution.submit raised next
  | .awaitingReady =>
    match execution.ready.poll raised with
    | none => none
    -- Whatever the look tells, it has taken the flag down.
    | some .opened => some (execution.toCaller false .opening [])
    | some .interrupted =>
      some (execution.toCaller false (.abandoning (.interrupted .readiness)) [])
  | .opening => some ⟨{ execution with gate := execution.gate.openUp, caller := .awaitingDone },
      raised, [.logged .owner (.gateOpened execution.poolSize)]⟩
  | .awaitingDone =>
    match execution.done.poll raised with
    | none => none
    | some .opened => some (execution.toCaller false .gathering [])
    | some .interrupted => some (execution.toCaller false .detaching [])
  | .abandoning cause => some ⟨{ execution with
      gate := execution.gate.abandon, caller := .withdrawing cause }, raised, []⟩
  | .withdrawing cause => execution.drain raised
      (execution.toCaller raised (.returned (.error cause)) (failureNotes cause))
  -- The gate stays open, so the workers that are let go run every job that is left.
  | .detaching =>
    (execution.movePool raised .detach).map fun stepped =>
      (stepped.thenCaller (.returned (.error (.interrupted .completion)))).thenNotes
        (failureNotes (.interrupted .completion))
  | .gathering => execution.drain raised (execution.handOver raised now)
  | .returned _ => none

/-! ### The workers -/

def progress (execution : Execution τ α) (raised : Bool) (worker : Nat) (job : RunJob τ α)
    (phase : JobPhase α) (notes : List (RunNote τ α)) : Option (Stepped τ α) :=
  (execution.movePool raised (.progress worker { job with phase })).map (·.thenNotes notes)

/-- A job goes on. It cannot while it sleeps at the gate, and while it is in its body. One whose
body has ended, in whatever way, ends as a job that returned. -/
def workOn (execution : Execution τ α) (raised : Bool) (now : Instant) (worker : Nat)
    (job : RunJob τ α) : Option (Stepped τ α) :=
  match job.phase with
  | .arriving =>
    { execution with ready := execution.ready.countDown }.progress raised worker job .atGate
      [.logged (.worker worker) (.parked job.index)]
  | .atGate =>
    if execution.gate.isAsleep worker then none
    else
      match execution.gate.visit worker with
      -- A job that finds the gate closed is asleep there from now on.
      | (none, gate) => some ⟨{ execution with gate }, raised, []⟩
      | (some true, _) => execution.progress raised worker job (.inBody now)
          [.bodyCalled worker job.index job.task]
      | (some false, _) => execution.progress raised worker job .ended
          [.logged (.worker worker) (.skipped job.index)]
  -- The end of a body is a move of its own.
  | .inBody _ => none
  | .filing since outcome =>
    { execution with slots := execution.slots.file job.index since outcome }.progress
      raised worker job .counting []
  | .counting =>
    { execution with done := execution.done.countDown }.progress raised worker job .ended []
  | .ended =>
    (execution.movePool raised (.finish worker .returned)).map
      (·.thenNotes [.handleReleased job.task])

/-- A worker goes on, with its loop or with its job. -/
def work (execution : Execution τ α) (raised : Bool) (now : Instant) (worker : Nat) :
    Option (Stepped τ α) :=
  match execution.job? worker with
  | some job => execution.workOn raised now worker job
  | none => execution.movePool raised (.work worker)

def outcomeNotes (worker index : Nat) : Outcome α → List (RunNote τ α)
  | .success _ => []
  | .failure failure => [.logged (.worker worker) (.taskFailed index failure)]

/-- The body that a worker called ends, and its job keeps the outcome. A failure is logged with its
text, which can always be had. -/
def bodyEnds (execution : Execution τ α) (raised : Bool) (worker : Nat) (result : BodyResult α) :
    Option (Stepped τ α) :=
  match execution.job? worker with
  | some ⟨index, task, .inBody since⟩ =>
    execution.progress raised worker ⟨index, task, .inBody since⟩
      (.filing since (Outcome.capture index result))
      (.bodyEnded worker index result :: outcomeNotes worker index (Outcome.capture index result))
  | _ => none

/-- A worker that sleeps at the gate wakes for no reason. -/
def wake (execution : Execution τ α) (raised : Bool) (worker : Nat) : Option (Stepped τ α) :=
  if execution.gate.isAsleep worker then
    some ⟨{ execution with gate := execution.gate.wake worker }, raised, []⟩
  else none

/-- The execution after a step, if the step is possible. -/
def step (execution : Execution τ α) (raised : Bool) (now : Instant) :
    RunMove α → Option (Stepped τ α)
  | .call grant => execution.call raised now grant
  | .work worker => execution.work raised now worker
  | .bodyEnds worker result => execution.bodyEnds raised worker result
  | .wake worker => execution.wake raised worker

end Execution

end GatedRun
