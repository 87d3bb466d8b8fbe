import GatedRun.Proofs.Execution.Sound
import GatedRun.Proofs.Pool.Transition

/-!
# Transitions

`Transition` lists all that a step of a sound execution can do, each with the guard under which it
does it. `Staged.transition` is the inversion of the step function: it is proved once, and what a
step keeps is proved from the list and never from the functions. What the list leaves out cannot
happen: a job that the pool turns away, a worker that dies, a queue lost with jobs in it.
-/

namespace GatedRun

variable {τ α : Type}

namespace CallerPhase

def drains : CallerPhase α → Bool
  | .withdrawing _ | .gathering => true
  | _ => false

theorem admits_of_drains {caller : CallerPhase α} (drains : caller.drains = true)
    (stage : PoolStage) : caller.Admits stage ↔ stage = .accepting ∨ stage = .closed := by
  cases caller with
  | withdrawing cause => rfl
  | gathering => rfl
  | _ => cases drains

end CallerPhase

namespace Execution

def withWorker (execution : Execution τ α) (worker : Nat) (phase : WorkerPhase (RunJob τ α)) :
    Execution τ α :=
  { execution with pool := execution.pool.setWorker worker phase }

/-- What a step of a sound execution can do. -/
inductive Transition (execution : Execution τ α) (raised : Bool) (now : Instant) :
    RunMove α → Stepped τ α → Prop where
  -- The caller starts the workers.
  | spawned (at_ : execution.caller = .launching) (stage : execution.pool.stage = .launching)
      (more : execution.pool.workers.length + 1 < execution.pool.width) :
      Transition execution raised now (.call .given) ⟨{ execution with pool := { execution.pool with
        workers := execution.pool.workers ++ [.idle] } }, raised, []⟩
  | poolOpened (at_ : execution.caller = .launching) (stage : execution.pool.stage = .launching)
      (last : ¬ execution.pool.workers.length + 1 < execution.pool.width) :
      Transition execution raised now (.call .given) ⟨{ execution with pool := { execution.pool with
        workers := execution.pool.workers ++ [.idle], stage := .accepting } }, raised,
        [.logged .owner (.poolStarted execution.pool.width
          execution.pool.config.threadNamePrefix)]⟩
  | refused (fault : SpawnFault) (at_ : execution.caller = .launching)
      (stage : execution.pool.stage = .launching) :
      Transition execution raised now (.call (.refused fault))
        ⟨{ execution with pool := { execution.pool with stage := .retreating fault } }, raised, []⟩
  | retreated (grant : Grant) (fault : SpawnFault) (at_ : execution.caller = .launching)
      (stage : execution.pool.stage = .retreating fault)
      (joined : execution.pool.joined = execution.pool.workers.length) :
      Transition execution raised now (.call grant)
        (execution.toCaller raised (.returned (.error (.spawn fault))) [])
  | launched (grant : Grant) (at_ : execution.caller = .launching)
      (stage : execution.pool.stage = .accepting) :
      Transition execution raised now (.call grant)
        (execution.toCaller raised (.submitting 0) [])
  -- The caller submits the tasks.
  | counted (grant : Grant) (next : Nat) (task : τ) (at_ : execution.caller = .submitting next)
      (calls : execution.pool.calls = []) (has : execution.tasks[next]? = some task) :
      Transition execution raised now (.call grant)
        ⟨{ execution with pool := { execution.pool with
          submitted := execution.pool.submitted + 1
          calls := [{ caller := 0, job := { index := next, task } }] } }, raised,
          [.handleTaken task]⟩
  | sent (grant : Grant) (next : Nat) (task : τ) (at_ : execution.caller = .submitting next)
      (has : execution.tasks[next]? = some task)
      (calls : execution.pool.calls = [{ caller := 0, job := { index := next, task } }]) :
      Transition execution raised now (.call grant) ⟨{ execution with
        caller := .submitting (next + 1)
        pool := { execution.pool with
          queue := execution.pool.queue ++ [{ index := next, task }], calls := [] } }, raised, []⟩
  | allSubmitted (grant : Grant) (next : Nat) (at_ : execution.caller = .submitting next)
      (calls : execution.pool.calls = []) (none : execution.tasks[next]? = none) :
      Transition execution raised now (.call grant)
        (execution.toCaller raised .awaitingReady [])
  -- The caller waits, and settles the gate.
  | sawReady (grant : Grant) (at_ : execution.caller = .awaitingReady) (lowered : raised = false)
      (zero : execution.ready.count = 0) :
      Transition execution raised now (.call grant) (execution.toCaller false .opening [])
  | cutReadiness (grant : Grant) (at_ : execution.caller = .awaitingReady) (up : raised = true) :
      Transition execution raised now (.call grant)
        (execution.toCaller false (.abandoning (.interrupted .readiness)) [])
  | openedGate (grant : Grant) (at_ : execution.caller = .opening) :
      Transition execution raised now (.call grant) ⟨{ execution with
        gate := { state := .opened, asleep := [] }, caller := .awaitingDone }, raised,
        [.logged .owner (.gateOpened execution.poolSize)]⟩
  | sawDone (grant : Grant) (at_ : execution.caller = .awaitingDone) (lowered : raised = false)
      (zero : execution.done.count = 0) :
      Transition execution raised now (.call grant) (execution.toCaller false .gathering [])
  | cutCompletion (grant : Grant) (at_ : execution.caller = .awaitingDone) (up : raised = true) :
      Transition execution raised now (.call grant) (execution.toCaller false .detaching [])
  | abandonedGate (grant : Grant) (cause : RunError) (at_ : execution.caller = .abandoning cause) :
      Transition execution raised now (.call grant) ⟨{ execution with
        gate := { state := .abandoned, asleep := [] }, caller := .withdrawing cause }, raised, []⟩
  -- The caller ends the pool.
  | closed (grant : Grant) (at_ : execution.caller.drains = true)
      (stage : execution.pool.stage = .accepting) :
      Transition execution raised now (.call grant)
        ⟨{ execution with pool := { execution.pool with stage := .closed } }, raised, []⟩
  | joined (grant : Grant) (at_ : execution.caller = .launching ∨ execution.caller.drains = true)
      (stage : execution.pool.stage.Retreats ∨ execution.pool.stage = .closed)
      (next : execution.pool.workers[execution.pool.joined]? = some .exited) :
      Transition execution raised now (.call grant)
        ⟨{ execution with pool := { execution.pool with
          joined := execution.pool.joined + 1 } }, raised, []⟩
  | withdrawn (grant : Grant) (cause : RunError) (at_ : execution.caller = .withdrawing cause)
      (stage : execution.pool.stage = .closed)
      (joined : execution.pool.joined = execution.pool.workers.length) :
      Transition execution raised now (.call grant)
        (execution.toCaller raised (.returned (.error cause)) (failureNotes cause))
  | detached (grant : Grant) (at_ : execution.caller = .detaching) :
      Transition execution raised now (.call grant) ⟨{ execution with
        caller := .returned (.error (.interrupted .completion))
        pool := { execution.pool with stage := .detached } }, raised,
        [.logged .owner (.poolDetached execution.pool.size execution.pool.stats.pending),
          .logged .owner (.runInterrupted .completion)]⟩
  | handedOver (grant : Grant) (at_ : execution.caller = .gathering)
      (stage : execution.pool.stage = .closed)
      (joined : execution.pool.joined = execution.pool.workers.length) :
      Transition execution raised now (.call grant) (execution.handOver raised now)
  -- A worker goes on with its loop.
  | locked (worker : Nat) (at_ : execution.pool.workers[worker]? = some .idle)
      (free : execution.pool.lockIsFree = true) :
      Transition execution raised now (.work worker)
        ⟨execution.withWorker worker .receiving, raised, []⟩
  | took (worker : Nat) (job : RunJob τ α) (rest : List (RunJob τ α))
      (at_ : execution.pool.workers[worker]? = some .receiving)
      (queue : execution.pool.queue = job :: rest) :
      Transition execution raised now (.work worker) ⟨{ execution with
        pool := { execution.pool.setWorker worker (.running job) with queue := rest } }, raised,
        [.jobTaken worker job.index]⟩
  | foundNone (worker : Nat) (at_ : execution.pool.workers[worker]? = some .receiving)
      (queue : execution.pool.queue = []) (stage : execution.pool.stage ≠ .launching)
      (shut : execution.pool.stage ≠ .accepting) :
      Transition execution raised now (.work worker)
        ⟨execution.withWorker worker .leaving, raised, []⟩
  | exited (worker : Nat) (at_ : execution.pool.workers[worker]? = some .leaving) :
      Transition execution raised now (.work worker)
        ⟨execution.withWorker worker .exited, raised,
          [.logged (.worker worker) (.workerExiting (execution.pool.config.workerName worker))]⟩
  | reported (worker : Nat) (at_ : execution.pool.workers[worker]? = some (.reporting .returned)) :
      Transition execution raised now (.work worker) ⟨{ execution with
        pool := { execution.pool.setWorker worker .idle with
          completed := execution.pool.completed + 1 } }, raised, []⟩
  -- A worker goes on with its job.
  | arrived (worker index : Nat) (task : τ)
      (at_ : execution.pool.workers[worker]? = some (.running ⟨index, task, .arriving⟩)) :
      Transition execution raised now (.work worker)
        ⟨{ execution.withWorker worker (.running ⟨index, task, .atGate⟩) with
          ready := execution.ready.countDown }, raised,
          [.logged (.worker worker) (.parked index)]⟩
  | slept (worker index : Nat) (task : τ)
      (at_ : execution.pool.workers[worker]? = some (.running ⟨index, task, .atGate⟩))
      (awake : execution.gate.isAsleep worker = false) (gate : execution.gate.state = .closed) :
      Transition execution raised now (.work worker) ⟨{ execution with
        gate := { execution.gate with asleep := worker :: execution.gate.asleep } }, raised, []⟩
  | called (worker index : Nat) (task : τ)
      (at_ : execution.pool.workers[worker]? = some (.running ⟨index, task, .atGate⟩))
      (awake : execution.gate.isAsleep worker = false) (gate : execution.gate.state = .opened) :
      Transition execution raised now (.work worker)
        ⟨execution.withWorker worker (.running ⟨index, task, .inBody now⟩), raised,
          [.bodyCalled worker index task]⟩
  | skipped (worker index : Nat) (task : τ)
      (at_ : execution.pool.workers[worker]? = some (.running ⟨index, task, .atGate⟩))
      (awake : execution.gate.isAsleep worker = false) (gate : execution.gate.state = .abandoned) :
      Transition execution raised now (.work worker)
        ⟨execution.withWorker worker (.running ⟨index, task, .ended⟩), raised,
          [.logged (.worker worker) (.skipped index)]⟩
  | bodyEnded (worker index : Nat) (task : τ) (since : Instant) (result : BodyResult α)
      (at_ : execution.pool.workers[worker]? = some (.running ⟨index, task, .inBody since⟩)) :
      Transition execution raised now (.bodyEnds worker result)
        ⟨execution.withWorker worker
            (.running ⟨index, task, .filing since (Outcome.capture index result)⟩), raised,
          .bodyEnded worker index result ::
            outcomeNotes worker index (Outcome.capture index result)⟩
  | filed (worker index : Nat) (task : τ) (since : Instant) (outcome : Outcome α)
      (at_ : execution.pool.workers[worker]? =
        some (.running ⟨index, task, .filing since outcome⟩)) :
      Transition execution raised now (.work worker)
        ⟨{ execution.withWorker worker (.running ⟨index, task, .counting⟩) with
          slots := execution.slots.file index since outcome }, raised, []⟩
  | countedDone (worker index : Nat) (task : τ)
      (at_ : execution.pool.workers[worker]? = some (.running ⟨index, task, .counting⟩)) :
      Transition execution raised now (.work worker)
        ⟨{ execution.withWorker worker (.running ⟨index, task, .ended⟩) with
          done := execution.done.countDown }, raised, []⟩
  | finished (worker index : Nat) (task : τ)
      (at_ : execution.pool.workers[worker]? = some (.running ⟨index, task, .ended⟩)) :
      Transition execution raised now (.work worker)
        ⟨execution.withWorker worker (.reporting .returned), raised,
          [.jobEnded worker index, .handleReleased task]⟩
  | woke (worker : Nat) (asleep : execution.gate.isAsleep worker = true) :
      Transition execution raised now (.wake worker)
        ⟨{ execution with gate := execution.gate.wake worker }, raised, []⟩

/-- The tasks and the configuration are those that the run was begun with. -/
structure Fixed (execution after : Execution τ α) : Prop where
  tasks : after.tasks = execution.tasks
  config : after.config = execution.config

theorem Fixed.poolSize {execution after : Execution τ α} (fixed : Fixed execution after) :
    after.poolSize = execution.poolSize := by
  rw [Execution.poolSize, Execution.poolSize, fixed.tasks, fixed.config]

theorem Fixed.taskCount {execution after : Execution τ α} (fixed : Fixed execution after) :
    after.taskCount = execution.taskCount := by
  rw [Execution.taskCount, Execution.taskCount, fixed.tasks]

theorem Transition.fixed {execution : Execution τ α} {raised : Bool} {now : Instant}
    {move : RunMove α} {next : Stepped τ α}
    (transition : execution.Transition raised now move next) :
    execution.Fixed next.execution := by
  cases transition <;> exact ⟨rfl, rfl⟩

/-- A worker has gone on from one phase to another, and nothing else has that others look at. -/
structure WorkerStep (execution after : Execution τ α) (worker : Nat)
    (old phase : WorkerPhase (RunJob τ α)) : Prop extends Fixed execution after where
  held : execution.pool.workers[worker]? = some old
  workers : after.pool.workers = execution.pool.workers.set worker phase
  gate : after.gate.state = execution.gate.state
  caller : after.caller = execution.caller

theorem WorkerStep.below {execution after : Execution τ α} {worker : Nat}
    {old phase : WorkerPhase (RunJob τ α)} (went : WorkerStep execution after worker old phase) :
    worker < execution.pool.workers.length :=
  (List.getElem?_eq_some_iff.mp went.held).1

/-! ### The list is complete -/

section Inversion

variable {execution : Execution τ α} {taken : List (Nat × Nat)} {raised : Bool} {now : Instant}
  {next : Stepped τ α}

theorem movePool_transition (move : PoolMove (RunJob τ α))
    (stepped : execution.movePool raised move = some next) :
    ∃ pool notes, execution.pool.Transition move pool notes ∧
      next = ⟨{ execution with pool }, raised, notes.flatMap RunNote.ofPoolNote⟩ := by
  unfold movePool at stepped
  split at stepped
  · cases stepped
  next pool notes moved =>
    cases stepped
    exact ⟨pool, notes, Pool.step_transition move moved, rfl⟩

theorem running_of_job? (phase : WorkerPhase (RunJob τ α)) (job : RunJob τ α)
    (runs : phase.job? = some job) : phase = .running job := by
  cases phase with
  | running other =>
    injection runs with same
    rw [same]
  | _ => cases runs

theorem job?_eq_some_iff (worker : Nat) (job : RunJob τ α) :
    execution.job? worker = some job ↔
      execution.pool.workers[worker]? = some (.running job) := by
  unfold job?
  cases held : execution.pool.workers[worker]? with
  | none => simp
  | some phase => cases phase <;> simp [WorkerPhase.job?]

private theorem join_transition (crewed : execution.Crewed taken) (grant : Grant)
    (at_ : execution.caller = .launching ∨ execution.caller.drains = true)
    (stepped : execution.movePool raised .join = some next) :
    Transition execution raised now (.call grant) next := by
  obtain ⟨pool, notes, moved, rfl⟩ := movePool_transition .join stepped
  cases moved with
  | joined stage exited => exact .joined grant at_ stage exited
  -- No worker of a run dies, since its jobs keep what the bodies throw.
  | joinedDead stage dead => exact (crewed _ _ dead).elim

private theorem launch_transition (staged : execution.Staged) (crewed : execution.Crewed taken)
    (at_ : execution.caller = .launching) (grant : Grant)
    (stepped : execution.launch raised grant = some next) :
    Transition execution raised now (.call grant) next := by
  unfold launch at stepped
  split at stepped
  · obtain ⟨pool, notes, moved, rfl⟩ := movePool_transition _ stepped
    cases moved with
    | spawned stage more => exact .spawned at_ stage more
    | opened stage last => exact .poolOpened at_ stage last
    | refused fault stage => exact .refused fault at_ stage
  next fault stage =>
    split at stepped
    next joined =>
      cases stepped
      exact .retreated grant fault at_ stage (by simpa [Pool.isJoined] using joined)
    · exact join_transition crewed grant (.inl at_) stepped
  next launching retreating =>
    -- The caller is still launching, so the pool can only just have opened.
    cases stepped
    have stage := (staged.placedAt at_).stage
    simp only [CallerPhase.Admits] at stage
    rcases stage with stage | ⟨fault, stage⟩ | stage
    · exact absurd stage launching
    · exact absurd stage (retreating fault)
    · exact .launched grant at_ stage

/-- While the pool takes jobs, no worker is over. -/
theorem Crewed.on_of_open (crewed : execution.Crewed taken)
    (stage : execution.pool.stage = .accepting) (worker : Nat)
    (phase : WorkerPhase (RunJob τ α)) (held : execution.pool.workers[worker]? = some phase) :
    phase.isOver = false := by
  have crew := crewed worker phase held
  cases phase with
  | exited => exact absurd stage crew.2.2
  | dead => exact crew.elim
  | _ => rfl

/-- While the pool takes jobs, a worker is there to receive them. -/
private theorem receiver_of_open (staged : execution.Staged) (crewed : execution.Crewed taken)
    (stage : execution.pool.stage = .accepting) : execution.pool.hasReceiver = true := by
  have manned := staged.manned
  simp only [stage, Manned] at manned
  -- The first worker will do: none leaves as long as jobs can come.
  have present : 0 < execution.pool.workers.length := manned ▸ staged.positive
  obtain ⟨phase, first⟩ : ∃ phase, execution.pool.workers[0]? = some phase :=
    ⟨_, List.getElem?_eq_getElem present⟩
  refine List.any_eq_true.mpr ⟨phase, List.mem_of_getElem? first, ?_⟩
  rw [crewed.on_of_open stage 0 phase first]
  rfl

private theorem submit_transition (staged : execution.Staged) (crewed : execution.Crewed taken)
    (index : Nat) (at_ : execution.caller = .submitting index) (grant : Grant)
    (stepped : execution.submit raised index = some next) :
    Transition execution raised now (.call grant) next := by
  have stage : execution.pool.stage = .accepting := by
    have stage := (staged.placedAt at_).stage
    simpa [CallerPhase.Admits] using stage
  -- Whether the pool knows of a call says which half of the submission is next.
  obtain ⟨-, -, calls | ⟨task, has, calls⟩⟩ := (staged.placedAt at_).submitted
  · simp only [submit, calls] at stepped
    cases has : execution.tasks[index]? with
    | none =>
      simp only [has] at stepped
      cases stepped
      exact .allSubmitted grant index at_ calls has
    | some task =>
      have accepts : execution.pool.isOpen = true := by simp [Pool.isOpen, stage]
      simp only [has, accepts, if_true] at stepped
      obtain ⟨first, moves, rfl⟩ := Option.map_eq_some_iff.mp stepped
      obtain ⟨pool, notes, moved, rfl⟩ := movePool_transition _ moves
      clear moves stepped
      cases moved with
      | counted caller job fresh stage =>
        have transition : Transition execution raised now _ _ := .counted grant index task
          at_ calls has
        simpa [calls, Stepped.thenNotes] using transition
      -- A pool that is open turns no job away.
      | turnedAway caller job fresh closed => simp [stage] at closed
  · have receives : execution.pool.hasReceiver = true := receiver_of_open staged crewed stage
    simp only [submit, calls, Bool.false_eq_true, if_false, receives, if_true] at stepped
    obtain ⟨first, moves, rfl⟩ := Option.map_eq_some_iff.mp stepped
    obtain ⟨pool, notes, moved, rfl⟩ := movePool_transition _ moves
    clear moves stepped
    cases moved with
    | sent caller own job call receiver =>
      have transition : Transition execution raised now _ _ := .sent grant index task
        at_ has calls
      simp only [calls, List.find?_cons, beq_self_eq_true, Option.some.injEq,
        SubmitCall.mk.injEq] at call
      obtain ⟨rfl, rfl, -⟩ := call
      simpa [calls, Stepped.thenCaller, RunNote.ofPoolNote] using transition
    -- A worker is there, so the job does not come back.
    | bounced caller own job call receiver => simp [receives] at receiver

private theorem drain_transition (staged : execution.Staged) (crewed : execution.Crewed taken)
    (at_ : execution.caller.drains = true) (grant : Grant) (last : Stepped τ α)
    (stepped : execution.drain raised last = some next) :
    Transition execution raised now (.call grant) next ∨ execution.pool.stage = .closed ∧
      execution.pool.joined = execution.pool.workers.length ∧ next = last := by
  unfold drain at stepped
  split at stepped
  next accepts =>
    obtain ⟨pool, notes, moved, rfl⟩ := movePool_transition _ stepped
    cases moved with
    | closed stage calls => exact .inl (.closed grant at_ (by simpa [Pool.isOpen] using accepts))
  next shut =>
    split at stepped
    next joined =>
      cases stepped
      -- A pool that the caller drains is open or closed, and this one is not open.
      have stage := staged.placed.stage
      rw [CallerPhase.admits_of_drains at_] at stage
      have closed := stage.resolve_left (by simpa [Pool.isOpen] using shut)
      exact .inr ⟨closed, by simpa [Pool.isJoined] using joined, rfl⟩
    · exact .inl (join_transition crewed grant (.inr at_) stepped)

private theorem poll_lowered (latch : Sync.Latch Nat) :
    latch.poll false = if latch.count = 0 then some .opened else none := by
  simp [Sync.Latch.poll, Sync.Latch.isOpen]

private theorem settle_closed (gate : Sync.Gate Nat) (state : Sync.GateState)
    (closed : gate.state = .closed) : gate.settle state = { state, asleep := [] } := by
  simp [Sync.Gate.settle, Sync.Gate.isSettled, closed]

private theorem call_transition (staged : execution.Staged) (crewed : execution.Crewed taken)
    (grant : Grant) (stepped : execution.call raised now grant = some next) :
    Transition execution raised now (.call grant) next := by
  unfold call at stepped
  split at stepped
  next at_ => exact launch_transition staged crewed at_ grant stepped
  next index at_ => exact submit_transition staged crewed index at_ grant stepped
  next at_ =>
    -- The look sees a raised flag first, whatever the latch says.
    cases raised with
    | true =>
      cases stepped
      exact .cutReadiness grant at_ rfl
    | false =>
      rw [poll_lowered] at stepped
      by_cases zero : execution.ready.count = 0
      · rw [if_pos zero] at stepped
        cases stepped
        exact .sawReady grant at_ rfl zero
      · rw [if_neg zero] at stepped
        cases stepped
  next at_ =>
    -- Only the caller settles the gate, and this is the first time.
    have gate := (staged.placedAt at_).gate
    rw [Sync.Gate.openUp, settle_closed _ _ gate] at stepped
    cases stepped
    exact .openedGate grant at_
  next at_ =>
    cases raised with
    | true =>
      cases stepped
      exact .cutCompletion grant at_ rfl
    | false =>
      rw [poll_lowered] at stepped
      by_cases zero : execution.done.count = 0
      · rw [if_pos zero] at stepped
        cases stepped
        exact .sawDone grant at_ rfl zero
      · rw [if_neg zero] at stepped
        cases stepped
  next cause at_ =>
    have gate := (staged.placedAt at_).gate
    rw [Sync.Gate.abandon, settle_closed _ _ gate] at stepped
    cases stepped
    exact .abandonedGate grant cause at_
  next cause at_ =>
    rcases drain_transition staged crewed (by simp [at_, CallerPhase.drains]) grant _ stepped
      with transition | ⟨stage, joined, rfl⟩
    · exact transition
    · exact .withdrawn grant cause at_ stage joined
  next at_ =>
    obtain ⟨first, moves, rfl⟩ := Option.map_eq_some_iff.mp stepped
    obtain ⟨pool, notes, moved, rfl⟩ := movePool_transition _ moves
    clear moves stepped
    cases moved with
    | detached stage calls => exact .detached grant at_
  next at_ =>
    rcases drain_transition staged crewed (by simp [at_, CallerPhase.drains]) grant _ stepped
      with transition | ⟨stage, joined, rfl⟩
    · exact transition
    · exact .handedOver grant at_ stage joined
  · cases stepped

private theorem dropQueue_of_empty (pool : Pool (RunJob τ α)) (empty : pool.queue = [])
    (notes : List (PoolNote (RunJob τ α))) : (pool.dropQueue notes).1 = pool ∧
      (pool.dropQueue notes).2.flatMap RunNote.ofPoolNote =
        notes.flatMap RunNote.ofPoolNote := by
  unfold Pool.dropQueue
  split
  · exact ⟨rfl, rfl⟩
  · constructor
    · rw [← empty]
    · simp [RunNote.ofPoolNote, empty]

private theorem loop_transition (crewed : execution.Crewed taken) (worker : Nat)
    (stepped : execution.movePool raised (.work worker) = some next) :
    Transition execution raised now (.work worker) next := by
  obtain ⟨pool, notes, moved, rfl⟩ := movePool_transition _ stepped
  cases moved with
  | locked _ idle free => exact .locked worker idle free
  | took _ job rest receiving queue => exact .took worker job rest receiving queue
  | foundNone _ receiving queue launched shut =>
    exact .foundNone worker receiving queue launched shut
  | reported _ ending _ _ reporting report =>
    -- Jobs of a run return, so the report counts them as completed.
    obtain ⟨rfl, -⟩ := crewed worker _ reporting
    cases report
    exact .reported worker reporting
  | died _ _ _ dying lost => exact (crewed worker _ dying).elim
  | exited _ _ _ leaving left =>
    -- The last worker to leave takes the queue with it, which is empty by then.
    have empty : (execution.pool.setWorker worker .exited).queue = [] :=
      (crewed worker _ leaving).1
    obtain ⟨same, silent⟩ := dropQueue_of_empty _ empty [.logged (.worker worker)
      (.workerExiting (execution.pool.config.workerName worker))]
    rw [left] at same silent
    rw [silent]
    cases same
    exact .exited worker leaving

/-- A job that goes on to another phase, in an execution that is otherwise changed already. -/
private theorem progress_withWorker (changed : Execution τ α) (worker : Nat) (job : RunJob τ α)
    (phase : JobPhase α) (notes : List (RunNote τ α))
    (stepped : changed.progress raised worker job phase notes = some next) :
    next = ⟨changed.withWorker worker (.running { job with phase }), raised, notes⟩ := by
  obtain ⟨first, moves, rfl⟩ := Option.map_eq_some_iff.mp stepped
  obtain ⟨pool, silent, moved, rfl⟩ := movePool_transition _ moves
  clear moves stepped
  cases moved with
  | progressed _ old _ running => rfl

private theorem workOn_transition (worker index : Nat) (task : τ) (phase : JobPhase α)
    (running : execution.pool.workers[worker]? = some (.running ⟨index, task, phase⟩))
    (stepped : execution.workOn raised now worker ⟨index, task, phase⟩ = some next) :
    Transition execution raised now (.work worker) next := by
  cases phase with
  | arriving =>
    rw [progress_withWorker _ _ _ _ _ stepped]
    exact .arrived worker index task running
  | atGate =>
    simp only [workOn] at stepped
    split at stepped
    · cases stepped
    next awake =>
      -- A worker that is awake looks at the gate once more, and may fall asleep again.
      rw [Bool.not_eq_true] at awake
      cases gate : execution.gate.state with
      | closed =>
        simp only [Sync.Gate.visit, gate] at stepped
        cases stepped
        have transition : Transition execution raised now _ _ := .slept worker index task
          running awake gate
        simpa [gate] using transition
      | opened =>
        simp only [Sync.Gate.visit, gate] at stepped
        rw [progress_withWorker _ _ _ _ _ stepped]
        exact .called worker index task running awake gate
      | abandoned =>
        simp only [Sync.Gate.visit, gate] at stepped
        rw [progress_withWorker _ _ _ _ _ stepped]
        exact .skipped worker index task running awake gate
  | inBody since => cases stepped
  | filing since outcome =>
    rw [progress_withWorker _ _ _ _ _ stepped]
    exact .filed worker index task since outcome running
  | counting =>
    rw [progress_withWorker _ _ _ _ _ stepped]
    exact .countedDone worker index task running
  | ended =>
    obtain ⟨first, moves, rfl⟩ := Option.map_eq_some_iff.mp stepped
    obtain ⟨pool, notes, moved, rfl⟩ := movePool_transition _ moves
    clear moves stepped
    cases moved with
    | finished _ job ending held =>
      -- The pool knows the job that it ends as the one that the worker runs.
      obtain rfl : job = ⟨index, task, .ended⟩ := by
        rw [held] at running
        injection running with running
        injection running
      exact .finished worker index task running

/-- Every step of a sound execution is one of the transitions. -/
theorem Staged.transition (staged : execution.Staged) (crewed : execution.Crewed taken)
    (move : RunMove α) (stepped : execution.step raised now move = some next) :
    Transition execution raised now move next := by
  cases move with
  | call grant => exact call_transition staged crewed grant stepped
  | work worker =>
    simp only [step, work] at stepped
    split at stepped
    next job running =>
      exact workOn_transition worker job.index job.task job.phase
        ((job?_eq_some_iff worker job).mp running) stepped
    · exact loop_transition crewed worker stepped
  | bodyEnds worker result =>
    simp only [step, bodyEnds] at stepped
    split at stepped
    next index task since running =>
      rw [progress_withWorker _ _ _ _ _ stepped]
      exact .bodyEnded worker index task since result ((job?_eq_some_iff worker _).mp running)
    · cases stepped
  | wake worker =>
    simp only [step, wake] at stepped
    split at stepped
    next asleep =>
      cases stepped
      exact .woke worker asleep
    · cases stepped

end Inversion

end Execution

end GatedRun
