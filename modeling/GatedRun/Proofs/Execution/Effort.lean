import GatedRun.Proofs.Execution.Sleepers

/-!
# How long an execution can go on

A step is idle if it changes nothing but who sleeps at the gate: a worker finds the gate closed and
falls asleep, or a sleeper wakes for no reason. `workLeft` bounds the steps that are not idle: a
task yet to be submitted, a job and a worker each stand for the steps that they may still take, and
every step that is not idle takes some of them off. `stepsLeft` counts those who may still fall
asleep too, so every step takes some off it but a wake-up for no reason, which adds one.
-/

namespace GatedRun

variable {τ α : Type}

/-! ### What is left to do -/

/-- The steps that the caller has yet to take to get from place to place, at most. -/
def CallerPhase.stepsLeft : CallerPhase α → Nat
  | .launching => 6
  | .submitting _ => 5
  | .awaitingReady => 4
  | .opening => 3
  | .awaitingDone | .abandoning _ => 2
  | .withdrawing _ | .detaching | .gathering => 1
  | .returned _ => 0

/-- The steps that a job has yet to take, and its worker after it. -/
def JobPhase.stepsLeft : JobPhase α → Nat
  | .arriving => 10
  | .atGate => 9
  | .inBody _ => 8
  | .filing _ _ => 7
  | .counting => 6
  | .ended => 5

/-- The steps that a worker has yet to take unless it takes one more job. -/
def WorkerPhase.stepsLeft : WorkerPhase (RunJob τ α) → Nat
  | .running job => job.phase.stepsLeft
  | .reporting _ => 4
  | .idle => 3
  | .receiving => 2
  | .leaving | .dying => 1
  | .exited | .dead => 0

def WorkerPhase.isAtGate : WorkerPhase (RunJob τ α) → Bool
  | .running ⟨_, _, .atGate⟩ => true
  | _ => false

/-- A pool is closed, or its launch refused, in one step. -/
def PoolStage.stepsLeft : PoolStage → Nat
  | .launching | .accepting => 1
  | _ => 0

def RunMove.isWake : RunMove α → Bool
  | .wake _ => true
  | _ => false

def Turn.isWake (turn : Turn α) : Bool := turn.move.isWake

/-- The steps that the workers of a pool have yet to take, all together. -/
def crewStepsLeft : List (WorkerPhase (RunJob τ α)) → Nat
  | [] => 0
  | phase :: rest => phase.stepsLeft + crewStepsLeft rest

theorem crewStepsLeft_append (crew : List (WorkerPhase (RunJob τ α)))
    (phase : WorkerPhase (RunJob τ α)) :
    crewStepsLeft (crew ++ [phase]) = crewStepsLeft crew + phase.stepsLeft := by
  induction crew with
  | nil => exact Nat.add_comm _ _
  | cons first rest ih => rw [List.cons_append, crewStepsLeft, ih, crewStepsLeft, Nat.add_assoc]

/-- A worker that goes on changes what the crew has left by what it has left itself. -/
theorem crewStepsLeft_set (crew : List (WorkerPhase (RunJob τ α))) (worker : Nat)
    (old phase : WorkerPhase (RunJob τ α)) (at_ : crew[worker]? = some old) :
    crewStepsLeft (crew.set worker phase) + old.stepsLeft =
      crewStepsLeft crew + phase.stepsLeft := by
  induction crew generalizing worker with
  | nil => cases at_
  | cons first rest ih =>
    cases worker with
    | zero =>
      obtain rfl : first = old := Option.some.inj at_
      simp only [List.set_cons_zero, crewStepsLeft]
      omega
    | succ worker =>
      have smaller := ih worker at_
      simp only [List.set_cons_succ, crewStepsLeft]
      omega

namespace Execution

/-- Whether a move, if it is possible, changes nothing but who sleeps at the gate. -/
def isIdle (execution : Execution τ α) : RunMove α → Bool
  | .wake _ => true
  | .work worker => execution.pool.workers[worker]?.any WorkerPhase.isAtGate &&
      !execution.gate.isSettled
  | _ => false

/-- What the steps that are not idle have left to do. Each weight exceeds by one what becomes of
the thing: a task is counted, its call sends a job, and a worker that receives takes the job. -/
def workLeft (execution : Execution τ α) : Nat :=
  execution.caller.stepsLeft + execution.pool.stage.stepsLeft +
    (execution.poolSize - execution.pool.joined) +
    4 * (execution.poolSize - execution.pool.workers.length) +
    11 * (execution.taskCount - execution.pool.submitted) + 10 * execution.pool.calls.length +
    9 * execution.pool.queue.length + crewStepsLeft execution.pool.workers

/-- How many workers may still fall asleep at the gate. -/
def wakeful (execution : Execution τ α) : Nat :=
  if execution.gate.state = .closed then execution.poolSize - execution.gate.asleep.length else 0

def stepsLeft (execution : Execution τ α) : Nat := execution.workLeft + execution.wakeful

variable {execution : Execution τ α} {notes : List (RunNote τ α)} {raised : Bool} {now : Instant}
  {move : RunMove α} {next : Stepped τ α}

theorem start_stepsLeft (runner : Runner τ) (sound : runner.IsSound) (now : Instant) :
    (start (α := α) runner.tasks runner.config now).1.stepsLeft =
      11 * runner.taskCount + 6 * runner.poolSize + 7 := by
  rw [start_eq runner sound now]
  have size : (unstarted (α := α) runner.tasks runner.config now .launching).poolSize =
    runner.poolSize := rfl
  have count : (unstarted (α := α) runner.tasks runner.config now .launching).taskCount =
    runner.taskCount := rfl
  simp only [stepsLeft, workLeft, wakeful, size, count]
  simp only [unstarted, Pool.unstarted, CallerPhase.stepsLeft, PoolStage.stepsLeft, crewStepsLeft,
    List.length_nil, if_true]
  omega

/-! ### Idle steps -/

/-- A worker that falls asleep at the gate, or a sleeper that wakes: the two idle steps. -/
theorem Transition.idle_cases (transition : execution.Transition raised now move next)
    (idle : execution.isIdle move = true) :
    (∃ worker, move = .work worker ∧ execution.gate.state = .closed ∧
      worker ∉ execution.gate.asleep ∧ next = ⟨{ execution with
        gate := { execution.gate with asleep := worker :: execution.gate.asleep } }, raised, []⟩) ∨
    ∃ worker, move = .wake worker ∧ worker ∈ execution.gate.asleep ∧
      next = ⟨{ execution with gate := execution.gate.wake worker }, raised, []⟩ := by
  cases transition with
  | slept worker index task at_ awake gate =>
    exact .inl ⟨worker, rfl, gate, (isAsleep_eq_false_iff worker).mp awake, rfl⟩
  | woke worker asleep => exact .inr ⟨worker, rfl, (isAsleep_iff worker).mp asleep, rfl⟩
  | called worker index task at_ awake gate | skipped worker index task at_ awake gate =>
    simp [isIdle, Sync.Gate.isSettled, gate] at idle
  | locked worker at_ | took worker job rest at_ queue | foundNone worker at_ | exited worker at_
  | reported worker at_ | arrived worker index task at_ | filed worker index task since outcome at_
  | countedDone worker index task at_ | finished worker index task at_ =>
    simp [isIdle, at_, WorkerPhase.isAtGate] at idle
  | _ => cases idle

/-- An idle step changes nothing but who sleeps at the gate, and leaves the interrupt flag alone. -/
theorem Transition.idle (transition : execution.Transition raised now move next)
    (idle : execution.isIdle move = true) : next.raised = raised ∧ next.notes = [] ∧
      next.execution = { execution with
        gate := { execution.gate with asleep := next.execution.gate.asleep } } := by
  rcases transition.idle_cases idle with ⟨worker, -, -, -, rfl⟩ | ⟨worker, -, -, rfl⟩
  · exact ⟨rfl, rfl, rfl⟩
  · exact ⟨rfl, rfl, rfl⟩

theorem Transition.workLeft_eq (transition : execution.Transition raised now move next)
    (idle : execution.isIdle move = true) : next.execution.workLeft = execution.workLeft := by
  rw [(transition.idle idle).2.2]
  rfl

/-! ### Steps that are not idle -/

/-- What is left to do, with the sizes that stay the same over a whole run. -/
private theorem workLeft_of_fixed {after : Execution τ α} (fixed : Fixed execution after) :
    after.workLeft = after.caller.stepsLeft + after.pool.stage.stepsLeft +
      (execution.poolSize - after.pool.joined) +
      4 * (execution.poolSize - after.pool.workers.length) +
      11 * (execution.taskCount - after.pool.submitted) + 10 * after.pool.calls.length +
      9 * after.pool.queue.length + crewStepsLeft after.pool.workers := by
  rw [workLeft, fixed.poolSize, fixed.taskCount]

/-- A worker's step takes off what is left to do as much as the worker has come on, if nothing else
has changed that counts. -/
private theorem workLeft_set {after : Execution τ α} {worker : Nat}
    {old phase : WorkerPhase (RunJob τ α)} (went : WorkerStep execution after worker old phase)
    (stage : after.pool.stage = execution.pool.stage)
    (joined : after.pool.joined = execution.pool.joined)
    (submitted : after.pool.submitted = execution.pool.submitted)
    (calls : after.pool.calls = execution.pool.calls)
    (queue : after.pool.queue = execution.pool.queue)
    (less : phase.stepsLeft < old.stepsLeft) : after.workLeft < execution.workLeft := by
  have weighed := crewStepsLeft_set _ worker old phase went.held
  rw [workLeft_of_fixed went.toFixed, went.workers, went.caller, stage, joined, submitted, calls,
    queue, List.length_set, workLeft]
  omega

/-- The caller's step takes off what is left to do as much as the caller has come on, if it leaves
the pool alone. -/
private theorem workLeft_caller {after : Execution τ α} (fixed : Fixed execution after)
    (pool : after.pool = execution.pool)
    (less : after.caller.stepsLeft < execution.caller.stepsLeft) :
    after.workLeft < execution.workLeft := by
  rw [workLeft_of_fixed fixed, pool, workLeft]
  omega

/-- Every step that is not idle takes some of the work off. -/
theorem Sound.workLeft_lt (sound : execution.Sound notes)
    (transition : execution.Transition raised now move next)
    (busy : execution.isIdle move = false) : next.execution.workLeft < execution.workLeft := by
  have fixed := transition.fixed
  have staged := sound.staged
  cases transition with
  -- A worker that is there has less to do than one that is yet to be started.
  | spawned at_ stage more =>
    have few := staged.manned
    rw [stage] at few
    rw [workLeft_of_fixed fixed]
    simp only [workLeft, stage, List.length_append, List.length_singleton, crewStepsLeft_append,
      WorkerPhase.stepsLeft]
    simp only [Manned] at few
    omega
  | poolOpened at_ stage last =>
    have few := staged.manned
    rw [stage] at few
    rw [workLeft_of_fixed fixed]
    simp only [workLeft, stage, List.length_append, List.length_singleton, crewStepsLeft_append,
      WorkerPhase.stepsLeft, PoolStage.stepsLeft]
    simp only [Manned] at few
    omega
  | refused fault at_ stage =>
    rw [workLeft_of_fixed fixed]
    simp only [workLeft, stage, PoolStage.stepsLeft]
    omega
  | retreated | launched | allSubmitted | sawReady | cutReadiness | openedGate | sawDone
  | cutCompletion | abandonedGate | withdrawn | handedOver =>
    refine workLeft_caller fixed rfl ?_
    simp [*, toCaller, handOver, CallerPhase.stepsLeft]
  | counted grant index task at_ calls has =>
    obtain ⟨-, total, -⟩ := (staged.placedAt at_).submitted
    have below : index < execution.taskCount := (List.getElem?_eq_some_iff.mp has).1
    simp only [calls, List.length_nil] at total
    rw [workLeft_of_fixed fixed]
    simp only [workLeft, calls, List.length_nil,
      List.length_singleton]
    omega
  | sent grant index task at_ has calls =>
    rw [workLeft_of_fixed fixed]
    simp only [workLeft, at_, calls, List.length_append,
      List.length_nil, List.length_singleton, CallerPhase.stepsLeft]
    omega
  | closed grant at_ stage =>
    rw [workLeft_of_fixed fixed]
    simp only [workLeft, stage, PoolStage.stepsLeft]
    omega
  | joined grant at_ stage exited =>
    have below := (List.getElem?_eq_some_iff.mp exited).1
    have few := staged.length_le
    rw [workLeft_of_fixed fixed]
    simp only [workLeft]
    omega
  | detached grant at_ =>
    rw [workLeft_of_fixed fixed]
    simp only [workLeft, at_, CallerPhase.stepsLeft,
      PoolStage.stepsLeft]
    omega
  | took worker job rest at_ queue =>
    -- The job has not come far, so it stands for as many steps as when it was in the queue.
    obtain ⟨arriving, -⟩ := sound.queued.fresh job (by simp [queue])
    have weighed := crewStepsLeft_set _ worker _ (.running job) at_
    simp only [WorkerPhase.stepsLeft, arriving, JobPhase.stepsLeft] at weighed
    rw [workLeft_of_fixed fixed]
    simp only [workLeft, queue, Pool.setWorker, List.length_set,
      List.length_cons]
    omega
  | slept worker index task at_ awake gate =>
    simp [isIdle, at_, WorkerPhase.isAtGate, Sync.Gate.isSettled, gate] at busy
  | woke worker asleep => cases busy
  | locked worker at_ | foundNone worker at_ | exited worker at_ | reported worker at_
  | arrived worker index task at_ | called worker index task at_
  | skipped worker index task at_ | bodyEnded worker index task since result at_
  | filed worker index task since outcome at_ | countedDone worker index task at_
  | finished worker index task at_ =>
    exact workLeft_set ⟨fixed, at_, rfl, rfl, rfl⟩ rfl rfl rfl rfl rfl
      (by simp [WorkerPhase.stepsLeft, JobPhase.stepsLeft])

/-! ### Falling asleep and waking up -/

private theorem wakeful_eq {after : Execution τ α} (fixed : Fixed execution after)
    (gate : after.gate = execution.gate) : after.wakeful = execution.wakeful := by
  rw [wakeful, wakeful, fixed.poolSize, gate]

private theorem wakeful_le (transition : execution.Transition raised now move next)
    (busy : execution.isIdle move = false) : next.execution.wakeful ≤ execution.wakeful := by
  have fixed := transition.fixed
  cases transition with
  -- Nobody falls asleep at a settled gate.
  | openedGate | abandonedGate => simp [wakeful]
  | slept worker index task at_ awake gate =>
    simp [isIdle, at_, WorkerPhase.isAtGate, Sync.Gate.isSettled, gate] at busy
  | woke worker asleep => cases busy
  | _ => exact Nat.le_of_eq (wakeful_eq fixed rfl)

private theorem wakeful_closed (fixed : Fixed execution next.execution)
    (closed : next.execution.gate.state = .closed) : next.execution.wakeful =
      execution.poolSize - next.execution.gate.asleep.length := by
  rw [wakeful, if_pos closed, fixed.poolSize]

private theorem length_wake (gate : Sync.Gate Nat) (worker : Nat) (nodup : gate.asleep.Nodup)
    (asleep : worker ∈ gate.asleep) :
    (gate.wake worker).asleep.length + 1 = gate.asleep.length := by
  have erased : (gate.wake worker).asleep = gate.asleep.erase worker := by
    rw [nodup.erase_eq_filter worker]
    exact List.filter_congr fun other _ => by rw [bne, beq_eq_decide, decide_not]
  rw [erased, List.length_erase_of_mem asleep]
  have positive := List.length_pos_of_mem asleep
  omega

/-- Every step takes some off the steps that are left, unless a sleeper wakes for no reason. -/
theorem Sound.stepsLeft_lt (sound : execution.Sound notes) (resting : execution.Resting)
    (transition : execution.Transition raised now move next) (wakes : move.isWake = false) :
    next.execution.stepsLeft < execution.stepsLeft := by
  rw [stepsLeft, stepsLeft]
  cases idle : execution.isIdle move with
  | false =>
    have work := sound.workLeft_lt transition idle
    have awake := wakeful_le transition idle
    omega
  | true =>
    rw [transition.workLeft_eq idle]
    have fixed := transition.fixed
    have few := (resting.step transition).length_le
    rcases transition.idle_cases idle with ⟨worker, rfl, closed, -, rfl⟩ | ⟨worker, rfl, -, -⟩
    -- The sleepers are one more now, and still no more than there are workers.
    · have crowd := sound.staged.length_le
      simp only [List.length_cons] at few
      rw [wakeful_closed fixed closed, wakeful, if_pos closed, List.length_cons]
      omega
    · cases wakes

/-- A wake-up for no reason adds one step: to fall asleep again. -/
theorem Sound.stepsLeft_wake (sound : execution.Sound notes) (resting : execution.Resting)
    (transition : execution.Transition raised now move next) (wakes : move.isWake = true) :
    next.execution.stepsLeft = execution.stepsLeft + 1 := by
  have idle : execution.isIdle move = true := by
    cases move with
    | wake worker => rfl
    | _ => cases wakes
  rw [stepsLeft, stepsLeft, transition.workLeft_eq idle]
  have fixed := transition.fixed
  rcases transition.idle_cases idle with ⟨worker, rfl, -⟩ | ⟨worker, rfl, asleep, rfl⟩
  · cases wakes
  -- Only behind a closed gate there is a sleeper to wake.
  · have closed : execution.gate.state = .closed := by
      by_contra settled
      rw [resting.settled settled] at asleep
      cases asleep
    have one := length_wake execution.gate worker resting.nodup asleep
    have few := resting.length_le
    have crowd := sound.staged.length_le
    rw [wakeful_closed fixed closed, wakeful, if_pos closed]
    change _ + (_ - (execution.gate.wake worker).asleep.length) = _
    omega

end Execution

end GatedRun
