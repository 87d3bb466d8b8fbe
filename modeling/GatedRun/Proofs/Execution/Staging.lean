import GatedRun.Proofs.Execution.Transition

/-!
# The caller and its workers

Each transition keeps `Staged` and `Crewed`. The caller moves from place to place, and each place
asks for no more than what the last one left behind. A worker's step concerns that worker alone.
-/

namespace GatedRun

variable {τ α : Type}

namespace Execution

variable {execution : Execution τ α} {taken : List (Nat × Nat)} {raised : Bool} {now : Instant}
  {move : RunMove α} {next : Stepped τ α}

theorem Staged.length_le (staged : execution.Staged) :
    execution.pool.workers.length ≤ execution.poolSize := by
  have manned := staged.manned
  cases stage : execution.pool.stage <;> simp only [stage, Manned] at manned <;> omega

theorem Staged.joined_le (staged : execution.Staged) :
    execution.pool.joined ≤ execution.pool.workers.length := by
  refine Nat.le_of_not_lt fun more => ?_
  have exited := staged.joined _ more
  rw [List.getElem?_eq_none (Nat.le_refl _)] at exited
  cases exited

/-! ### The caller -/

/-- A worker that is not over yet goes on. The caller has not joined it. -/
theorem Staged.withWorker (staged : execution.Staged) (worker : Nat)
    (old phase : WorkerPhase (RunJob τ α)) (at_ : execution.pool.workers[worker]? = some old)
    (on : old.isOver = false) : (execution.withWorker worker phase).Staged := by
  have length : (execution.withWorker worker phase).pool.workers.length =
      execution.pool.workers.length := List.length_set
  refine { staged with manned := ?_, joined := ?_, placed := { staged.placed with joined := ?_ } }
  · have manned := staged.manned
    simp only [Manned, length]
    exact manned
  · intro other below
    have exited := staged.joined other below
    -- A worker that was joined has exited, so it is not the one that goes on.
    have different : worker ≠ other := by
      rintro rfl
      rw [at_] at exited
      rw [Option.some.inj exited] at on
      cases on
    simpa [Execution.withWorker, Pool.setWorker, List.getElem?_set_ne different] using exited
  · rw [length]
    exact staged.placed.joined

private theorem Staged.submitted_one (staged : execution.Staged) (index : Nat) (task : τ)
    (at_ : execution.caller = .submitting index) (calls : execution.pool.calls = [])
    (has : execution.tasks[index]? = some task) : ({ execution with pool := { execution.pool with
      submitted := execution.pool.submitted + 1
      calls := [{ caller := 0, job := { index, task } }] } } : Execution τ α).Staged := by
  have placed := staged.placedAt at_
  obtain ⟨bound, total, -⟩ := placed.submitted
  refine { staged with placed := ?_ }
  simp only [at_]
  refine { placed with submitted := ⟨bound, ?_, .inr ⟨task, has, rfl⟩⟩ }
  simp [total, calls]

private theorem Staged.sent_one (staged : execution.Staged) (index : Nat) (task : τ)
    (at_ : execution.caller = .submitting index) (has : execution.tasks[index]? = some task)
    (calls : execution.pool.calls = [{ caller := 0, job := { index, task } }]) :
    ({ execution with
      caller := .submitting (index + 1)
      pool := { execution.pool with
        queue := execution.pool.queue ++ [{ index, task }], calls := [] } } :
      Execution τ α).Staged := by
  have placed := staged.placedAt at_
  obtain ⟨-, total, -⟩ := placed.submitted
  -- The job that was counted is sent now, so the count is that of the jobs sent once more.
  have below : index < execution.tasks.length := (List.getElem?_eq_some_iff.mp has).1
  refine { staged with placed := { placed with submitted := ⟨below, ?_, .inl rfl⟩ } }
  simpa [calls] using total

private theorem Staged.all_submitted (staged : execution.Staged) (index : Nat)
    (at_ : execution.caller = .submitting index) (calls : execution.pool.calls = [])
    (none : execution.tasks[index]? = none) :
    ({ execution with caller := .awaitingReady } : Execution τ α).Staged := by
  have placed := staged.placedAt at_
  obtain ⟨bound, total, -⟩ := placed.submitted
  have above : execution.tasks.length ≤ index := List.getElem?_eq_none_iff.mp none
  refine { staged with placed := { placed with submitted := ⟨?_, calls⟩ } }
  -- Past the last task, the number of jobs sent is the number of tasks.
  have same : index = execution.taskCount := Nat.le_antisymm bound above
  change execution.pool.submitted = execution.taskCount
  rw [total, calls, same]
  rfl

theorem Staged.step (staged : execution.Staged)
    (transition : execution.Transition raised now move next) : next.execution.Staged := by
  cases transition with
  -- The caller starts the workers.
  | spawned at_ stage more =>
    refine { staged with manned := ?_, joined := ?_, placed := ?_ }
    · simp only [stage, Manned, List.length_append, List.length_singleton]
      exact staged.width ▸ more
    · intro worker below
      exact List.getElem?_append_left
        (List.getElem?_eq_some_iff.mp (staged.joined worker below)).1 ▸ staged.joined worker below
    · have placed := staged.placedAt at_
      simp only [at_]
      exact { placed with joined := (absurd · Bool.false_ne_true) }
  | poolOpened at_ stage last =>
    have few := staged.manned
    simp only [stage, Manned] at few
    refine { staged with manned := ?_, joined := ?_, placed := ?_ }
    · have width := staged.width
      simp only [Manned, List.length_append, List.length_singleton]
      change execution.pool.workers.length + 1 = execution.poolSize
      omega
    · intro worker below
      exact List.getElem?_append_left
        (List.getElem?_eq_some_iff.mp (staged.joined worker below)).1 ▸ staged.joined worker below
    · have placed := staged.placedAt at_
      simp only [at_]
      exact { placed with
        stage := by simp [CallerPhase.Admits]
        joined := (absurd · Bool.false_ne_true) }
  | refused fault at_ stage =>
    have manned := staged.manned
    rw [stage] at manned
    have placed := staged.placedAt at_
    refine { staged with manned := manned, placed := ?_ }
    simp only [at_]
    exact { placed with stage := .inr (.inl ⟨fault, rfl⟩) }
  | retreated grant fault at_ stage joined =>
    have placed := staged.placedAt at_
    exact { staged with placed := { placed with
      stage := stage
      foreseen := .inl ⟨fault, rfl⟩
      joined := fun _ => joined } }
  | launched grant at_ stage =>
    have placed := staged.placedAt at_
    obtain ⟨zero, calls⟩ := placed.submitted
    exact { staged with placed := { placed with
      stage := by simp [CallerPhase.Admits, toCaller, stage]
      submitted := ⟨Nat.zero_le _, by simp [toCaller, zero, calls], .inl calls⟩ } }
  -- The caller submits the tasks.
  | counted grant index task at_ calls has => exact staged.submitted_one index task at_ calls has
  | sent grant index task at_ has calls => exact staged.sent_one index task at_ has calls
  | allSubmitted grant index at_ calls none => exact staged.all_submitted index at_ calls none
  -- The caller waits, and settles the gate. What it has seen of a latch is what its next place asks
  -- for.
  | sawReady grant at_ lowered zero =>
    have placed := staged.placedAt at_
    exact { staged with placed := { placed with ready := fun _ => zero } }
  | cutReadiness grant at_ up =>
    have placed := staged.placedAt at_
    exact { staged with placed := { placed with foreseen := rfl } }
  | openedGate grant at_ =>
    have placed := staged.placedAt at_
    exact { staged with placed := { placed with gate := rfl } }
  | sawDone grant at_ lowered zero =>
    have placed := staged.placedAt at_
    exact { staged with placed := { placed with
      stage := by
        have stage := placed.stage
        simp only [CallerPhase.Admits] at stage
        simp [CallerPhase.Admits, toCaller, stage]
      done := fun _ => zero } }
  | cutCompletion grant at_ up =>
    have placed := staged.placedAt at_
    exact { staged with placed := { placed with } }
  | abandonedGate grant cause at_ =>
    have placed := staged.placedAt at_
    exact { staged with placed := { placed with
      gate := rfl
      stage := by
        have stage := placed.stage
        simp only [CallerPhase.Admits] at stage
        simp [CallerPhase.Admits, stage]
      ready := (absurd · Bool.false_ne_true) } }
  -- The caller ends the pool. It is done with that only once all workers are joined.
  | closed grant at_ stage =>
    have manned := staged.manned
    rw [stage] at manned
    refine { staged with manned := manned, placed := { staged.placed with stage := ?_ } }
    simp [CallerPhase.admits_of_drains at_]
  | joined grant at_ stage exited =>
    refine { staged with joined := ?_, placed := { staged.placed with joined := ?_ } }
    · intro worker below
      rcases Nat.lt_succ_iff_lt_or_eq.mp below with below | rfl
      · exact staged.joined worker below
      · exact exited
    -- None of the places from which workers are joined says that all are.
    · intro joined
      rcases at_ with at_ | at_
      · simp [at_, CallerPhase.hasJoined] at joined
      · cases caller : execution.caller <;> simp [caller, CallerPhase.drains] at at_
        all_goals simp [caller, CallerPhase.hasJoined] at joined
  | withdrawn grant cause at_ stage joined =>
    have placed := staged.placedAt at_
    -- No other failure leads to an abandoned gate.
    obtain rfl : cause = .interrupted .readiness := placed.foreseen
    exact { staged with placed := { placed with
      stage := by simp [CallerPhase.Admits, toCaller, stage]
      foreseen := .inr ⟨_, rfl⟩
      joined := fun _ => joined } }
  | detached grant at_ =>
    have placed := staged.placedAt at_
    have manned := staged.manned
    have stage := placed.stage
    simp only [CallerPhase.Admits] at stage
    rw [stage] at manned
    exact { staged with manned := manned, placed := { placed with
      stage := by simp [CallerPhase.Admits]
      foreseen := .inr ⟨_, rfl⟩
      joined := (absurd · Bool.false_ne_true) } }
  | handedOver grant at_ stage joined =>
    have placed := staged.placedAt at_
    exact { staged with placed := { placed with
      stage := by simp [CallerPhase.Admits, handOver, stage]
      foreseen := trivial
      joined := fun _ => joined } }
  -- A worker goes on. The caller's place asks only that a latch at zero stays there.
  | locked worker at_ free => exact staged.withWorker worker _ _ at_ rfl
  | took worker job rest at_ queue =>
    have kept := staged.withWorker worker _ (.running job) at_ rfl
    exact { kept with placed := { kept.placed with } }
  | foundNone worker at_ queue stage shut => exact staged.withWorker worker _ _ at_ rfl
  | exited worker at_ => exact staged.withWorker worker _ _ at_ rfl
  | reported worker at_ =>
    have kept := staged.withWorker worker _ .idle at_ rfl
    exact { kept with placed := { kept.placed with } }
  | arrived worker index task at_ =>
    have kept := staged.withWorker worker _ (.running ⟨index, task, .atGate⟩) at_ rfl
    refine { kept with placed := { kept.placed with ready := ?_ } }
    intro sees
    simp [Sync.Latch.countDown, staged.placed.ready sees]
  | slept worker index task at_ awake gate => exact { staged with placed := { staged.placed with } }
  | called worker index task at_ awake gate => exact staged.withWorker worker _ _ at_ rfl
  | skipped worker index task at_ awake gate => exact staged.withWorker worker _ _ at_ rfl
  | bodyEnded worker index task since result at_ => exact staged.withWorker worker _ _ at_ rfl
  | filed worker index task since outcome at_ =>
    have kept := staged.withWorker worker _ (.running ⟨index, task, .counting⟩) at_ rfl
    exact { kept with placed := { kept.placed with } }
  | countedDone worker index task at_ =>
    have kept := staged.withWorker worker _ (.running ⟨index, task, .ended⟩) at_ rfl
    refine { kept with placed := { kept.placed with done := ?_ } }
    intro sees
    simp [Sync.Latch.countDown, staged.placed.done sees]
  | finished worker index task at_ => exact staged.withWorker worker _ _ at_ rfl
  | woke worker asleep => exact { staged with placed := { staged.placed with } }

/-! ### The workers -/

/-- Behind a closed gate a job has not come far, so it may be behind any gate. -/
private theorem behind_of_closed (phase : JobPhase α) (behind : phase.Behind .closed)
    (gate : Sync.GateState) : phase.Behind gate := by
  rcases JobPhase.early_of_closed behind with rfl | rfl
  · trivial
  · trivial

/-- What a worker does stays allowed if the tasks stay, a settled gate stays, and no job comes to
a queue that a worker has found empty for good. -/
private theorem Crew.transfer (after : Execution τ α) (more : List (Nat × Nat)) (worker : Nat)
    (phase : WorkerPhase (RunJob τ α)) (crew : execution.Crew taken worker phase)
    (fixed : Fixed execution after)
    (gate : execution.gate.state ≠ .closed → after.gate.state = execution.gate.state)
    (left : execution.pool.queue = [] ∧ execution.pool.stage ≠ .launching ∧
        execution.pool.stage ≠ .accepting →
      after.pool.queue = [] ∧ after.pool.stage ≠ .launching ∧ after.pool.stage ≠ .accepting) :
    after.Crew (taken ++ more) worker phase := by
  cases phase with
  | idle => trivial
  | receiving => trivial
  | running job =>
    obtain ⟨took, has, behind⟩ := crew
    refine ⟨List.mem_append_left _ took, fixed.tasks ▸ has, ?_⟩
    -- If the gate is settled in this very step, the job is still in front of it.
    by_cases closed : execution.gate.state = .closed
    · rw [closed] at behind
      exact behind_of_closed job.phase behind _
    · rw [gate closed]
      exact behind
  | reporting ending =>
    obtain ⟨returned, settled⟩ := crew
    exact ⟨returned, gate settled ▸ settled⟩
  | dying => exact crew
  | leaving => exact left crew
  | exited => exact left crew
  | dead => exact crew

private theorem Crewed.transfer (after : Execution τ α) (more : List (Nat × Nat))
    (crewed : execution.Crewed taken) (workers : after.pool.workers = execution.pool.workers)
    (fixed : Fixed execution after)
    (gate : execution.gate.state ≠ .closed → after.gate.state = execution.gate.state)
    (left : execution.pool.queue = [] ∧ execution.pool.stage ≠ .launching ∧
        execution.pool.stage ≠ .accepting →
      after.pool.queue = [] ∧ after.pool.stage ≠ .launching ∧ after.pool.stage ≠ .accepting) :
    after.Crewed (taken ++ more) := by
  intro worker phase held
  rw [workers] at held
  exact Crew.transfer after more worker phase (crewed worker phase held) fixed gate left

private theorem Crewed.set (after : Execution τ α) (more : List (Nat × Nat)) (worker : Nat)
    (old phase : WorkerPhase (RunJob τ α)) (crewed : execution.Crewed taken)
    (went : WorkerStep execution after worker old phase)
    (left : execution.pool.queue = [] ∧ execution.pool.stage ≠ .launching ∧
        execution.pool.stage ≠ .accepting →
      after.pool.queue = [] ∧ after.pool.stage ≠ .launching ∧ after.pool.stage ≠ .accepting)
    (own : after.Crew (taken ++ more) worker phase) : after.Crewed (taken ++ more) := by
  intro other current held
  rw [went.workers, List.getElem?_set] at held
  split at held
  next same =>
    subst same
    split at held
    · cases held
      exact own
    · cases held
  · exact Crew.transfer after more other current (crewed other current held) went.toFixed
      (fun _ => went.gate) left

/-- A job that goes on is the same job of the same worker. -/
private theorem Crewed.goOn (after : Execution τ α) (more : List (Nat × Nat)) (worker : Nat)
    (job : RunJob τ α) (phase : JobPhase α) (crewed : execution.Crewed taken)
    (went : WorkerStep execution after worker (.running job) (.running { job with phase }))
    (left : execution.pool.queue = [] ∧ execution.pool.stage ≠ .launching ∧
        execution.pool.stage ≠ .accepting →
      after.pool.queue = [] ∧ after.pool.stage ≠ .launching ∧ after.pool.stage ≠ .accepting)
    (behind : phase.Behind execution.gate.state) : after.Crewed (taken ++ more) := by
  obtain ⟨took, has, -⟩ := crewed worker _ went.held
  refine crewed.set after more worker _ _ went left ⟨List.mem_append_left _ took, ?_, ?_⟩
  · rw [went.tasks]
    exact has
  · rw [went.gate]
    exact behind

theorem Crewed.step (staged : execution.Staged) (crewed : execution.Crewed taken)
    (queued : execution.Queued taken) (transition : execution.Transition raised now move next) :
    next.execution.Crewed (taken ++ takes next.notes) := by
  have fixed := transition.fixed
  cases transition with
  -- Until the pool has opened no worker has left, and the new one has done nothing.
  | spawned at_ stage more | poolOpened at_ stage last =>
    intro worker phase held
    simp only [List.getElem?_append] at held
    split at held
    · exact Crew.transfer _ _ worker phase (crewed worker phase held) fixed (fun _ => rfl)
        fun left => absurd stage left.2.1
    · rw [List.getElem?_singleton] at held
      split at held
      · cases held
        trivial
      · cases held
  | refused fault at_ stage =>
    exact crewed.transfer _ _ rfl fixed (fun _ => rfl) fun left => absurd stage left.2.1
  | sent grant index task at_ has calls =>
    have stage := (staged.placedAt at_).stage
    simp only [CallerPhase.Admits] at stage
    exact crewed.transfer _ _ rfl fixed (fun _ => rfl) fun left => absurd stage left.2.2
  -- Only the caller settles the gate, from a place at which it is closed.
  | openedGate grant at_ | abandonedGate grant cause at_ =>
    have closed := (staged.placedAt at_).gate
    exact crewed.transfer _ _ rfl fixed (fun settled => absurd closed settled) id
  | closed grant at_ stage =>
    exact crewed.transfer _ _ rfl fixed (fun _ => rfl) fun left => absurd stage left.2.2
  | detached grant at_ =>
    have stage := (staged.placedAt at_).stage
    simp only [CallerPhase.Admits] at stage
    exact crewed.transfer _ _ rfl fixed (fun _ => rfl) fun left => absurd stage left.2.2
  | retreated | launched | counted | allSubmitted | sawReady | cutReadiness | sawDone
  | cutCompletion | joined | withdrawn | handedOver | slept | woke =>
    exact crewed.transfer _ _ rfl fixed (fun _ => rfl) id
  | locked worker at_ free =>
    exact crewed.set _ _ worker _ _ ⟨fixed, at_, rfl, rfl, rfl⟩ id trivial
  | took worker job rest at_ queue =>
    obtain ⟨arriving, has⟩ := queued.fresh job (by simp [queue])
    -- With a job in the queue, nobody can have found it empty for good.
    refine crewed.set _ _ worker _ (.running job) ⟨fixed, at_, rfl, rfl, rfl⟩ (fun left => ?_)
      ⟨?_, has, ?_⟩
    · rw [queue] at left
      cases left.1
    · simp [takes, RunNote.take?]
    · rw [arriving]
      trivial
  -- A worker leaves a queue that is empty and closed, and so for good.
  | foundNone worker at_ queue stage shut =>
    exact crewed.set _ _ worker _ _ ⟨fixed, at_, rfl, rfl, rfl⟩ id ⟨queue, stage, shut⟩
  | exited worker at_ =>
    exact crewed.set _ _ worker _ _ ⟨fixed, at_, rfl, rfl, rfl⟩ id (crewed worker _ at_)
  | reported worker at_ =>
    exact crewed.set _ _ worker _ .idle ⟨fixed, at_, rfl, rfl, rfl⟩ id trivial
  | arrived worker index task at_ =>
    exact crewed.goOn _ _ worker _ .atGate ⟨fixed, at_, rfl, rfl, rfl⟩ id trivial
  | called worker index task at_ awake gate =>
    exact crewed.goOn _ _ worker _ (.inBody now) ⟨fixed, at_, rfl, rfl, rfl⟩ id gate
  | skipped worker index task at_ awake gate =>
    have settled : execution.gate.state ≠ .closed := by simp [gate]
    exact crewed.goOn _ _ worker _ .ended ⟨fixed, at_, rfl, rfl, rfl⟩ id settled
  | bodyEnded worker index task since result at_ =>
    have opened : execution.gate.state = .opened := (crewed worker _ at_).2.2
    exact crewed.goOn _ _ worker _ (.filing since (Outcome.capture index result))
      ⟨fixed, at_, rfl, rfl, rfl⟩ id opened
  | filed worker index task since outcome at_ =>
    have opened : execution.gate.state = .opened := (crewed worker _ at_).2.2
    exact crewed.goOn _ _ worker _ .counting ⟨fixed, at_, rfl, rfl, rfl⟩ id opened
  | countedDone worker index task at_ =>
    have opened : execution.gate.state = .opened := (crewed worker _ at_).2.2
    have settled : execution.gate.state ≠ .closed := by simp [opened]
    exact crewed.goOn _ _ worker _ .ended ⟨fixed, at_, rfl, rfl, rfl⟩ id settled
  | finished worker index task at_ =>
    obtain ⟨-, -, settled⟩ := crewed worker _ at_
    exact crewed.set _ _ worker _ _ ⟨fixed, at_, rfl, rfl, rfl⟩ id ⟨rfl, settled⟩

end Execution

end GatedRun
