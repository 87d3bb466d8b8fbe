import GatedRun.Proofs.Execution.Barrier
import GatedRun.Proofs.Execution.Effort

/-!
# No execution gets stuck

The caller waits for workers: for jobs to come to a latch, and for workers to exit. The workers wait
for jobs, for the caller to settle the gate, for the lock of the queue, and for the bodies that they
called. None of them waits in a circle, so as long as the caller has not returned or a worker is not
over, some step that is not idle is possible (`canGo_of_unfinished`).

Together with `stepsLeft` this is all there is to termination: `no_deadlock`.
-/

namespace GatedRun

variable {τ α : Type}

namespace Execution

variable {execution : Execution τ α} {notes : List (RunNote τ α)} {raised : Bool} {grant : Grant}
  {now : Instant} {ends : Nat → BodyResult α → Prop}

/-! ### Possible steps -/

/-- Some step that is not idle is possible. The flag and the time are as they are, the system
answers a request for a thread as it does, and the body that a worker called can end in certain
ways. -/
def CanGo (execution : Execution τ α) (raised : Bool) (now : Instant) (grant : Grant)
    (ends : Nat → BodyResult α → Prop) : Prop :=
  ∃ move, (execution.step raised now move).isSome = true ∧ execution.isIdle move = false ∧
    (move = .call grant ∨ (∃ worker, move = .work worker) ∨
      ∃ worker result, move = .bodyEnds worker result ∧ ends worker result)

/-- No body that is called is itself blocked. -/
def Unblocked (execution : Execution τ α) (ends : Nat → BodyResult α → Prop) : Prop :=
  ∀ (worker index : Nat) (task : τ) (since : Instant),
    execution.pool.workers[worker]? = some (.running ⟨index, task, .inBody since⟩) →
    ∃ result, ends worker result

/-- The queue has something to tell: a job, or that none will come. -/
def IsFed (execution : Execution τ α) : Prop :=
  execution.pool.queue ≠ [] ∨
    execution.pool.stage ≠ .launching ∧ execution.pool.stage ≠ .accepting

theorem CanGo.ofCall (possible : (execution.call raised now grant).isSome = true) :
    execution.CanGo raised now grant ends :=
  ⟨.call grant, possible, rfl, .inl rfl⟩

theorem CanGo.ofWork (worker : Nat) (possible : (execution.work raised now worker).isSome = true)
    (busy : execution.isIdle (.work worker) = false) : execution.CanGo raised now grant ends :=
  ⟨.work worker, possible, busy, .inr (.inl ⟨worker, rfl⟩)⟩

theorem movePool_isSome (move : PoolMove (RunJob τ α)) :
    (execution.movePool raised move).isSome = (execution.pool.step move).isSome := by
  unfold movePool
  cases execution.pool.step move <;> rfl

theorem progress_isSome (worker : Nat) (old job : RunJob τ α) (phase : JobPhase α)
    (told : List (RunNote τ α))
    (held : execution.pool.workers[worker]? = some (.running old)) :
    (execution.progress raised worker job phase told).isSome = true := by
  simp [progress, movePool_isSome, Pool.step, Pool.progress, held]

/-! ### The workers -/

theorem canGo_receiving (fed : execution.IsFed) (worker : Nat)
    (held : execution.pool.workers[worker]? = some .receiving) :
    execution.CanGo raised now grant ends := by
  apply CanGo.ofWork worker
  · simp only [work, job?, held, Option.bind_some, WorkerPhase.job?, movePool_isSome, Pool.step,
      Pool.work, Pool.receive]
    cases queue : execution.pool.queue with
    | cons job rest => rfl
    | nil =>
      rcases fed with some | ⟨launched, shut⟩
      · exact absurd queue some
      · cases stage : execution.pool.stage with
        | launching => exact absurd stage launched
        | accepting => exact absurd stage shut
        | _ => rfl
  · simp [isIdle, held, WorkerPhase.isAtGate]

/-- A worker in front of the lock can go on, unless another one holds it, and then that one can. -/
theorem canGo_idle (fed : execution.IsFed) (worker : Nat)
    (held : execution.pool.workers[worker]? = some .idle) :
    execution.CanGo raised now grant ends := by
  cases free : execution.pool.lockIsFree with
  | true =>
    apply CanGo.ofWork worker
    · simp [work, job?, held, WorkerPhase.job?, movePool_isSome, Pool.step, Pool.work, free]
    · simp [isIdle, held, WorkerPhase.isAtGate]
  | false =>
    obtain ⟨phase, member, holds⟩ : ∃ phase ∈ execution.pool.workers, phase.holdsLock = true := by
      simpa [Pool.lockIsFree] using free
    obtain ⟨other, held'⟩ := List.mem_iff_getElem?.mp member
    cases phase with
    | receiving => exact canGo_receiving fed other held'
    | _ => cases holds

/-- A job can go on, unless it is at a closed gate. -/
theorem Resting.canGo_running (resting : execution.Resting) (unblocked : execution.Unblocked ends)
    (worker : Nat) (job : RunJob τ α)
    (held : execution.pool.workers[worker]? = some (.running job))
    (front : job.phase = .atGate → execution.gate.state ≠ .closed) :
    execution.CanGo raised now grant ends := by
  have own := (job?_eq_some_iff worker job).mpr held
  obtain ⟨index, task, phase⟩ := job
  cases phase with
  | inBody since =>
    obtain ⟨result, possible⟩ := unblocked worker index task since held
    refine ⟨.bodyEnds worker result, ?_, rfl, .inr (.inr ⟨worker, result, rfl, possible⟩)⟩
    simp only [Execution.step, bodyEnds, own]
    exact progress_isSome worker _ _ _ _ held
  | atGate =>
    -- Nobody sleeps at a settled gate, so the job learns at once how it was settled.
    have settled := front rfl
    have awake : execution.gate.isAsleep worker = false := by
      rw [isAsleep_eq_false_iff, resting.settled settled]
      exact List.not_mem_nil
    apply CanGo.ofWork worker
    · simp only [work, own, workOn, awake, Bool.false_eq_true, if_false, Sync.Gate.visit]
      cases gate : execution.gate.state with
      | closed => exact absurd gate settled
      | opened | abandoned => exact progress_isSome worker _ _ _ _ held
    · simp [isIdle, Sync.Gate.isSettled, settled]
  | arriving | filing | counting =>
    apply CanGo.ofWork worker
    · simp only [work, own, workOn]
      exact progress_isSome worker _ _ _ _ held
    · simp [isIdle, held, WorkerPhase.isAtGate]
  | ended =>
    apply CanGo.ofWork worker
    · simp [work, own, workOn, movePool_isSome, Pool.step, Pool.finish, held]
    · simp [isIdle, held, WorkerPhase.isAtGate]

/-- A worker that is not over can go on, or another one can, unless it waits for a job or at the
closed gate. -/
theorem Resting.canGo_worker (resting : execution.Resting) (unblocked : execution.Unblocked ends)
    (fed : execution.IsFed) (worker : Nat) (phase : WorkerPhase (RunJob τ α))
    (held : execution.pool.workers[worker]? = some phase) (on : phase.isOver = false)
    (front : ∀ job, phase = .running job → job.phase = .atGate →
      execution.gate.state ≠ .closed) : execution.CanGo raised now grant ends := by
  cases phase with
  | idle => exact canGo_idle fed worker held
  | receiving => exact canGo_receiving fed worker held
  | running job => exact resting.canGo_running unblocked worker job held (front job rfl)
  | reporting | dying | leaving =>
    apply CanGo.ofWork worker
    · simp [work, job?, held, WorkerPhase.job?, movePool_isSome, Pool.step, Pool.work]
    · simp [isIdle, held, WorkerPhase.isAtGate]
  | exited | dead => cases on

/-! ### The caller -/

/-- A look that learns nothing has found a count above zero. -/
theorem count_pos_of_poll (latch : Sync.Latch Nat) (look : latch.poll raised = none) :
    0 < latch.count := by
  unfold Sync.Latch.poll at look
  split at look
  · cases look
  · split at look
    · cases look
    next shut => exact Nat.pos_of_ne_zero (by simpa [Sync.Latch.isOpen] using shut)

theorem arriving_of_isArriving (phase : WorkerPhase (RunJob τ α))
    (arriving : phase.isArriving = true) :
    ∃ index task, phase = .running ⟨index, task, .arriving⟩ := by
  cases phase with
  | running job =>
    obtain ⟨index, task, phase⟩ := job
    cases phase with
    | arriving => exact ⟨index, task, rfl⟩
    | _ => cases arriving
  | _ => cases arriving

theorem running_of_isBusy (phase : WorkerPhase (RunJob τ α)) (busy : phase.isBusy = true) :
    ∃ job, phase = .running job := by
  cases phase with
  | running job => exact ⟨job, rfl⟩
  | _ => cases busy

/-- If fewer jobs are taken than there are workers, one of these runs none. -/
theorem Sound.free_worker (sound : execution.Sound notes)
    (few : (takes notes).length < execution.pool.workers.length) :
    ∃ (worker : Nat) (phase : WorkerPhase (RunJob τ α)),
      execution.pool.workers[worker]? = some phase ∧
        ∀ job : RunJob τ α, phase ≠ .running job := by
  by_contra all
  push Not at all
  have inside : List.range execution.pool.workers.length ⊆ (takes notes).map Prod.fst := by
    intro worker below
    obtain ⟨phase, held⟩ : ∃ phase, execution.pool.workers[worker]? = some phase :=
      ⟨_, List.getElem?_eq_getElem (List.mem_range.mp below)⟩
    obtain ⟨job, rfl⟩ := all worker phase held
    exact List.mem_map.mpr ⟨_, (sound.crewed worker _ held).1, rfl⟩
  have many := (List.nodup_range.subperm inside).length_le
  simp only [List.length_range, List.length_map] at many
  omega

section Unfinished

variable (sound : execution.Sound notes) (resting : execution.Resting)
  (unblocked : execution.Unblocked ends)

include sound resting unblocked

/-- Unless all workers are joined, the next one has exited, or some worker can go on. -/
theorem canGo_join (stage : execution.pool.stage.Retreats ∨ execution.pool.stage = .closed)
    (left : execution.pool.isJoined = false)
    (front : ∀ (worker : Nat) (job : RunJob τ α),
      execution.pool.workers[worker]? = some (.running job) → execution.gate.state ≠ .closed) :
    (execution.pool.step .join).isSome = true ∨ execution.CanGo raised now grant ends := by
  have below : execution.pool.joined < execution.pool.workers.length := by
    have few := sound.staged.joined_le
    have other : execution.pool.joined ≠ execution.pool.workers.length := by
      simpa [Pool.isJoined] using left
    omega
  obtain ⟨phase, held⟩ : ∃ phase, execution.pool.workers[execution.pool.joined]? = some phase :=
    ⟨_, List.getElem?_eq_getElem below⟩
  have fed : execution.IsFed := by
    right
    rcases stage with ⟨fault, stage⟩ | stage <;> simp [stage]
  cases gone : phase.isOver with
  | false =>
    refine .inr (resting.canGo_worker unblocked fed _ phase held gone ?_)
    rintro job rfl -
    exact front _ job held
  | true =>
    left
    cases phase with
    | exited => rcases stage with ⟨fault, stage⟩ | stage <;>
        simp [Pool.step, Pool.join, stage, held]
    | dead => exact (sound.crewed _ _ held).elim
    | _ => cases gone

theorem canGo_launching (at_ : execution.caller = .launching) :
    execution.CanGo raised now grant ends := by
  have placed := sound.staged.placedAt at_
  have stage := placed.stage
  simp only [CallerPhase.Admits] at stage
  rcases stage with stage | ⟨fault, stage⟩ | stage
  · apply CanGo.ofCall
    simp only [call, at_, launch, stage, movePool_isSome, Pool.step, Pool.spawn]
    cases grant with
    | refused fault => rfl
    | given =>
      simp only
      split <;> rfl
  · -- The workers that were started before have got no job.
    have front (worker : Nat) (job : RunJob τ α)
        (held : execution.pool.workers[worker]? = some (.running job)) :
        execution.gate.state ≠ .closed := by
      have total := sound.queued.total
      have took := List.length_pos_of_mem (sound.crewed worker _ held).1
      rw [placed.submitted.1] at total
      omega
    cases joined : execution.pool.isJoined with
    | true =>
      apply CanGo.ofCall
      simp [call, at_, launch, stage, joined]
    | false =>
      have retreats : execution.pool.stage.Retreats ∨ execution.pool.stage = .closed :=
        .inl ⟨fault, stage⟩
      rcases canGo_join sound resting unblocked retreats joined front with possible | go
      · apply CanGo.ofCall
        simp [call, at_, launch, stage, joined, movePool_isSome, possible]
      · exact go
  · apply CanGo.ofCall
    simp [call, at_, launch, stage]

omit resting unblocked in
theorem canGo_submitting (next : Nat) (at_ : execution.caller = .submitting next) :
    execution.CanGo raised now grant ends := by
  have placed := sound.staged.placedAt at_
  have stage := placed.stage
  simp only [CallerPhase.Admits] at stage
  apply CanGo.ofCall
  obtain ⟨-, -, calls | ⟨task, has, calls⟩⟩ := placed.submitted
  · cases has : execution.tasks[next]? with
    | none => simp [call, at_, submit, calls, has]
    | some task =>
      simp [call, at_, submit, calls, has, Pool.isOpen, stage, movePool_isSome, Pool.step,
        Pool.count]
  · simp only [call, at_, submit, calls, Bool.false_eq_true, if_false, Option.isSome_map,
      movePool_isSome, Pool.step, Pool.send, List.find?_cons, beq_self_eq_true]
    split <;> rfl

/-- The ready latch opens: as long as it has not, fewer jobs have come to it than there are workers,
so a job is on its way, or there is a task left for a worker that has none. -/
theorem canGo_awaitingReady (at_ : execution.caller = .awaitingReady) :
    execution.CanGo raised now grant ends := by
  have placed := sound.staged.placedAt at_
  have closed : execution.gate.state = .closed := placed.gate
  have stage := placed.stage
  simp only [CallerPhase.Admits] at stage
  have manned := sound.staged.manned
  simp only [stage, Manned] at manned
  cases look : execution.ready.poll raised with
  | some wait =>
    apply CanGo.ofCall
    cases wait <;> simp [call, at_, look]
  | none =>
    have left := count_pos_of_poll execution.ready look
    have counted := sound.counted.ready closed
    by_cases arriving : 0 < execution.pool.workers.countP WorkerPhase.isArriving
    · obtain ⟨phase, member, arrives⟩ := List.countP_pos_iff.mp arriving
      obtain ⟨index, task, rfl⟩ := arriving_of_isArriving phase arrives
      obtain ⟨worker, held⟩ := List.mem_iff_getElem?.mp member
      exact resting.canGo_running unblocked worker _ held (fun waits => by cases waits)
    · -- All jobs that were taken have come to the latch, and they are fewer than the workers.
      have few : (takes notes).length < execution.pool.workers.length := by omega
      have queue : execution.pool.queue ≠ [] := by
        have total := sound.queued.total
        have bounded := sound.staged.bounded
        rw [placed.submitted.1, placed.submitted.2, List.length_nil] at total
        apply List.ne_nil_of_length_pos
        omega
      obtain ⟨worker, phase, held, free⟩ := sound.free_worker few
      refine resting.canGo_worker unblocked (.inl queue) worker phase held
        (sound.crewed.on_of_open stage worker phase held) ?_
      intro job runs
      exact absurd runs (free job)

/-- The done latch opens: as long as it has not, a job is not done, or in the queue. -/
theorem canGo_awaitingDone (at_ : execution.caller = .awaitingDone) :
    execution.CanGo raised now grant ends := by
  have placed := sound.staged.placedAt at_
  have opened : execution.gate.state = .opened := placed.gate
  have settled : execution.gate.state ≠ .closed := by simp [opened]
  have stage := placed.stage
  simp only [CallerPhase.Admits] at stage
  cases look : execution.done.poll raised with
  | some wait =>
    apply CanGo.ofCall
    cases wait <;> simp [call, at_, look]
  | none =>
    have left := count_pos_of_poll execution.done look
    have counted := sound.counted.done (by simp [opened])
    by_cases busy : 0 < execution.pool.workers.countP WorkerPhase.isBusy
    · obtain ⟨phase, member, runs⟩ := List.countP_pos_iff.mp busy
      obtain ⟨job, rfl⟩ := running_of_isBusy phase runs
      obtain ⟨worker, held⟩ := List.mem_iff_getElem?.mp member
      exact resting.canGo_running unblocked worker job held fun _ => settled
    · have queue : execution.pool.queue ≠ [] := by
        have total := sound.queued.total
        rw [placed.submitted.1, placed.submitted.2, List.length_nil] at total
        apply List.ne_nil_of_length_pos
        omega
      -- Any worker will do, since none is over and none is held up.
      have manned := sound.staged.manned
      simp only [stage, Manned] at manned
      have present : 0 < execution.pool.workers.length := manned ▸ sound.staged.positive
      obtain ⟨phase, held⟩ : ∃ phase, execution.pool.workers[0]? = some phase :=
        ⟨_, List.getElem?_eq_getElem present⟩
      exact resting.canGo_worker unblocked (.inl queue) 0 phase held
        (sound.crewed.on_of_open stage 0 phase held) fun _ _ _ => settled

/-- The caller that ends the pool gets through with it: behind a settled gate no worker of a closed
pool is held up. -/
theorem canGo_drain (at_ : execution.caller.drains = true) (last : Stepped τ α) :
    (execution.drain raised last).isSome = true ∨ execution.CanGo raised now grant ends := by
  have placed := sound.staged.placed
  have settled : execution.gate.state ≠ .closed := by
    rw [placed.gate]
    cases caller : execution.caller with
    | withdrawing | gathering => simp [CallerPhase.gate]
    | _ => simp [caller, CallerPhase.drains] at at_
  have calls : execution.pool.calls = [] := by
    have submitted := placed.submitted
    cases caller : execution.caller with
    | withdrawing | gathering =>
      rw [caller] at submitted
      exact submitted.2
    | _ => simp [caller, CallerPhase.drains] at at_
  have stage := placed.stage
  rw [CallerPhase.admits_of_drains at_] at stage
  rcases stage with stage | stage
  · left
    simp [drain, Pool.isOpen, stage, movePool_isSome, Pool.step, Pool.close, calls]
  · cases joined : execution.pool.isJoined with
    | true =>
      left
      simp [drain, Pool.isOpen, stage, joined]
    | false =>
      rcases canGo_join sound resting unblocked (.inr stage) joined fun _ _ _ => settled
        with possible | go
      · left
        simp [drain, Pool.isOpen, stage, joined, movePool_isSome, possible]
      · exact .inr go

omit resting unblocked in
theorem canGo_detaching (at_ : execution.caller = .detaching) :
    execution.CanGo raised now grant ends := by
  have placed := sound.staged.placedAt at_
  have stage := placed.stage
  simp only [CallerPhase.Admits] at stage
  apply CanGo.ofCall
  simp [call, at_, movePool_isSome, Pool.step, Pool.detach, stage, placed.submitted.2]

/-- After the return only the workers of a pool that was let go are still at work, and its gate is
open. -/
theorem canGo_returned (result : Except RunError (ResultSet α))
    (at_ : execution.caller = .returned result) (going : execution.pool.isQuiet = false) :
    execution.CanGo raised now grant ends := by
  have placed := sound.staged.placedAt at_
  have left : (CallerPhase.returned result).hasJoined = false := by
    by_contra joined
    have quiet := sound.staged.quiet_of_joined (placed.joined (by simpa using joined))
    rw [quiet] at going
    cases going
  obtain rfl : result = .error (.interrupted .completion) := by
    rcases sound.result_cases result ((result?_eq_some_iff result).mpr at_) with
      ⟨results, rfl⟩ | completion | rfl | ⟨fault, rfl⟩
    · cases left
    · exact completion
    · cases left
    · cases left
  have stage := placed.stage
  simp only [CallerPhase.Admits] at stage
  have settled : execution.gate.state ≠ .closed := by simp [placed.gate, CallerPhase.gate]
  obtain ⟨phase, member, on⟩ : ∃ phase ∈ execution.pool.workers, phase.isOver = false := by
    simpa [Pool.isQuiet] using going
  obtain ⟨worker, held⟩ := List.mem_iff_getElem?.mp member
  exact resting.canGo_worker unblocked (.inr (by simp [stage])) worker phase held on
    fun _ _ _ => settled

/-- As long as the caller has not returned or a worker is not over, the execution can go on. -/
theorem canGo_of_unfinished (going : execution.isQuiet = false) :
    execution.CanGo raised now grant ends := by
  cases caller : execution.caller with
  | launching => exact canGo_launching sound resting unblocked caller
  | submitting next => exact canGo_submitting sound next caller
  | awaitingReady => exact canGo_awaitingReady sound resting unblocked caller
  | awaitingDone => exact canGo_awaitingDone sound resting unblocked caller
  | opening | abandoning =>
    apply CanGo.ofCall
    simp [call, caller]
  | withdrawing | gathering =>
    rcases canGo_drain sound resting unblocked (by rw [caller]; rfl) _ with possible | go
    · apply CanGo.ofCall
      simpa only [call, caller] using possible
    · exact go
  | detaching => exact canGo_detaching sound caller
  | returned result =>
    refine canGo_returned sound resting unblocked result caller ?_
    simpa [isQuiet, result?, caller] using going

end Unfinished

/-! ### Runs -/

/-- Every turn of a run takes one off the steps that are left, but for those in which a sleeper
wakes for no reason. -/
theorem SoundFor.stepsLeft_replay {runner : Runner τ} (sound : SoundFor runner execution notes)
    (resting : execution.Resting) (turns : List (Turn α)) (last : Execution τ α)
    (more : List (RunNote τ α))
    (ran : GatedRun.replay advance execution turns = some (last, more)) :
    turns.length + last.stepsLeft ≤
      execution.stepsLeft + 2 * turns.countP Turn.isWake := by
  induction turns generalizing execution notes more with
  | nil =>
    obtain ⟨rfl, -⟩ := (replay_nil_iff execution last more).mp ran
    simp
  | cons turn turns ih =>
    obtain ⟨after, first, rest, advanced, finished, rfl⟩ :=
      (replay_cons_iff execution last turn turns more).mp ran
    obtain ⟨next, stepped, same⟩ := Option.map_eq_some_iff.mp advanced
    cases same
    have transition := sound.toSound.transition stepped
    have later := ih (sound.step stepped) (resting.step transition) rest finished
    rw [List.length_cons, List.countP_cons]
    cases wakes : turn.isWake with
    | false =>
      have fewer := sound.toSound.stepsLeft_lt resting transition wakes
      simp only [Bool.false_eq_true, if_false]
      omega
    | true =>
      have one := sound.toSound.stepsLeft_wake resting transition wakes
      simp only [if_true]
      omega

/-- A schedule that never ends, and the states that it leads through. -/
structure EndlessRun (τ α : Type) where
  state : Nat → Execution τ α
  turn : Nat → Turn α
  steps : ∀ k, ∃ told, (state k).advance (turn k) = some (state (k + 1), told)

namespace EndlessRun

variable {run : EndlessRun τ α}

theorem sound {runner : Runner τ} (begun : SoundFor runner (run.state 0) notes) (k : Nat) :
    ∃ known, SoundFor runner (run.state k) known := by
  induction k with
  | zero => exact ⟨notes, begun⟩
  | succ k ih =>
    obtain ⟨known, before⟩ := ih
    obtain ⟨told, stepped⟩ := run.steps k
    obtain ⟨next, stepped, same⟩ := Option.map_eq_some_iff.mp stepped
    obtain ⟨reached, -⟩ := Prod.mk.inj same
    exact ⟨_, reached ▸ before.step stepped⟩

/-- No step adds to the work that is left, and one that is not idle takes some off. -/
theorem workLeft_step {runner : Runner τ} (begun : SoundFor runner (run.state 0) notes) (k : Nat) :
    (run.state (k + 1)).workLeft ≤ (run.state k).workLeft ∧
      ((run.state k).isIdle (run.turn k).move = false →
        (run.state (k + 1)).workLeft < (run.state k).workLeft) := by
  obtain ⟨known, before⟩ := sound begun k
  obtain ⟨told, stepped⟩ := run.steps k
  obtain ⟨next, stepped, same⟩ := Option.map_eq_some_iff.mp stepped
  obtain ⟨reached, -⟩ := Prod.mk.inj same
  have transition := before.toSound.transition stepped
  rw [← reached]
  cases idle : (run.state k).isIdle (run.turn k).move with
  | false =>
    have fewer := before.toSound.workLeft_lt transition idle
    exact ⟨Nat.le_of_lt fewer, fun _ => fewer⟩
  | true => exact ⟨Nat.le_of_eq (transition.workLeft_eq idle), nofun⟩

/-- Only idle steps can go on for ever. -/
theorem idle_from {runner : Runner τ} (begun : SoundFor runner (run.state 0) notes) :
    ∃ bound, ∀ k, bound ≤ k → (run.state k).isIdle (run.turn k).move = true := by
  have falling (k j : Nat) : (run.state (k + j)).workLeft ≤ (run.state k).workLeft := by
    induction j with
    | zero => exact Nat.le_refl _
    | succ j ih => exact Nat.le_trans (workLeft_step begun (k + j)).1 ih
  -- Each step that is not idle leaves less work, so there is a last one.
  have settles (work : Nat) : ∀ start, (run.state start).workLeft ≤ work →
      ∃ bound, ∀ k, bound ≤ k → (run.state k).isIdle (run.turn k).move = true := by
    induction work with
    | zero =>
      intro start none
      refine ⟨start, fun k above => ?_⟩
      obtain ⟨j, rfl⟩ := Nat.exists_eq_add_of_le above
      by_contra busy
      have fewer := (workLeft_step begun (start + j)).2 (by simpa using busy)
      have left := falling start j
      omega
    | succ work ih =>
      intro start few
      by_cases all : ∀ k, start ≤ k → (run.state k).isIdle (run.turn k).move = true
      · exact ⟨start, all⟩
      · push Not at all
        obtain ⟨k, above, busy⟩ := all
        obtain ⟨j, rfl⟩ := Nat.exists_eq_add_of_le above
        have fewer := (workLeft_step begun (start + j)).2 (by simpa using busy)
        have left := falling start j
        exact ih (start + j + 1) (by omega)
  exact settles _ 0 (Nat.le_refl _)

end EndlessRun

/-- Whatever the interleaving, an execution that is not quiet can go on with a step that is not
idle, as long as the bodies that it called can end. Each such step leaves less work, and every step
but a wake-up for no reason leaves fewer steps; so the turns of a run are no more than its tasks and
its threads ask for, but for wake-ups and what they entail, and no run goes on for ever except by
idle steps. -/
theorem no_deadlock (opening : Opening τ) (extensions : List (Extension τ))
    {interrupt : Interrupt} (runner : Runner τ)
    (built : Runner.build opening extensions interrupt = .ok runner) (now : Instant)
    (turns : List (Turn α))
    (execution : Execution τ α) (notes : List (RunNote τ α))
    (ran : GatedRun.replay advance (start runner.tasks runner.config now).1 turns =
      some (execution, notes)) :
    (execution.isQuiet = false → ∀ (raised : Bool) (later : Instant) (grant : Grant)
      (ends : Nat → BodyResult α → Prop), execution.Unblocked ends →
      execution.CanGo raised later grant ends) ∧
    (∀ (raised : Bool) (later : Instant) (move : RunMove α) (next : Stepped τ α),
      execution.step raised later move = some next →
      (execution.isIdle move = false → next.execution.workLeft < execution.workLeft) ∧
      (execution.isIdle move = true → next.raised = raised ∧ next.notes = [] ∧
        next.execution.workLeft = execution.workLeft ∧ next.execution = { execution with
          gate := { execution.gate with asleep := next.execution.gate.asleep } }) ∧
      (move.isWake = false → next.execution.stepsLeft < execution.stepsLeft) ∧
      (move.isWake = true → next.execution.stepsLeft = execution.stepsLeft + 1)) ∧
    turns.length + execution.stepsLeft ≤ 11 * runner.taskCount + 6 * runner.poolSize + 7 +
      2 * turns.countP Turn.isWake ∧
    ∀ run : EndlessRun τ α, run.state 0 = execution →
      ∃ bound, ∀ k, bound ≤ k → (run.state k).isIdle (run.turn k).move = true := by
  have runs := Runner.build_sound opening extensions runner built
  have begun := start_soundFor (α := α) runner runs now
  have rested := start_resting (α := α) runner.tasks runner.config now
  have sound := begun.replay turns execution notes ran
  have resting := begun.resting_replay rested turns execution notes ran
  refine ⟨?_, ?_, ?_, ?_⟩
  · intro going raised later grant ends unblocked
    exact canGo_of_unfinished sound.toSound resting unblocked going
  · intro raised later move next stepped
    have transition := sound.toSound.transition stepped
    refine ⟨sound.toSound.workLeft_lt transition, ?_, sound.toSound.stepsLeft_lt resting transition,
      sound.toSound.stepsLeft_wake resting transition⟩
    intro idle
    obtain ⟨flag, silent, same⟩ := transition.idle idle
    exact ⟨flag, silent, transition.workLeft_eq idle, same⟩
  · have bounded := begun.stepsLeft_replay rested turns execution notes ran
    rwa [start_stepsLeft runner runs now] at bounded
  · rintro run rfl
    exact EndlessRun.idle_from sound

/-- Both workers come to the open gate and call their bodies. -/
def trioBodies : List (Turn Nat) :=
  (trioOpening ++ [RunMove.work 1, .work 0]).map fun move => { raised := false, now := 2, move }

/-- Both workers of a run are in their bodies and the caller waits for them: the bodies can go on,
and the caller cannot. -/
theorem no_deadlock_trio : ∃ (execution : Execution Nat Nat) (notes : List (RunNote Nat Nat)),
    GatedRun.replay advance (start trioRunner.tasks trioRunner.config 1).1 trioBodies =
      some (execution, notes) ∧
    (execution.step false 3 (.call .given)).isNone = true ∧
    execution.CanGo false 3 .given (fun _ result => result = .returned 5) ∧
    execution.stepsLeft ≤ 32 := by
  have shown : (GatedRun.replay advance (start trioRunner.tasks trioRunner.config 1).1
      trioBodies).map (fun last => (last.1.isQuiet, (last.1.step false 3 (.call .given)).isNone)) =
        some (false, true) := rfl
  obtain ⟨⟨execution, notes⟩, ran, figures⟩ := Option.map_eq_some_iff.mp shown
  obtain ⟨going, waits⟩ := Prod.mk.inj figures
  obtain ⟨goes, -, bounded, -⟩ :=
    no_deadlock (.tasks [3, 4, 5]) [.threadCount 2] trioRunner rfl 1 _ _ _ ran
  refine ⟨execution, notes, ran, waits, goes going false 3 .given _ ?_, ?_⟩
  · intro worker index task since held
    exact ⟨_, rfl⟩
  · have length : trioBodies.length = 20 := rfl
    have wakes : trioBodies.countP Turn.isWake = 0 := rfl
    have size : 11 * trioRunner.taskCount + 6 * trioRunner.poolSize + 7 = 52 := rfl
    rw [length, wakes, size] at bounded
    omega

end Execution

end GatedRun
