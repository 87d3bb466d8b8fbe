import GatedRun.Proofs.Execution.Completion

/-!
# The start barrier

The ready latch counts jobs and not workers. It is a barrier for the workers all the same: behind
the closed gate a worker keeps the one job that it took, so as many jobs as workers can only have
come to the latch if every worker has one, and the queue hands the jobs out in order.

`Assembled` says how an execution stands when the gate opens, and `start_barrier` that no body is
called in any execution before it stood so.
-/

namespace GatedRun

open Sync (GateState)

variable {τ α : Type}

namespace Execution

variable {execution : Execution τ α} {notes : List (RunNote τ α)} {raised : Bool} {now : Instant}
  {move : RunMove α} {next : Stepped τ α}

/-! ### The moment at which the gate opens -/

/-- All tasks are submitted, and each worker stands at the closed gate with a job of its own, which
together are the first jobs. -/
structure Assembled (execution : Execution τ α) (taken : List (Nat × Nat)) : Prop where
  closed : execution.gate.state = .closed
  submitted : execution.pool.submitted = execution.taskCount ∧ execution.pool.calls = []
  ready : execution.ready.count = 0
  jobs : taken.map Prod.snd = List.range execution.poolSize
  crew : (taken.map Prod.fst).Perm (List.range execution.poolSize)
  parked : ∀ worker, worker < execution.poolSize → ∃ index task, (worker, index) ∈ taken ∧
    execution.pool.workers[worker]? = some (.running ⟨index, task, .atGate⟩)

/-- A worker that runs a job behind a closed gate is on its way to it, or there. -/
theorem Sound.parked_of_held (sound : execution.Sound notes)
    (closed : execution.gate.state = .closed)
    (arrived : execution.pool.workers.countP WorkerPhase.isArriving = 0) (worker : Nat)
    (job : RunJob τ α) (held : execution.pool.workers[worker]? = some (.running job)) :
    job.phase = .atGate := by
  have behind := (sound.crewed worker _ held).2.2
  rw [closed] at behind
  have idle := List.countP_eq_zero.mp arrived _ (List.mem_of_getElem? held)
  obtain ⟨index, task, phase⟩ := job
  rcases JobPhase.early_of_closed behind with rfl | rfl
  · exact absurd rfl idle
  · rfl

theorem Sound.assembled (sound : execution.Sound notes) (at_ : execution.caller = .opening) :
    execution.Assembled (takes notes) := by
  have placed := sound.staged.placedAt at_
  have closed : execution.gate.state = .closed := placed.gate
  have zero := placed.ready rfl
  -- As many jobs are taken as there are workers, and none is still on its way to the latch.
  have counted := sound.counted.ready closed
  have few := sound.counted.taken_le sound.staged sound.queued closed
  have all : (takes notes).length = execution.poolSize := by omega
  have arrived : execution.pool.workers.countP WorkerPhase.isArriving = 0 := by omega
  have manned : execution.pool.workers.length = execution.poolSize := by
    have manned := sound.staged.manned
    have stage := placed.stage
    simp only [CallerPhase.Admits] at stage
    rwa [stage] at manned
  -- Different workers, no more of them than the pool has, and as many: so all of them.
  have crew : ((takes notes).map Prod.fst).Perm (List.range execution.poolSize) := by
    have distinct := sound.counted.workers_nodup closed sound.queued
    have inside : (takes notes).map Prod.fst ⊆ List.range execution.poolSize := by
      intro worker member
      obtain ⟨take, took, rfl⟩ := List.mem_map.mp member
      obtain ⟨job, held, -⟩ := sound.counted.held closed take took
      exact List.mem_range.mpr (manned ▸ (List.getElem?_eq_some_iff.mp held).1)
    apply (distinct.subperm inside).perm_of_length_le
    simp [all]
  refine ⟨closed, placed.submitted, zero, ?_, crew, ?_⟩
  · rw [sound.queued.indices, all]
  · intro worker below
    obtain ⟨⟨_, index⟩, took, rfl⟩ :=
      List.mem_map.mp (crew.mem_iff.mpr (List.mem_range.mpr below))
    obtain ⟨⟨index', task, phase⟩, held, same⟩ := sound.counted.held closed _ took
    obtain rfl : phase = .atGate := sound.parked_of_held closed arrived _ _ held
    obtain rfl : index' = index := same
    exact ⟨index', task, took, held⟩

theorem Transition.caller_of_opens (transition : execution.Transition raised now move next)
    (shut : execution.gate.state ≠ .opened) (opened : next.execution.gate.state = .opened) :
    execution.caller = .opening := by
  cases transition with
  | openedGate grant at_ => exact at_
  | abandonedGate grant cause at_ => cases opened
  | _ => exact absurd opened shut

/-! ### Before and after -/

/-- A replay that ends behind an open gate passes the moment at which it opens. -/
theorem SoundFor.opening {runner : Runner τ} {known : List (RunNote τ α)}
    (sound : SoundFor runner execution known) (shut : execution.gate.state ≠ .opened)
    (turns : List (Turn α)) (last : Execution τ α) (notes : List (RunNote τ α))
    (ran : GatedRun.replay advance execution turns = some (last, notes))
    (opened : last.gate.state = .opened) :
    ∃ before turn after moment next first second third, turns = before ++ turn :: after ∧
      notes = first ++ (second ++ third) ∧
      GatedRun.replay advance execution before = some (moment, first) ∧
      moment.advance turn = some (next, second) ∧
      GatedRun.replay advance next after = some (last, third) ∧
      next.gate.state = .opened ∧ moment.SoundFor runner (known ++ first) ∧
      moment.Assembled (takes (known ++ first)) := by
  obtain ⟨before, turn, after, moment, next, first, second, third, split, told, early, held,
    stepped, gone, late⟩ := replay_switch (fun state : Execution τ α => state.gate.state ≠ .opened)
      execution last turns notes shut (not_not.mpr opened) ran
  have passed := sound.replay before moment first early
  have opens : next.gate.state = .opened := not_not.mp gone
  refine ⟨before, turn, after, moment, next, first, second, third, split, told, early, stepped,
    late, opens, passed, ?_⟩
  -- Only the caller's step opens the gate, and the caller has seen the ready latch by then.
  obtain ⟨further, moved, same⟩ := Option.map_eq_some_iff.mp stepped
  cases same
  exact passed.assembled ((passed.toSound.transition moved).caller_of_opens held opens)

/-- A body whose job was taken by some time is called by the worker that took it then. -/
theorem Sound.called_by (sound : execution.Sound notes) (worker index : Nat) (task : τ)
    (called : .called worker task ∈ bodyEvents index notes) (early late : List (Nat × Nat))
    (split : takes notes = early ++ late) (taken : index ∈ early.map Prod.snd) :
    (worker, index) ∈ early := by
  have took := (sound.event_taken worker index task called).1
  obtain ⟨⟨owner, index'⟩, member, same⟩ := List.mem_map.mp taken
  obtain rfl : index' = index := same
  have took' : (owner, index') ∈ takes notes := split ▸ List.mem_append_left _ member
  rwa [sound.queued.worker_unique worker owner index' took took']

namespace Assembled

variable {taken : List (Nat × Nat)}

theorem one_job (assembled : execution.Assembled taken) (worker one other : Nat)
    (first : (worker, one) ∈ taken) (second : (worker, other) ∈ taken) : one = other := by
  have distinct := assembled.crew.nodup_iff.mpr List.nodup_range
  exact congrArg Prod.snd (List.inj_on_of_nodup_map distinct first second rfl)

theorem names (assembled : execution.Assembled taken) (staged : execution.Staged) :
    (taken.map fun take => execution.pool.config.workerName take.1).Perm
      ((List.range execution.poolSize).map execution.config.workerName) := by
  have named := assembled.crew.map execution.config.workerName
  rw [List.map_map] at named
  rw [staged.named]
  exact named

/-- Without a bound on the threads, every job is taken by the time the gate opens. -/
theorem all_taken (assembled : execution.Assembled taken) (queued : execution.Queued taken)
    (unbounded : execution.config.threadCount = none) :
    execution.pool.queue = [] ∧ taken.length = execution.taskCount := by
  have size : execution.poolSize = execution.taskCount := by
    rw [poolSize, Config.poolSize, unbounded, taskCount]
  have jobs := congrArg List.length assembled.jobs
  have total := queued.total
  simp only [List.length_map, List.length_range] at jobs
  rw [assembled.submitted.1, assembled.submitted.2, List.length_nil] at total
  refine ⟨List.length_eq_zero_iff.mp ?_, by omega⟩
  omega

end Assembled

theorem Staged.ready_of_opened (staged : execution.Staged)
    (opened : execution.gate.state = .opened) : execution.ready.count = 0 := by
  apply staged.placed.ready
  rw [staged.placed.gate] at opened
  unfold CallerPhase.seesReady
  split
  · rfl
  · simp [opened]

/-- Behind the closed gate each worker holds one job at most and no body is called. Wherever the
gate is open or a body was called, there was a moment just before the gate opened at which all were
assembled; the first tasks run on the workers that stood there, so on different ones, under the
names of all threads; and without a bound on the threads no job was left in the queue. -/
theorem start_barrier (opening : Opening τ) (extensions : List (Extension τ))
    {interrupt : Interrupt} (runner : Runner τ)
    (built : Runner.build opening extensions interrupt = .ok runner) (now : Instant)
    (turns : List (Turn α))
    (execution : Execution τ α) (notes : List (RunNote τ α))
    (ran : GatedRun.replay advance (start runner.tasks runner.config now).1 turns =
      some (execution, notes)) :
    (execution.gate.state = .closed → ((takes notes).map Prod.fst).Nodup ∧
      (∀ worker index, (worker, index) ∈ takes notes → ∃ job : RunJob τ α,
        execution.pool.workers[worker]? = some (.running job) ∧ job.index = index) ∧
      ∀ index, bodyEvents index notes = []) ∧
    (execution.gate.state = .opened ∨ (∃ index, bodyEvents index notes ≠ []) →
      execution.gate.state = .opened ∧ execution.pool.submitted = runner.taskCount ∧
      execution.pool.calls = [] ∧ execution.ready.count = 0 ∧
      ∃ before turn after moment next first second third, turns = before ++ turn :: after ∧
        notes = first ++ (second ++ third) ∧
        GatedRun.replay advance (start runner.tasks runner.config now).1 before =
          some (moment, first) ∧
        moment.advance turn = some (next, second) ∧ next.gate.state = .opened ∧
        GatedRun.replay advance next after = some (execution, third) ∧
        moment.Assembled (takes first) ∧ moment.poolSize = runner.poolSize ∧
        moment.taskCount = runner.taskCount ∧
        (∀ worker index task, index < runner.poolSize →
          .called worker task ∈ bodyEvents index notes →
          (worker, index) ∈ takes first ∧ runner.tasks[index]? = some task) ∧
        (∀ worker one other task task', one < runner.poolSize → other < runner.poolSize →
          .called worker task ∈ bodyEvents one notes →
          .called worker task' ∈ bodyEvents other notes → one = other) ∧
        ((takes first).map fun take => moment.pool.config.workerName take.1).Perm
          ((List.range runner.poolSize).map fun k =>
            runner.config.threadNamePrefix ++ "-" ++ toString k) ∧
        (runner.config.threadCount = none →
          moment.pool.queue = [] ∧ takes notes = takes first)) := by
  have begun := start_soundFor (α := α) runner (Runner.build_sound opening extensions runner built)
    now
  have closed : (start (α := α) runner.tasks runner.config now).1.gate.state ≠ .opened := by
    rw [start_eq runner (Runner.build_sound opening extensions runner built) now]
    simp [unstarted]
  -- Nothing is taken and no body is called at the very start.
  have sound := begun.replay turns execution notes ran
  have taken (more : List (RunNote τ α)) :
    takes ((start runner.tasks runner.config now).2 ++ more) = takes more := rfl
  have told (index : Nat) (more : List (RunNote τ α)) :
      bodyEvents index ((start runner.tasks runner.config now).2 ++ more) =
        bodyEvents index more := rfl
  generalize (start (α := α) runner.tasks runner.config now).2 = known at begun sound taken told
  refine ⟨fun shut => ⟨?_, ?_, ?_⟩, fun some => ?_⟩
  · rw [← taken]
    exact sound.counted.workers_nodup shut sound.queued
  · intro worker index took
    rw [← taken] at took
    exact sound.counted.held shut (worker, index) took
  · intro index
    rw [← told]
    exact sound.ranNone (by simp [shut]) index
  · have opened : execution.gate.state = .opened := by
      rcases some with opened | ⟨index, events⟩
      · exact opened
      · by_contra shut
        exact events ((told index notes).symm.trans (sound.ranNone shut index))
    have submitted := sound.staged.submitted_of_opened opened
    rw [sound.taskCount] at submitted
    refine ⟨opened, submitted.1, submitted.2, sound.staged.ready_of_opened opened, ?_⟩
    obtain ⟨before, turn, after, moment, next, first, second, third, split, parts, early, stepped,
      late, opens, passed, assembled⟩ := begun.opening closed turns execution notes ran opened
    have whole : takes (known ++ notes) = takes first ++ takes (second ++ third) := by
      rw [taken, parts, takes_append]
    have queued := passed.queued
    rw [taken] at assembled queued
    have size := passed.poolSize
    -- The bodies of the first tasks are called by the workers that stood at the gate with them.
    have caller (worker index : Nat) (task : τ) (below : index < runner.poolSize)
        (called : .called worker task ∈ bodyEvents index notes) :
        (worker, index) ∈ takes first := by
      rw [← told] at called
      apply sound.called_by worker index task called _ _ whole
      rw [assembled.jobs, size]
      exact List.mem_range.mpr below
    refine ⟨before, turn, after, moment, next, first, second, third, split, parts, early, stepped,
      opens, late, assembled, size, passed.taskCount, ?_, ?_, ?_, ?_⟩
    · intro worker index task below called
      refine ⟨caller worker index task below called, ?_⟩
      rw [← told] at called
      rw [← sound.tasks]
      exact (sound.event_taken worker index task called).2
    · intro worker one other task task' below below' called called'
      exact assembled.one_job worker one other (caller worker one task below called)
        (caller worker other task' below' called')
    · have names := assembled.names passed.staged
      rwa [size, passed.config] at names
    · intro unbounded
      rw [← passed.config] at unbounded
      obtain ⟨empty, all⟩ := assembled.all_taken queued unbounded
      refine ⟨empty, ?_⟩
      -- All tasks were taken already, so nothing is left to take.
      have few := sound.staged.submitted_le sound.queued
      rw [whole, List.length_append, all, passed.taskCount, sound.taskCount] at few
      have none : takes (second ++ third) = [] := List.length_eq_zero_iff.mp (by omega)
      rw [← taken notes, whole, none, List.append_nil]

def trioRunner : Runner Nat :=
  { tasks := [3, 4, 5], config := { threadCount := some 2 }, interrupt := ⟨0⟩ }

/-- Two workers come to the gate, the second one first, and the gate opens. -/
def trioOpening : List (RunMove Nat) :=
  List.flatten [List.replicate 10 (.call .given), List.replicate 3 (.work 1),
    List.replicate 3 (.work 0), List.replicate 2 (.call .given)]

theorem start_barrier_trio : ∃ (execution : Execution Nat Nat) (notes : List (RunNote Nat Nat))
    (moment : Execution Nat Nat) (first rest : List (RunNote Nat Nat)),
    GatedRun.replay advance (start trioRunner.tasks trioRunner.config 1).1
      ((trioOpening ++ [RunMove.work 1]).map (Turn.mk false 2)) = some (execution, notes) ∧
    bodyEvents 0 notes = [.called 1 3] ∧ notes = first ++ rest ∧
    moment.Assembled (takes first) ∧ moment.poolSize = 2 ∧
    (1, 0) ∈ takes first := by
  have ran : GatedRun.replay advance (start trioRunner.tasks trioRunner.config 1).1
    ((trioOpening ++ [RunMove.work 1]).map (Turn.mk false 2)) = some (_, _) := rfl
  obtain ⟨-, -, -, -, -, -, -, moment, -, first, second, third, -, parts, -, -, -, -, assembled,
    size, -, own, -⟩ :=
    (start_barrier (.tasks [3, 4, 5]) [.threadCount 2] trioRunner rfl 1 _ _ _ ran).2 (.inl rfl)
  exact ⟨_, _, moment, first, second ++ third, ran, rfl, parts, assembled, size,
    (own 1 0 3 (by decide) (by decide)).1⟩

end Execution

end GatedRun
