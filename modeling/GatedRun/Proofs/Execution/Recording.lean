import GatedRun.Proofs.Execution.Counting

/-!
# The ledger and the slots

Each transition keeps `Recorded`. A step of a worker concerns the index of its own job and no other,
since no two workers run jobs of one index; so it is enough to follow one index at a time. When the
outcomes are handed over every slot is filled, and what is handed over is what was filed.
-/

namespace GatedRun

variable {τ α : Type}

@[simp] theorem bodyEvents_outcomeNotes (worker index other : Nat) (outcome : Outcome α) :
    bodyEvents other (Execution.outcomeNotes (τ := τ) worker index outcome) = [] := by
  cases outcome <;> rfl

/-! ### Slots -/

namespace Slots

variable (slots : Slots α) (index other : Nat) (since : Instant) (outcome : Outcome α)

theorem outcome?_file_ne (apart : other ≠ index) :
    (slots.file index since outcome).outcome? other = slots.outcome? other := by
  simp [outcome?, file, List.getElem?_set_ne (Ne.symm apart)]

theorem start?_file_ne (apart : other ≠ index) :
    (slots.file index since outcome).start? other = slots.start? other := by
  simp [start?, file, List.getElem?_set_ne (Ne.symm apart)]

theorem outcome?_file_self (below : index < slots.outcomes.length) :
    (slots.file index since outcome).outcome? index = some outcome := by
  simp [outcome?, file, below]

theorem start?_file_self (below : index < slots.startedAt.length) :
    (slots.file index since outcome).start? index = some since := by
  simp [start?, file, below]

/-- When every slot is filled, taking the outcomes out leaves none behind. -/
theorem map_some_filed (full : ∀ index, index < slots.outcomes.length →
    (slots.outcome? index).isSome) : slots.filed.map some = slots.outcomes := by
  obtain ⟨outcomes, startedAt⟩ := slots
  simp only [filed, outcome?] at full ⊢
  induction outcomes with
  | nil => rfl
  | cons first rest ih =>
    have head := full 0 (by simp)
    obtain ⟨outcome, rfl⟩ := Option.isSome_iff_exists.mp (by simpa using head)
    have tail := ih fun index below => by simpa using full (index + 1) (by simpa using below)
    simpa using tail

end Slots

namespace CallerPhase

def hasResults : CallerPhase α → Bool
  | .returned (.ok _) => true
  | _ => false

theorem hasJoined_of_hasResults {caller : CallerPhase α} (delivered : caller.hasResults = true) :
    caller.hasJoined = true := by
  cases caller with
  | returned result =>
    cases result with
    | ok results => rfl
    | error cause => cases delivered
  | _ => cases delivered

end CallerPhase

namespace Execution

variable {execution after : Execution τ α} {notes more : List (RunNote τ α)} {raised : Bool}
  {now : Instant} {move : RunMove α} {next : Stepped τ α}

theorem kept_eq_slots (undelivered : execution.caller.hasResults = false) :
    execution.kept = execution.slots := by
  unfold kept
  split
  next results delivered =>
    rw [delivered] at undelivered
    cases undelivered
  · rfl

/-- Once the outcomes are handed over no worker runs a job any more. -/
theorem Staged.undelivered (staged : execution.Staged) (worker : Nat)
    (phase : WorkerPhase (RunJob τ α)) (at_ : execution.pool.workers[worker]? = some phase)
    (on : phase.isOver = false) : execution.caller.hasResults = false := by
  apply Bool.eq_false_iff.mpr
  intro delivered
  have all := staged.placed.joined (CallerPhase.hasJoined_of_hasResults delivered)
  have below : worker < execution.pool.joined := all ▸ (List.getElem?_eq_some_iff.mp at_).1
  rw [Option.some.inj (at_.symm.trans (staged.joined worker below))] at on
  cases on

/-! ### One index at a time -/

/-- Nothing about the task at an index changed. -/
structure SameAt (execution : Execution τ α) (notes : List (RunNote τ α)) (after : Execution τ α)
    (more : List (RunNote τ α)) (index : Nat) : Prop where
  events : bodyEvents index (notes ++ more) = bodyEvents index notes
  outcome : after.kept.outcome? index = execution.kept.outcome? index
  start : after.kept.start? index = execution.kept.start? index
  tasks : after.tasks = execution.tasks

/-- A step that leaves the slots as they are, and tells nothing of the body at the index. -/
theorem sameAt_of_kept (fixed : Fixed execution after) (kept : after.kept = execution.kept)
    (index : Nat) (silent : bodyEvents index more = []) :
    SameAt execution notes after more index := by
  refine ⟨?_, ?_, ?_, fixed.tasks⟩
  · rw [bodyEvents_append, silent, List.append_nil]
  · rw [kept]
  · rw [kept]

theorem SameAt.vacant {index : Nat} (same : SameAt execution notes after more index)
    (vacant : execution.kept.IsVacant index) : after.kept.IsVacant index :=
  ⟨same.outcome.trans vacant.1, same.start.trans vacant.2⟩

theorem SameAt.untouched {index : Nat} (same : SameAt execution notes after more index)
    (untouched : execution.Untouched notes index) : after.Untouched (notes ++ more) index :=
  ⟨same.events.trans untouched.1, same.vacant untouched.2⟩

theorem SameAt.filed {index : Nat} (same : SameAt execution notes after more index)
    (filed : execution.Filed notes index) : after.Filed (notes ++ more) index := by
  obtain ⟨worker, task, since, result, took, has, events, outcome, start⟩ := filed
  refine ⟨worker, task, since, result, ?_, same.tasks ▸ has, same.events.trans events,
    same.outcome.trans outcome, same.start.trans start⟩
  rw [takes_append]
  exact List.mem_append_left _ took

theorem SameAt.settled {index : Nat} (same : SameAt execution notes after more index)
    (gate : after.gate.state = execution.gate.state)
    (settled : execution.Settled notes index) : after.Settled (notes ++ more) index := by
  refine ⟨fun opened => ?_, fun shut => ?_⟩
  · rw [gate] at opened
    exact same.filed (settled.1 opened)
  · rw [gate] at shut
    exact same.untouched (settled.2 shut)

theorem SameAt.underway {worker : Nat} {job : RunJob τ α}
    (same : SameAt execution notes after more job.index)
    (gate : after.gate.state = execution.gate.state)
    (underway : execution.Underway notes worker job) :
    after.Underway (notes ++ more) worker job := by
  obtain ⟨index, task, phase⟩ := job
  cases phase with
  | arriving => exact same.untouched underway
  | atGate => exact same.untouched underway
  | inBody since => exact ⟨same.events.trans underway.1, same.vacant underway.2⟩
  | filing since outcome =>
    obtain ⟨vacant, result, events, captured⟩ := underway
    exact ⟨same.vacant vacant, result, same.events.trans events, captured⟩
  | counting => exact same.filed underway
  | ended => exact same.settled gate underway

/-! ### Steps that no job takes part in -/

def SameJobs (execution after : Execution τ α) : Prop :=
  ∀ (worker : Nat) (job : RunJob τ α), after.pool.workers[worker]? = some (.running job) ↔
    execution.pool.workers[worker]? = some (.running job)

private theorem sameJobs_spawn
    (workers : after.pool.workers = execution.pool.workers ++ [.idle]) :
    SameJobs execution after := by
  intro worker job
  rw [workers, List.getElem?_append]
  split
  · rfl
  next above =>
    rw [List.getElem?_singleton, List.getElem?_eq_none (Nat.not_lt.mp above)]
    split <;> simp

private theorem sameJobs_set (worker : Nat) (old phase : WorkerPhase (RunJob τ α))
    (went : WorkerStep execution after worker old phase)
    (before : old.job? = none) (then_ : phase.job? = none) : SameJobs execution after := by
  intro other job
  by_cases same : other = worker
  · subst same
    rw [went.workers, went.held, List.getElem?_set_self went.below]
    constructor
    · rintro ⟨⟩
      cases then_
    · rintro ⟨⟩
      cases before
  · rw [went.workers, List.getElem?_set_ne (Ne.symm same)]

private theorem Recorded.transfer (recorded : execution.Recorded notes)
    (jobs : SameJobs execution after)
    (fixed : Fixed execution after)
    (gate : after.gate.state = execution.gate.state) (kept : after.kept = execution.kept)
    (events : ∀ index, bodyEvents index more = []) (none : takes more = [])
    (figures : ∀ results, after.caller = .returned (.ok results) →
      results.stats.poolSize = execution.poolSize ∧
        results.stats.taskCount = execution.taskCount) : after.Recorded (notes ++ more) := by
  have same (index : Nat) : SameAt execution notes after more index :=
    sameAt_of_kept fixed kept index (events index)
  refine ⟨?_, ?_, ?_, ?_, ?_⟩
  · rw [kept, fixed.taskCount]
    exact recorded.sizes
  · intro index above
    rw [takes_append, none, List.append_nil] at above
    exact (same index).untouched (recorded.waiting index above)
  · intro worker job held
    exact (same job.index).underway gate (recorded.underway worker job ((jobs worker job).mp held))
  · intro index below free
    rw [takes_append, none, List.append_nil] at below
    refine (same index).settled gate (recorded.ended index below ?_)
    exact fun worker job held => free worker job ((jobs worker job).mpr held)
  · rw [fixed.poolSize, fixed.taskCount]
    exact figures

/-- Settling a closed gate. Every job taken is still held and has not come past the gate. -/
private theorem Recorded.settle (crewed : execution.Crewed (takes notes))
    (queued : execution.Queued (takes notes)) (counted : execution.Counted (takes notes))
    (recorded : execution.Recorded notes) (closed : execution.gate.state = .closed)
    (pool : after.pool = execution.pool)
    (fixed : Fixed execution after)
    (slots : after.slots = execution.slots)
    (before : execution.caller.hasResults = false) (then_ : after.caller.hasResults = false)
    (events : ∀ index, bodyEvents index more = []) (none : takes more = []) :
    after.Recorded (notes ++ more) := by
  have kept : after.kept = execution.kept := by
    rw [kept_eq_slots before, kept_eq_slots then_, slots]
  have same (index : Nat) : SameAt execution notes after more index :=
    sameAt_of_kept fixed kept index (events index)
  refine ⟨?_, ?_, ?_, ?_, ?_⟩
  · rw [kept, fixed.taskCount]
    exact recorded.sizes
  · intro index above
    rw [takes_append, none, List.append_nil] at above
    exact (same index).untouched (recorded.waiting index above)
  · intro worker job held
    rw [pool] at held
    have behind := (crewed worker _ held).2.2
    have underway := recorded.underway worker job held
    obtain ⟨index, task, phase⟩ := job
    rw [closed] at behind
    -- Behind the closed gate a job has left no trace yet.
    rcases JobPhase.early_of_closed behind with rfl | rfl
    · exact (same index).untouched underway
    · exact (same index).untouched underway
  · intro index below free
    rw [takes_append, none, List.append_nil] at below
    obtain ⟨worker, took⟩ := (queued.taken_iff index).mpr below
    obtain ⟨job, holds, own⟩ := counted.held closed _ took
    rw [← pool] at holds
    exact absurd own (free worker job holds)
  · intro results delivered
    rw [delivered] at then_
    cases then_

/-! ### Steps of a job -/

/-- A worker's step that concerns the job of one index. -/
private theorem Recorded.set (worker own : Nat) (old phase : WorkerPhase (RunJob τ α))
    (recorded : execution.Recorded notes)
    (went : WorkerStep execution after worker old phase)
    (sizes : after.kept.outcomes.length = execution.kept.outcomes.length ∧
      after.kept.startedAt.length = execution.kept.startedAt.length)
    (before : old.job? = none ∨ old.job?.map RunJob.index = some own)
    (apart : ∀ (other : Nat) (job : RunJob τ α), other ≠ worker →
      execution.pool.workers[other]? = some (.running job) → job.index ≠ own)
    (frame : ∀ index, index ≠ own → SameAt execution notes after more index)
    (length : ∀ index, index < (takes (notes ++ more)).length ↔
      index < (takes notes).length ∨ index = own)
    (fate : (∃ job : RunJob τ α, phase = .running job ∧ job.index = own ∧
        after.Underway (notes ++ more) worker job) ∨
      (phase.job? = none ∧ after.Settled (notes ++ more) own)) :
    after.Recorded (notes ++ more) := by
  refine ⟨?_, ?_, ?_, ?_, ?_⟩
  · rw [went.taskCount, sizes.1, sizes.2]
    exact recorded.sizes
  · intro index above
    -- An index whose job is not taken by now was not taken before, and is not the step's.
    have outside := mt (length index).mpr (Nat.not_lt.mpr above)
    rw [not_or] at outside
    exact (frame index outside.2).untouched (recorded.waiting index (Nat.not_lt.mp outside.1))
  · intro other job held
    by_cases same : other = worker
    · subst same
      rw [went.workers, List.getElem?_set_self went.below] at held
      -- The worker of the step runs the job that it is left with, if any.
      have runs := Option.some.inj held
      rcases fate with ⟨job', goes, -, underway⟩ | ⟨idle, -⟩
      · injection goes.symm.trans runs with same
        exact same ▸ underway
      · rw [runs] at idle
        cases idle
    -- The job of another worker is of another index.
    · rw [went.workers, List.getElem?_set_ne (Ne.symm same)] at held
      exact (frame job.index (apart other job same held)).underway went.gate
        (recorded.underway other job held)
  · intro index inside free
    by_cases same : index = own
    · subst same
      rcases fate with ⟨job, goes, runs, -⟩ | ⟨-, settled⟩
      · have held : after.pool.workers[worker]? = some (.running job) := by
          rw [went.workers, List.getElem?_set_self went.below, goes]
        exact absurd runs (free worker job held)
      · exact settled
    -- No worker ran the job of this index before the step either.
    · have taken := ((length index).mp inside).resolve_right same
      refine (frame index same).settled went.gate (recorded.ended index taken ?_)
      intro other job held
      by_cases at_worker : other = worker
      · subst at_worker
        obtain rfl : old = .running job := Option.some.inj (went.held.symm.trans held)
        rcases before with idle | runs
        · cases idle
        · rw [Option.some.inj runs]
          exact Ne.symm same
      · exact free other job (by rw [went.workers, List.getElem?_set_ne (Ne.symm at_worker), held])
  · intro results delivered
    rw [went.poolSize, went.taskCount]
    exact recorded.figures results (went.caller ▸ delivered)

private theorem Recorded.work (worker : Nat) (job : RunJob τ α) (phase : WorkerPhase (RunJob τ α))
    (crewed : execution.Crewed (takes notes)) (queued : execution.Queued (takes notes))
    (recorded : execution.Recorded notes)
    (went : WorkerStep execution after worker (.running job) phase)
    (sizes : after.kept.outcomes.length = execution.kept.outcomes.length ∧
      after.kept.startedAt.length = execution.kept.startedAt.length)
    (none : takes more = [])
    (frame : ∀ index, index ≠ job.index → SameAt execution notes after more index)
    (fate : (∃ job' : RunJob τ α, phase = .running job' ∧ job'.index = job.index ∧
        after.Underway (notes ++ more) worker job') ∨
      (phase.job? = Option.none ∧ after.Settled (notes ++ more) job.index)) :
    after.Recorded (notes ++ more) := by
  have took := (crewed worker _ went.held).1
  refine recorded.set worker job.index _ phase went sizes (.inr rfl) ?_ frame ?_ fate
  · -- Two workers cannot both have taken one job.
    intro other job' different held same
    have took' := (crewed other _ held).1
    rw [same] at took'
    exact different (queued.worker_unique other worker job.index took' took)
  · intro index
    rw [takes_append, none, List.append_nil]
    have below := (queued.taken_iff job.index).mp ⟨worker, took⟩
    constructor
    · exact .inl
    · rintro (inside | rfl)
      · exact inside
      · exact below

/-- A worker's step that files nothing, and tells of no body but that of its own job. -/
private theorem Recorded.advance (worker : Nat) (job : RunJob τ α)
    (phase : WorkerPhase (RunJob τ α)) (crewed : execution.Crewed (takes notes))
    (queued : execution.Queued (takes notes)) (recorded : execution.Recorded notes)
    (went : WorkerStep execution after worker (.running job) phase)
    (kept : after.kept = execution.kept) (none : takes more = [])
    (silent : ∀ index, index ≠ job.index → bodyEvents index more = [])
    (fate : (∃ job' : RunJob τ α, phase = .running job' ∧ job'.index = job.index ∧
        after.Underway (notes ++ more) worker job') ∨
      (phase.job? = Option.none ∧ after.Settled (notes ++ more) job.index)) :
    after.Recorded (notes ++ more) := by
  refine recorded.work worker job phase crewed queued went ?_ none ?_ fate
  · rw [kept]
    exact ⟨rfl, rfl⟩
  · intro index apart
    exact sameAt_of_kept went.toFixed kept index (silent index apart)

/-! ### Quiet pools -/

theorem Staged.exited_of_joined (staged : execution.Staged)
    (joined : execution.pool.joined = execution.pool.workers.length)
    (phase : WorkerPhase (RunJob τ α)) (member : phase ∈ execution.pool.workers) :
    phase = .exited := by
  obtain ⟨worker, below, rfl⟩ := List.mem_iff_getElem.mp member
  have exited := staged.joined worker (joined ▸ below)
  rw [List.getElem?_eq_getElem below] at exited
  exact Option.some.inj exited

theorem Staged.quiet_of_joined (staged : execution.Staged)
    (joined : execution.pool.joined = execution.pool.workers.length) :
    execution.pool.isQuiet = true := by
  apply List.all_eq_true.mpr
  intro phase member
  rw [staged.exited_of_joined joined phase member]
  rfl

theorem isFree_of_quiet (quiet : execution.pool.isQuiet = true) (index : Nat) :
    execution.IsFree index := by
  intro worker job held
  have exits := List.all_eq_true.mp quiet _ (List.mem_of_getElem? held)
  cases exits

/-- A worker that is over found the queue empty for good. -/
theorem Crewed.queue_empty (crewed : execution.Crewed (takes notes))
    (quiet : execution.pool.isQuiet = true) (some : 0 < execution.pool.workers.length) :
    execution.pool.queue = [] := by
  have held := List.getElem?_eq_getElem some
  have exits := List.all_eq_true.mp quiet _ (List.mem_of_getElem? held)
  have crew := crewed 0 _ held
  generalize execution.pool.workers[0] = phase at exits crew
  cases phase with
  | exited => exact crew.1
  | dead => exact crew.elim
  | _ => cases exits

theorem Queued.all_taken (queued : execution.Queued (takes notes))
    (submitted : execution.pool.submitted = execution.taskCount ∧ execution.pool.calls = [])
    (empty : execution.pool.queue = []) : (takes notes).length = execution.taskCount := by
  have total := queued.total
  rw [submitted.1, submitted.2, empty] at total
  exact total.symm

/-! ### Every transition -/

/-- A step that changes neither the slots nor who runs which job. -/
private theorem Recorded.pass (recorded : execution.Recorded notes)
    (jobs : SameJobs execution after)
    (fixed : Fixed execution after)
    (gate : after.gate.state = execution.gate.state) (slots : after.slots = execution.slots)
    (before : execution.caller.hasResults = false) (then_ : after.caller.hasResults = false)
    (events : ∀ index, bodyEvents index more = []) (none : takes more = []) :
    after.Recorded (notes ++ more) := by
  refine recorded.transfer jobs fixed gate ?_ events none fun results delivered => ?_
  · rw [kept_eq_slots before, kept_eq_slots then_, slots]
  · rw [delivered] at then_
    cases then_

private theorem sameJobs_refl (same : after.pool.workers = execution.pool.workers) :
    SameJobs execution after := by
  intro worker job
  rw [same]

/-- What is handed over is what was filed: every slot is filled by then. -/
private theorem Recorded.handOver (staged : execution.Staged)
    (crewed : execution.Crewed (takes notes)) (queued : execution.Queued (takes notes))
    (recorded : execution.Recorded notes) (at_ : execution.caller = .gathering)
    (stage : execution.pool.stage = .closed)
    (joined : execution.pool.joined = execution.pool.workers.length) :
    (execution.handOver raised now).execution.Recorded
      (notes ++ (execution.handOver raised now).notes) := by
  have placed := staged.placedAt at_
  have manned := staged.manned
  rw [stage] at manned
  have some : 0 < execution.pool.workers.length := manned ▸ staged.positive
  have quiet := staged.quiet_of_joined joined
  -- All workers are over, so every job was taken and none is under way.
  have all := queued.all_taken placed.submitted (crewed.queue_empty quiet some)
  have before : execution.kept = execution.slots :=
    kept_eq_slots (by rw [at_]; rfl)
  have sizes := recorded.sizes
  rw [before] at sizes
  have full : execution.slots.filed.map Option.some = execution.slots.outcomes := by
    apply execution.slots.map_some_filed
    intro index below
    rw [sizes.1, ← all] at below
    obtain ⟨worker, task, since, result, -, -, -, outcome, -⟩ :=
      (recorded.ended index below (isFree_of_quiet quiet index)).1 placed.gate
    rw [before] at outcome
    simp [outcome]
  have kept : (execution.handOver raised now).execution.kept = execution.kept := by
    rw [before]
    change (⟨execution.slots.filed.map Option.some, execution.slots.startedAt⟩ : Slots α) = _
    rw [full]
  refine recorded.transfer (sameJobs_refl rfl) ⟨rfl, rfl⟩ rfl kept (fun _ => rfl) rfl ?_
  rintro results ⟨⟩
  exact ⟨rfl, rfl⟩

private theorem Recorded.file (worker index : Nat) (task : τ) (since : Instant)
    (outcome : Outcome α) (staged : execution.Staged) (crewed : execution.Crewed (takes notes))
    (queued : execution.Queued (takes notes)) (recorded : execution.Recorded notes)
    (at_ : execution.pool.workers[worker]? =
      some (.running ⟨index, task, .filing since outcome⟩)) :
    ({ execution.withWorker worker (.running ⟨index, task, .counting⟩) with
      slots := execution.slots.file index since outcome } : Execution τ α).Recorded
        (notes ++ []) := by
  have undelivered := staged.undelivered worker _ at_ rfl
  have before := kept_eq_slots undelivered
  have kept : ({ execution.withWorker worker (.running ⟨index, task, .counting⟩) with
      slots := execution.slots.file index since outcome } : Execution τ α).kept =
      execution.slots.file index since outcome := kept_eq_slots undelivered
  obtain ⟨took, has, -⟩ := crewed worker _ at_
  have sizes := recorded.sizes
  rw [before] at sizes
  have inside : index < execution.taskCount := (List.getElem?_eq_some_iff.mp has).1
  refine recorded.work worker _ (.running ⟨index, task, .counting⟩) crewed queued
    ⟨⟨rfl, rfl⟩, at_, rfl, rfl, rfl⟩ ?_ rfl ?_ (.inl ⟨_, rfl, rfl, ?_⟩)
  · rw [kept, before]
    exact ⟨List.length_set, List.length_set⟩
  · intro other apart
    refine ⟨by simp, ?_, ?_, rfl⟩
    · rw [kept, before, Slots.outcome?_file_ne _ _ _ _ _ apart]
    · rw [kept, before, Slots.start?_file_ne _ _ _ _ _ apart]
  · obtain ⟨-, result, events, captured⟩ : _ ∧ ∃ result,
      bodyEvents index notes = [.called worker task, .ended worker result] ∧
        outcome = Outcome.capture index result := recorded.underway worker _ at_
    -- What is filed is the outcome that was captured as the body ended.
    refine ⟨worker, task, since, result, ?_, has, ?_, ?_, ?_⟩
    · simpa using took
    · simpa using events
    · rw [kept, ← captured]
      exact Slots.outcome?_file_self _ _ _ _ (sizes.1 ▸ inside)
    · rw [kept]
      exact Slots.start?_file_self _ _ _ _ (sizes.2 ▸ inside)

theorem Recorded.step (staged : execution.Staged) (crewed : execution.Crewed (takes notes))
    (queued : execution.Queued (takes notes)) (counted : execution.Counted (takes notes))
    (recorded : execution.Recorded notes)
    (transition : execution.Transition raised now move next) :
    next.execution.Recorded (notes ++ next.notes) := by
  have fixed := transition.fixed
  cases transition with
  | spawned at_ stage more | poolOpened at_ stage last =>
    exact recorded.transfer (sameJobs_spawn rfl) fixed rfl rfl (fun _ => rfl) rfl
      recorded.figures
  | refused fault at_ stage | counted grant index task at_ calls has | closed grant at_ stage
  | joined grant at_ stage exited | slept worker index task at_ awake gate
  | woke worker asleep =>
    exact recorded.transfer (sameJobs_refl rfl) fixed rfl rfl (fun _ => rfl) rfl
      recorded.figures
  | retreated grant fault at_ stage joined | launched grant at_ stage
  | sent grant index task at_ has calls | allSubmitted grant index at_ calls none
  | sawReady grant at_ lowered zero | cutReadiness grant at_ up
  | sawDone grant at_ lowered zero | cutCompletion grant at_ up | detached grant at_ =>
    refine recorded.pass (sameJobs_refl rfl) fixed rfl rfl ?_ rfl (fun _ => rfl) rfl
    rw [at_]
    rfl
  | withdrawn grant cause at_ stage joined =>
    refine recorded.pass (sameJobs_refl rfl) fixed rfl rfl ?_ rfl ?_ ?_
    · rw [at_]
      rfl
    · intro index
      cases cause <;> rfl
    · cases cause <;> rfl
  | openedGate grant at_ | abandonedGate grant cause at_ =>
    have closed := (staged.placedAt at_).gate
    refine recorded.settle crewed queued counted closed rfl fixed rfl ?_ rfl (fun _ => rfl) rfl
    rw [at_]
    rfl
  | handedOver grant at_ stage joined =>
    exact recorded.handOver staged crewed queued at_ stage joined
  | locked worker at_ free | foundNone worker at_ queue stage shut | exited worker at_
  | reported worker at_ =>
    exact recorded.transfer (sameJobs_set worker _ _ ⟨fixed, at_, rfl, rfl, rfl⟩ rfl rfl) fixed rfl
      rfl (fun _ => rfl) rfl recorded.figures
  | took worker job rest at_ queue =>
    obtain ⟨arriving, -⟩ := queued.fresh job (by simp [queue])
    -- The job taken is the next one, so it is the first that nothing has become of.
    have own : job.index = (takes notes).length := by
      have order := congrArg (·[(takes notes).length]?) queued.order
      simpa [queue] using order
    have untouched := recorded.waiting job.index (Nat.le_of_eq own.symm)
    refine recorded.set worker job.index _ (.running job) ⟨fixed, at_, rfl, rfl, rfl⟩
      ⟨rfl, rfl⟩ (.inl rfl) ?_ ?_ ?_ (.inl ⟨job, rfl, rfl, ?_⟩)
    · intro other job' different held same
      have below := (queued.taken_iff _).mp ⟨other, (crewed other _ held).1⟩
      omega
    · exact fun index _ => sameAt_of_kept fixed rfl index (by simp)
    · intro index
      simp only [takes_append, takes_cons, RunNote.take?, Option.toList_some, takes_nil,
        List.append_nil, List.length_append, List.length_singleton]
      omega
    · rw [Underway, arriving]
      exact ⟨by simpa using untouched.1, untouched.2⟩
  | arrived worker index task at_ =>
    have untouched : execution.Untouched notes index := recorded.underway worker _ at_
    refine recorded.advance worker _ (.running ⟨index, task, .atGate⟩) crewed queued
      ⟨fixed, at_, rfl, rfl, rfl⟩ rfl rfl (fun other _ => by simp) (.inl ⟨_, rfl, rfl, ?_⟩)
    exact (sameAt_of_kept fixed rfl index (by simp)).untouched untouched
  | called worker index task at_ awake gate =>
    have untouched : execution.Untouched notes index := recorded.underway worker _ at_
    -- Nothing is told of the index yet, so this call of its body is the first.
    refine recorded.advance worker _ (.running ⟨index, task, .inBody now⟩) crewed queued
      ⟨fixed, at_, rfl, rfl, rfl⟩ rfl rfl ?_ (.inl ⟨_, rfl, rfl, ?_⟩)
    · intro other apart
      simp [Ne.symm apart]
    · exact ⟨by simp [untouched.1], untouched.2⟩
  | skipped worker index task at_ awake gate =>
    have untouched : execution.Untouched notes index := recorded.underway worker _ at_
    have shut : execution.gate.state ≠ .opened := by simp [gate]
    refine recorded.advance worker _ (.running ⟨index, task, .ended⟩) crewed queued
      ⟨fixed, at_, rfl, rfl, rfl⟩ rfl rfl (fun other _ => by simp) (.inl ⟨_, rfl, rfl, ?_⟩)
    refine ⟨fun opened => absurd opened shut, fun _ => ?_⟩
    exact (sameAt_of_kept fixed rfl index (by simp)).untouched untouched
  | bodyEnded worker index task since result at_ =>
    obtain ⟨events, vacant⟩ : bodyEvents index notes = [.called worker task] ∧
      execution.kept.IsVacant index := recorded.underway worker _ at_
    refine recorded.advance worker _
      (.running ⟨index, task, .filing since (Outcome.capture index result)⟩) crewed queued
      ⟨fixed, at_, rfl, rfl, rfl⟩ rfl (by simp) ?_ (.inl ⟨_, rfl, rfl, ?_⟩)
    · intro other apart
      simp [Ne.symm apart]
    · exact ⟨vacant, result, by simp [events], rfl⟩
  | filed worker index task since outcome at_ =>
    exact recorded.file worker index task since outcome staged crewed queued at_
  | countedDone worker index task at_ =>
    -- A job that came past the gate and filed its outcome is over with all done.
    have opened : execution.gate.state = .opened := (crewed worker _ at_).2.2
    have filed : execution.Filed notes index := recorded.underway worker _ at_
    refine recorded.advance worker _ (.running ⟨index, task, .ended⟩) crewed queued
      ⟨fixed, at_, rfl, rfl, rfl⟩ rfl rfl (fun other _ => by simp) (.inl ⟨_, rfl, rfl, ?_⟩)
    refine ⟨fun _ => ?_, fun shut => absurd opened shut⟩
    exact (sameAt_of_kept fixed rfl index (by simp)).filed filed
  | finished worker index task at_ =>
    have settled : execution.Settled notes index := recorded.underway worker _ at_
    refine recorded.advance worker _ (.reporting .returned) crewed queued
      ⟨fixed, at_, rfl, rfl, rfl⟩ rfl rfl (fun other _ => by simp) (.inr ⟨rfl, ?_⟩)
    exact (sameAt_of_kept fixed rfl index (by simp)).settled rfl settled

end Execution

end GatedRun
