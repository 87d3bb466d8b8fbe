import GatedRun.Proofs.Execution.Staging
import Mathlib.Data.List.Nodup
import Mathlib.Data.List.Perm.Subperm

/-!
# The queue and the latches

Each transition keeps `Queued` and `Counted`. Tasks are submitted, queued and taken in one order,
so the tasks taken are always the first ones, each once. A latch never saturates while jobs that
have not come to it yet are taken: behind a closed gate there are no more of them than workers, and
in all there are no more of them than tasks. `Balanced` is the equation by which later modules
follow one kind of job: each job that is taken is told of in the notes or still in hand.
-/

namespace GatedRun

variable {τ α : Type}

@[simp] theorem takes_outcomeNotes (worker index : Nat) (outcome : Outcome α) :
    takes (Execution.outcomeNotes (τ := τ) worker index outcome) = [] := by
  cases outcome <;> rfl

/-- Different places of a list are no more than the list is long. -/
theorem length_le_of_places {β : Type} (items : List β) (places : List Nat)
    (distinct : places.Nodup) (held : ∀ place ∈ places, ∃ item, items[place]? = some item) :
    places.length ≤ items.length := by
  have inside : places ⊆ List.range items.length := by
    intro place member
    obtain ⟨item, at_⟩ := held place member
    exact List.mem_range.mpr (List.getElem?_eq_some_iff.mp at_).1
  simpa using (distinct.subperm inside).length_le

namespace Execution

variable {execution : Execution τ α} {taken : List (Nat × Nat)} {raised : Bool} {now : Instant}
  {move : RunMove α} {next : Stepped τ α}

/-! ### The queue -/

theorem Queued.indices (queued : execution.Queued taken) :
    taken.map Prod.snd = List.range taken.length := by
  -- The jobs taken are the front part of the order of submission.
  have first := congrArg (List.take taken.length) queued.order
  rw [List.take_left' (by simp), List.take_range] at first
  simpa using first

theorem Queued.nodup (queued : execution.Queued taken) : (taken.map Prod.snd).Nodup := by
  rw [queued.indices]
  exact List.nodup_range

/-- The job at the head of the queue is not one of those that were taken before. -/
theorem Queued.head_fresh (queued : execution.Queued taken) (job : RunJob τ α)
    (rest : List (RunJob τ α)) (queue : execution.pool.queue = job :: rest) :
    job.index ∉ taken.map Prod.snd := by
  have distinct : (taken.map Prod.snd ++ execution.pool.queue.map RunJob.index).Nodup := by
    rw [queued.order]
    exact List.nodup_range
  rw [queue, List.map_cons] at distinct
  intro took
  exact (List.nodup_append.mp distinct).2.2 _ took _ List.mem_cons_self rfl

/-- The index of a job tells who took it. -/
theorem Queued.worker_unique (queued : execution.Queued taken) (first second index : Nat)
    (one : (first, index) ∈ taken) (other : (second, index) ∈ taken) : first = second := by
  have same := List.inj_on_of_nodup_map queued.nodup one other rfl
  exact congrArg Prod.fst same

theorem Queued.taken_iff (queued : execution.Queued taken) (index : Nat) :
    (∃ worker, (worker, index) ∈ taken) ↔ index < taken.length := by
  rw [← List.mem_range, ← queued.indices]
  simp

theorem Staged.submitted_le (staged : execution.Staged) (queued : execution.Queued taken) :
    taken.length + execution.pool.queue.length ≤ execution.taskCount := by
  have total := queued.total
  have submitted := staged.placed.submitted
  -- Each place of the caller says how much is submitted by then.
  cases caller : execution.caller with
  | launching =>
    rw [caller] at submitted
    have zero := submitted.1
    omega
  | submitting index =>
    rw [caller] at submitted
    obtain ⟨bound, some, -⟩ := submitted
    omega
  | returned result =>
    rw [caller] at submitted
    cases result with
    | ok results =>
      have all := submitted.1
      omega
    | error cause =>
      cases cause <;> (have all := submitted.1; omega)
  | _ =>
    rw [caller] at submitted
    have all := submitted.1
    omega

private theorem Queued.transfer (after : Execution τ α) (more : List (Nat × Nat))
    (queued : execution.Queued taken) (none : more = [])
    (queue : after.pool.queue = execution.pool.queue) (tasks : after.tasks = execution.tasks)
    (submitted : after.pool.submitted = execution.pool.submitted)
    (calls : after.pool.calls = execution.pool.calls) : after.Queued (taken ++ more) := by
  subst none
  rw [List.append_nil]
  refine ⟨?_, ?_, ?_⟩
  · rw [queue]
    exact queued.order
  · rw [queue, tasks]
    exact queued.fresh
  · rw [queue, submitted, calls]
    exact queued.total

theorem Queued.step (staged : execution.Staged) (queued : execution.Queued taken)
    (transition : execution.Transition raised now move next) :
    next.execution.Queued (taken ++ takes next.notes) := by
  cases transition with
  | counted grant index task at_ calls has =>
    have total := queued.total
    rw [calls] at total
    refine ⟨?_, ?_, ?_⟩
    · simpa using queued.order
    · exact queued.fresh
    · simpa using total
  | sent grant index task at_ has calls =>
    -- The index to queue is the number of all jobs before it.
    obtain ⟨-, some, -⟩ := (staged.placedAt at_).submitted
    have total := queued.total
    simp only [calls, List.length_singleton] at some total
    have same : index = taken.length + execution.pool.queue.length := by omega
    refine ⟨?_, ?_, ?_⟩
    · rw [takes_nil, List.append_nil, List.map_append, ← List.append_assoc, queued.order,
        List.length_append, List.length_singleton, ← Nat.add_assoc, List.range_succ, same]
      rfl
    · intro job member
      rcases List.mem_append.mp member with member | member
      · exact queued.fresh job member
      · rw [List.mem_singleton.mp member]
        exact ⟨rfl, has⟩
    · simp only [takes_nil, List.append_nil, List.length_append, List.length_singleton,
        List.length_nil]
      omega
  | took worker job rest at_ queue =>
    -- The head of the queue becomes the last of the jobs taken, so the order is the same.
    have order := queued.order
    have total := queued.total
    rw [queue] at order total
    refine ⟨?_, ?_, ?_⟩
    · simpa [Nat.add_comm, Nat.add_left_comm] using order
    · exact fun other member => queued.fresh other (queue ▸ List.mem_cons_of_mem job member)
    · change execution.pool.submitted = _ + execution.pool.calls.length
      simp only [total, List.length_cons, takes_cons, RunNote.take?, Option.toList_some, takes_nil,
        List.append_nil, List.length_append, List.length_nil]
      omega
  | bodyEnded worker index task since result at_ =>
    exact queued.transfer _ _ (by simp) rfl rfl rfl rfl
  | withdrawn grant cause at_ stage joined =>
    refine queued.transfer _ _ ?_ rfl rfl rfl rfl
    cases cause <;> rfl
  | _ => exact queued.transfer _ _ rfl rfl rfl rfl rfl

/-! ### Jobs in hand -/

/-- Index by index, the jobs that are taken are those picked out of the notes and those that the
workers still have in hand. -/
def Balanced (pick : RunNote τ α → Option Nat) (inHand : Nat → WorkerPhase (RunJob τ α) → Bool)
    (execution : Execution τ α) (notes : List (RunNote τ α)) : Prop :=
  ∀ index, (notes.filterMap pick).count index + execution.pool.workers.countP (inHand index) =
    ((takes notes).map Prod.snd).count index

section Balance

variable {pick : RunNote τ α → Option Nat} {inHand : Nat → WorkerPhase (RunJob τ α) → Bool}
  {notes : List (RunNote τ α)}

/-- One worker's step: what the notes tell of it makes up for what it has in hand. -/
theorem Balanced.set (after : Execution τ α) (more : List (RunNote τ α)) (worker : Nat)
    (old phase : WorkerPhase (RunJob τ α)) (balanced : Balanced pick inHand execution notes)
    (at_ : execution.pool.workers[worker]? = some old)
    (workers : after.pool.workers = execution.pool.workers.set worker phase)
    (tally : ∀ index, (more.filterMap pick).count index + (if inHand index phase then 1 else 0) =
      ((takes more).map Prod.snd).count index + (if inHand index old then 1 else 0)) :
    Balanced pick inHand after (notes ++ more) := by
  intro index
  have before := balanced index
  have change := countP_set_add (inHand index) _ worker old phase at_
  have step := tally index
  simp only [List.filterMap_append, takes_append, List.map_append, List.count_append, workers]
  omega

theorem Balanced.transfer (after : Execution τ α) (more : List (RunNote τ α))
    (balanced : Balanced pick inHand execution notes) (silent : more.filterMap pick = [])
    (none : takes more = []) (workers : ∀ index, after.pool.workers.countP (inHand index) =
      execution.pool.workers.countP (inHand index)) :
    Balanced pick inHand after (notes ++ more) := by
  intro index
  rw [List.filterMap_append, silent, takes_append, none, workers]
  simpa using balanced index

end Balance

/-! ### The latches -/

theorem Counted.workers_nodup (counted : execution.Counted taken)
    (closed : execution.gate.state = .closed) (queued : execution.Queued taken) :
    (taken.map Prod.fst).Nodup := by
  refine List.Nodup.map_on ?_ (List.Nodup.of_map _ queued.nodup)
  intro one first other second same
  obtain ⟨job, holds, index⟩ := counted.held closed one first
  obtain ⟨job', holds', index'⟩ := counted.held closed other second
  -- A worker runs one job at a time, and it still holds whichever it took.
  rw [same, holds'] at holds
  obtain rfl : job' = job := by simpa using holds
  exact Prod.ext same (index.symm.trans index')

/-- Behind a closed gate no more jobs are taken than there are to be workers. -/
theorem Counted.taken_le (staged : execution.Staged) (queued : execution.Queued taken)
    (counted : execution.Counted taken) (closed : execution.gate.state = .closed) :
    taken.length ≤ execution.poolSize := by
  -- Different workers hold the jobs, and there are no more of them than the pool has.
  have few := length_le_of_places execution.pool.workers _ (counted.workers_nodup closed queued) ?_
  · rw [List.length_map] at few
    exact Nat.le_trans few staged.length_le
  · intro worker member
    obtain ⟨take, took, rfl⟩ := List.mem_map.mp member
    obtain ⟨job, holds, -⟩ := counted.held closed take took
    exact ⟨_, holds⟩

/-- The caller's steps leave the latches as they are, apart from settling the gate. -/
private theorem Counted.transfer (after : Execution τ α) (more : List (Nat × Nat))
    (counted : execution.Counted taken) (none : more = [])
    (workers : after.pool.workers = execution.pool.workers) (fixed : Fixed execution after)
    (gate : after.gate.state = execution.gate.state ∨ execution.gate.state = .closed ∧
      after.gate.state ≠ .closed)
    (ready : after.ready = execution.ready) (done : after.done = execution.done) :
    after.Counted (taken ++ more) := by
  subst none
  rw [List.append_nil]
  -- A gate that is closed now was closed before, since none closes again.
  have before (closed : after.gate.state = .closed) : execution.gate.state = .closed := by
    rcases gate with same | ⟨-, settled⟩
    · rw [← same]
      exact closed
    · exact absurd closed settled
  refine ⟨?_, ?_, ?_, ?_⟩
  · intro closed
    rw [workers]
    exact counted.held (before closed)
  · intro closed
    rw [workers, ready, fixed.poolSize]
    exact counted.ready (before closed)
  · intro going
    rw [workers, done, fixed.taskCount]
    apply counted.done
    rcases gate with same | ⟨closed, -⟩
    · rw [← same]
      exact going
    · simp [closed]
  · intro shut
    rw [done, fixed.taskCount]
    apply counted.idle
    rcases gate with same | ⟨closed, -⟩
    · rw [← same]
      exact shut
    · simp [closed]

/-- One worker's step, seen by the latches: what the step adds to either side of a count. -/
private theorem Counted.set (after : Execution τ α) (more : List (Nat × Nat)) (worker : Nat)
    (old phase : WorkerPhase (RunJob τ α)) (counted : execution.Counted taken)
    (went : WorkerStep execution after worker old phase)
    (keeps : execution.gate.state = .closed → old.job? = none ∨
      phase.job?.map RunJob.index = old.job?.map RunJob.index)
    (took : more = [] ∨
      ∃ job : RunJob τ α, phase = .running job ∧ more = [(worker, job.index)])
    (ready : execution.gate.state = .closed →
      after.ready.count + more.length + (if old.isArriving then 1 else 0) =
        execution.ready.count + (if phase.isArriving then 1 else 0))
    (done : execution.gate.state ≠ .abandoned →
      after.done.count + more.length + (if old.isBusy then 1 else 0) =
        execution.done.count + (if phase.isBusy then 1 else 0))
    (idle : execution.gate.state ≠ .opened → after.done.count = execution.done.count) :
    after.Counted (taken ++ more) := by
  refine ⟨?_, ?_, ?_, ?_⟩
  · intro closed take member
    rw [went.gate] at closed
    rw [went.workers]
    rcases List.mem_append.mp member with member | member
    · obtain ⟨job, holds, index⟩ := counted.held closed take member
      by_cases same : take.1 = worker
      · subst same
        obtain rfl : old = .running job := Option.some.inj (went.held.symm.trans holds)
        rcases keeps closed with idle | kept
        · cases idle
        · obtain ⟨later, runs, kept⟩ := Option.map_eq_some_iff.mp kept
          exact ⟨later, by simp [went.below, running_of_job? phase later runs], kept.trans index⟩
      · exact ⟨job, by simpa [List.getElem?_set_ne (Ne.symm same)] using holds, index⟩
    · rcases took with none | ⟨job, rfl, one⟩
      · rw [none] at member
        cases member
      · rw [one] at member
        obtain rfl : take = (worker, job.index) := List.mem_singleton.mp member
        exact ⟨job, by simp [went.below], rfl⟩
  · intro closed
    rw [went.gate] at closed
    -- What the step takes off the latch it takes off the workers counted.
    have change := countP_set_add WorkerPhase.isArriving _ worker old phase went.held
    have before := counted.ready closed
    have step := ready closed
    rw [went.workers, went.poolSize, List.length_append]
    omega
  · intro going
    rw [went.gate] at going
    have change := countP_set_add WorkerPhase.isBusy _ worker old phase went.held
    have before := counted.done going
    have step := done going
    rw [went.workers, went.taskCount, List.length_append]
    omega
  · intro shut
    rw [went.gate] at shut
    rw [went.taskCount, idle shut]
    exact counted.idle shut

private theorem countP_pos (test : WorkerPhase (RunJob τ α) → Bool)
    (workers : List (WorkerPhase (RunJob τ α))) (worker : Nat) (phase : WorkerPhase (RunJob τ α))
    (at_ : workers[worker]? = some phase) (holds : test phase = true) :
    0 < workers.countP test :=
  List.countP_pos_iff.mpr ⟨phase, List.mem_of_getElem? at_, holds⟩

theorem Counted.step (staged : execution.Staged) (crewed : execution.Crewed taken)
    (queued : execution.Queued taken) (counted : execution.Counted taken)
    (transition : execution.Transition raised now move next) :
    next.execution.Counted (taken ++ takes next.notes) := by
  have fixed := transition.fixed
  cases transition with
  | spawned at_ stage more | poolOpened at_ stage last =>
    simp only [takes_nil, takes_cons, RunNote.take?, Option.toList_none, List.append_nil]
    refine ⟨?_, ?_, ?_, counted.idle⟩
    · intro closed take member
      obtain ⟨job, holds, index⟩ := counted.held closed take member
      exact ⟨job, by rw [List.getElem?_append_left (List.getElem?_eq_some_iff.mp holds).1, holds],
        index⟩
    · intro closed
      simpa [List.countP_append, WorkerPhase.isArriving, poolSize] using counted.ready closed
    · intro going
      simpa [List.countP_append, WorkerPhase.isBusy, taskCount] using counted.done going
  -- Settling the gate ends the count of the ready latch, and nothing else.
  | openedGate grant at_ | abandonedGate grant cause at_ =>
    have closed := (staged.placedAt at_).gate
    exact counted.transfer _ _ rfl rfl fixed (.inr ⟨closed, by simp⟩) rfl rfl
  | withdrawn grant cause at_ stage joined =>
    refine counted.transfer _ _ ?_ rfl fixed (.inl rfl) rfl rfl
    cases cause <;> rfl
  | took worker job rest at_ queue =>
    obtain ⟨arriving, -⟩ := queued.fresh job (by simp [queue])
    have shape : job = ⟨job.index, job.task, .arriving⟩ := by rw [← arriving]
    refine counted.set _ _ worker _ (.running job) ⟨fixed, at_, rfl, rfl, rfl⟩ (fun _ => .inl rfl)
      (.inr ⟨job, rfl, rfl⟩) ?_ ?_ fun _ => rfl
    · rw [shape]
      simp [WorkerPhase.isArriving]
    · rw [shape]
      simp [WorkerPhase.isBusy]
  | locked worker at_ free | foundNone worker at_ queue stage shut | exited worker at_
  | reported worker at_ =>
    exact counted.set _ _ worker _ _ ⟨fixed, at_, rfl, rfl, rfl⟩ (fun _ => .inl rfl) (.inl rfl)
      (fun _ => rfl) (fun _ => rfl) fun _ => rfl
  | arrived worker index task at_ =>
    refine counted.set _ _ worker _ (.running ⟨index, task, .atGate⟩) ⟨fixed, at_, rfl, rfl, rfl⟩
      (fun _ => .inr rfl) (.inl rfl) ?_ (fun _ => rfl) fun _ => rfl
    · intro closed
      -- The latch is not at zero yet: this worker's job is taken and has not come to it.
      have few := counted.taken_le staged queued closed
      have before := counted.ready closed
      have here := countP_pos WorkerPhase.isArriving _ worker _ at_ rfl
      have counts := execution.ready.count_countDown
      simp only [takes_cons, RunNote.take?, Option.toList_none, takes_nil, List.append_nil,
        List.length_nil, counts, WorkerPhase.isArriving, if_true, Bool.false_eq_true, if_false]
      omega
  | called worker index task at_ awake gate =>
    exact counted.set _ _ worker _ _ ⟨fixed, at_, rfl, rfl, rfl⟩ (fun _ => .inr rfl) (.inl rfl)
      (fun _ => rfl) (fun _ => rfl) fun _ => rfl
  -- Behind an abandoned gate the done latch is not counted down any more.
  | skipped worker index task at_ awake gate =>
    exact counted.set _ _ worker _ _ ⟨fixed, at_, rfl, rfl, rfl⟩ (fun _ => .inr rfl) (.inl rfl)
      (fun _ => rfl) (fun going => absurd gate going) fun _ => rfl
  | bodyEnded worker index task since result at_ =>
    refine counted.set _ _ worker _ _ ⟨fixed, at_, rfl, rfl, rfl⟩ (fun _ => .inr rfl)
      (.inl (by simp)) ?_ ?_ fun _ => rfl
    · simp [WorkerPhase.isArriving, withWorker]
    · simp [WorkerPhase.isBusy, withWorker]
  | filed worker index task since outcome at_ =>
    exact counted.set _ _ worker _ (.running ⟨index, task, .counting⟩) ⟨fixed, at_, rfl, rfl, rfl⟩
      (fun _ => .inr rfl) (.inl rfl) (fun _ => rfl) (fun _ => rfl) fun _ => rfl
  | countedDone worker index task at_ =>
    have opened : execution.gate.state = .opened := (crewed worker _ at_).2.2
    have going : execution.gate.state ≠ .abandoned := by simp [opened]
    refine counted.set _ _ worker _ (.running ⟨index, task, .ended⟩) ⟨fixed, at_, rfl, rfl, rfl⟩
      (fun _ => .inr rfl) (.inl rfl) (fun _ => rfl) ?_ fun shut => absurd opened shut
    · intro _
      -- Nor is this one, as long as a job that was submitted is not done.
      have few := staged.submitted_le queued
      have before := counted.done going
      have here := countP_pos WorkerPhase.isBusy _ worker _ at_ rfl
      have counts := execution.done.count_countDown
      simp only [takes_nil, List.length_nil, counts, WorkerPhase.isBusy, if_true,
        Bool.false_eq_true, if_false]
      omega
  | finished worker index task at_ =>
    -- A job is over behind a settled gate only, where workers need not hold theirs.
    have settled : execution.gate.state ≠ .closed := (crewed worker _ at_).2.2
    exact counted.set _ _ worker _ _ ⟨fixed, at_, rfl, rfl, rfl⟩
      (fun closed => absurd closed settled) (.inl rfl) (fun _ => rfl) (fun _ => rfl) fun _ => rfl
  | _ => exact counted.transfer _ _ rfl rfl fixed (.inl rfl) rfl rfl

end Execution

end GatedRun
