import GatedRun.Proofs.Execution.Barrier

/-!
# Tasks in flight

Nothing counts the tasks that are under way, and still there are never more of them than workers: a
worker takes a job from the queue only when it has none, and has it until the job is over
(`Attended`). As the jobs are taken in the order of submission, a task whose turn has come has
nearly all tasks before it behind it (`Sound.finished_below`). None of this looks at the caller, so
it holds as well for a run that was interrupted and let go of its pool.
-/

namespace GatedRun

variable {τ α : Type}

/-- The index of the task whose job is over. -/
@[simp] def RunNote.jobEnd? : RunNote τ α → Option Nat
  | .jobEnded _ index => some index
  | _ => none

def WorkerPhase.runs (index : Nat) : WorkerPhase (RunJob τ α) → Bool
  | .running job => job.index == index
  | _ => false

/-- The tasks that have completely ended, in the order in which they have. -/
def finished (notes : List (RunNote τ α)) : List Nat := notes.filterMap RunNote.jobEnd?

/-- The tasks that are taken and have not ended, each with the worker that took it. -/
def inFlight (notes : List (RunNote τ α)) : List (Nat × Nat) :=
  (takes notes).filter (·.2 ∉ finished notes)

/-- The body of the task at an index was called and has not ended. -/
def InBody (notes : List (RunNote τ α)) (index : Nat) : Prop :=
  (∃ worker task, .called worker task ∈ bodyEvents index notes) ∧
    ∀ worker result, .ended worker result ∉ bodyEvents index notes

namespace Execution

variable {runner : Runner τ} {execution : Execution τ α} {notes : List (RunNote τ α)}
  {raised : Bool} {now : Instant} {move : RunMove α} {next : Stepped τ α}

/-! ### Who has a job -/

/-- A job that is taken is over as soon as no worker runs it any more, and not before. -/
def Attended (execution : Execution τ α) (notes : List (RunNote τ α)) : Prop :=
  Balanced RunNote.jobEnd? WorkerPhase.runs execution notes

theorem Attended.step (attended : execution.Attended notes)
    (transition : execution.Transition raised now move next) :
    next.execution.Attended (notes ++ next.notes) := by
  have balanced : Balanced RunNote.jobEnd? WorkerPhase.runs execution notes := attended
  cases transition with
  | spawned | poolOpened =>
    apply balanced.transfer _ _ rfl rfl
    intro index
    simp [List.countP_append, WorkerPhase.runs]
  | took worker job rest at_ queue =>
    apply balanced.set _ _ worker _ _ at_ rfl
    intro index
    change 0 + (if job.index == index then 1 else 0) = [job.index].count index + 0
    rw [List.count_singleton, Nat.zero_add, Nat.add_zero]
  | finished worker own task at_ =>
    apply balanced.set _ _ worker _ _ at_ rfl
    intro index
    change [own].count index + 0 = 0 + (if own == index then 1 else 0)
    rw [List.count_singleton, Nat.zero_add, Nat.add_zero]
  -- Between these two steps the worker runs the same job.
  | locked worker at_ | foundNone worker at_ | exited worker at_ | reported worker at_
  | arrived worker _ _ at_ | called worker _ _ at_ | skipped worker _ _ at_
  | filed worker _ _ _ _ at_ | countedDone worker _ _ at_ =>
    exact balanced.set _ _ worker _ _ at_ rfl fun _ => rfl
  | bodyEnded worker own task since result at_ =>
    cases result <;> exact balanced.set _ _ worker _ _ at_ rfl fun _ => rfl
  | withdrawn grant cause => cases cause <;> exact balanced.transfer _ _ rfl rfl fun _ => rfl
  | _ => exact balanced.transfer _ _ rfl rfl fun _ => rfl

theorem start_attended (runner : Runner τ) (sound : runner.IsSound) (now : Instant) :
    (start (α := α) runner.tasks runner.config now).1.Attended
      (start runner.tasks runner.config now).2 := by
  rw [start_eq runner sound now]
  intro index
  rfl

theorem SoundFor.attended_replay (sound : SoundFor runner execution notes)
    (attended : execution.Attended notes) (turns : List (Turn α)) (last : Execution τ α)
    (more : List (RunNote τ α))
    (ran : GatedRun.replay advance execution turns = some (last, more)) :
    last.Attended (notes ++ more) :=
  sound.replay_keeps Attended
    (fun _ _ _ _ _ _ _ attended transition => attended.step transition) attended turns last more
    ran

theorem isFree_iff (index : Nat) :
    execution.IsFree index ↔ execution.pool.workers.countP (WorkerPhase.runs index) = 0 := by
  rw [List.countP_eq_zero]
  constructor
  · intro free phase member
    obtain ⟨worker, held⟩ := List.mem_iff_getElem?.mp member
    cases phase with
    | running job => simpa [WorkerPhase.runs] using free worker job held
    | _ => simp [WorkerPhase.runs]
  · intro none worker job held
    simpa [WorkerPhase.runs] using none _ (List.mem_of_getElem? held)

section Bound

variable (sound : execution.Sound notes) (attended : execution.Attended notes)

include sound attended

theorem Sound.count_finished (index : Nat) :
    (finished notes).count index + execution.pool.workers.countP (WorkerPhase.runs index) =
      if index < (takes notes).length then 1 else 0 := by
  have balanced := attended index
  rw [sound.queued.indices, List.nodup_range.count] at balanced
  simp only [List.mem_range] at balanced
  exact balanced

/-- No task ends twice. -/
theorem Sound.finished_nodup : (finished notes).Nodup := by
  rw [List.nodup_iff_count_le_one]
  intro index
  have all := sound.count_finished attended index
  split at all <;> omega

/-- A task has ended if its job was taken and is no worker's any more. -/
theorem Sound.mem_finished (index : Nat) :
    index ∈ finished notes ↔ index < (takes notes).length ∧ execution.IsFree index := by
  have all := sound.count_finished attended index
  rw [← List.count_pos_iff, isFree_iff]
  split at all <;> omega

/-- A task is in flight with a worker that runs its job. -/
theorem Sound.mem_inFlight (worker index : Nat) : (worker, index) ∈ inFlight notes ↔
    ∃ job : RunJob τ α, execution.pool.workers[worker]? = some (.running job) ∧
      job.index = index := by
  rw [inFlight, List.mem_filter, decide_eq_true_eq, sound.mem_finished attended]
  constructor
  · rintro ⟨took, unfinished⟩
    have below := (sound.queued.taken_iff index).mp ⟨worker, took⟩
    unfold IsFree at unfinished
    push Not at unfinished
    obtain ⟨owner, job, held, rfl⟩ := unfinished below
    -- Whoever runs the job is the one that took it.
    obtain rfl := sound.queued.worker_unique worker owner job.index took
      (sound.crewed owner _ held).1
    exact ⟨job, held, rfl⟩
  · rintro ⟨job, held, rfl⟩
    refine ⟨(sound.crewed worker _ held).1, ?_⟩
    rintro ⟨-, free⟩
    exact free worker job held rfl

/-- No worker is in two tasks. -/
theorem Sound.workers_inFlight : ((inFlight notes).map Prod.fst).Nodup := by
  apply List.Nodup.map_on
  · rintro ⟨worker, one⟩ first ⟨other, two⟩ second same
    obtain rfl : worker = other := same
    obtain ⟨job, held, rfl⟩ := (sound.mem_inFlight attended worker one).mp first
    obtain ⟨job', held', rfl⟩ := (sound.mem_inFlight attended worker two).mp second
    rw [held] at held'
    cases held'
    rfl
  · exact (List.Nodup.of_map _ sound.queued.nodup).filter _

theorem Sound.length_inFlight : (inFlight notes).length ≤ execution.poolSize := by
  have few := length_le_of_places execution.pool.workers _ (sound.workers_inFlight attended) ?_
  · rw [List.length_map] at few
    exact Nat.le_trans few sound.staged.length_le
  · intro worker member
    obtain ⟨⟨_, index⟩, flying, rfl⟩ := List.mem_map.mp member
    obtain ⟨job, held, -⟩ := (sound.mem_inFlight attended _ index).mp flying
    exact ⟨_, held⟩

/-- Different tasks that are in flight are no more than the pool has workers. -/
theorem Sound.length_le_of_inFlight (indices : List Nat) (distinct : indices.Nodup)
    (flying : ∀ index ∈ indices, ∃ worker, (worker, index) ∈ inFlight notes) :
    indices.length ≤ execution.poolSize := by
  have inside : indices ⊆ (inFlight notes).map Prod.snd := by
    intro index member
    obtain ⟨worker, flies⟩ := flying index member
    exact List.mem_map_of_mem flies
  have few := (distinct.subperm inside).length_le
  rw [List.length_map] at few
  exact Nat.le_trans few (sound.length_inFlight attended)

/-- Of the first tasks, once they are all taken, all but as many as there are workers have ended. -/
theorem Sound.finished_below (count : Nat) (taken : count ≤ (takes notes).length) :
    count ≤ ((finished notes).filter (· < count)).length + execution.poolSize := by
  have flying := sound.length_le_of_inFlight attended
    ((List.range count).filter (· ∉ finished notes)) (List.nodup_range.filter _) ?_
  · have ended : (List.range count).filter (· ∈ finished notes) ⊆
        (finished notes).filter (· < count) := by
      intro index member
      simpa [and_comm] using member
    have most := ((List.nodup_range.filter _).subperm ended).length_le
    have all := List.length_eq_length_filter_add (l := List.range count) (· ∈ finished notes)
    simp only [List.length_range, decide_not] at all flying
    omega
  · intro index member
    simp only [List.mem_filter, List.mem_range, decide_eq_true_eq] at member
    obtain ⟨worker, took⟩ := (sound.queued.taken_iff index).mpr (by omega)
    refine ⟨worker, List.mem_filter.mpr ⟨took, ?_⟩⟩
    simpa using member.2

/-- A body in progress is that of a task in flight. -/
theorem Sound.inFlight_of_inBody (index : Nat) (inBody : InBody notes index) :
    ∃ worker, (worker, index) ∈ inFlight notes := by
  obtain ⟨⟨worker, task, called⟩, going⟩ := inBody
  have took := (sound.event_taken worker index task called).1
  refine ⟨worker, List.mem_filter.mpr ⟨took, ?_⟩⟩
  rw [decide_eq_true_eq]
  intro member
  obtain ⟨below, free⟩ := (sound.mem_finished attended index).mp member
  have settled := sound.recorded.ended index below free
  -- Behind an open gate the body of a task that is over has ended; behind another one it was not
  -- called.
  by_cases opened : execution.gate.state = .opened
  · obtain ⟨owner, _, _, result, -, -, events, -⟩ := settled.1 opened
    exact going owner result (by simp [events])
  · rw [(settled.2 opened).1] at called
    cases called

end Bound

/-- Only a worker at the open gate calls a body, and its own task's. -/
theorem Transition.running_of_called (transition : execution.Transition raised now move next)
    (worker index : Nat) (task : τ) (called : .bodyCalled worker index task ∈ next.notes) :
    ∃ job : RunJob τ α, execution.pool.workers[worker]? = some (.running job) ∧
      job.index = index := by
  cases transition with
  | called owner own task' at_ =>
    cases List.mem_singleton.mp called
    exact ⟨_, at_, rfl⟩
  | bodyEnded owner own task' since result =>
    cases result <;> simp [outcomeNotes, Outcome.capture] at called
  | withdrawn grant cause => cases cause <;> simp [toCaller, failureNotes] at called
  | _ => simp [toCaller, handOver] at called

/-- Before the body of a task is called, nearly all tasks before it have ended. -/
theorem Sound.finished_of_called (sound : execution.Sound notes)
    (attended : execution.Attended notes)
    (transition : execution.Transition raised now move next) (worker index : Nat) (task : τ)
    (called : .bodyCalled worker index task ∈ next.notes) :
    index + 1 ≤ ((finished notes).filter (· < index)).length + execution.poolSize := by
  have running := transition.running_of_called worker index task called
  have flies := (sound.mem_inFlight attended worker index).mpr running
  obtain ⟨took, unfinished⟩ := List.mem_filter.mp flies
  have below := (sound.queued.taken_iff index).mp ⟨worker, took⟩
  have most := sound.finished_below attended (index + 1) below
  -- The task itself has not ended.
  have others : (finished notes).filter (· < index + 1) = (finished notes).filter (· < index) := by
    apply List.filter_congr
    intro other member
    have apart : other ≠ index := by
      rintro rfl
      simp [member] at unfinished
    simp only [decide_eq_decide]
    omega
  rwa [others] at most

/-- In every state of an execution, also after it was interrupted and has returned:
* the tasks taken are the first ones, those that have ended are among them, and only as many have
  not ended as the pool has workers;
* each worker is in one of these at most, and it is the one whose job it runs;
* no more bodies are in progress than the runner's bound on the threads allows;
* if the next step calls a body, then all tasks before it but as many as there are other workers
  have ended. -/
theorem thread_bound (opening : Opening τ) (extensions : List (Extension τ))
    {interrupt : Interrupt} (runner : Runner τ)
    (built : Runner.build opening extensions interrupt = .ok runner) (now : Instant)
    (turns : List (Turn α))
    (execution : Execution τ α) (notes : List (RunNote τ α))
    (ran : GatedRun.replay advance (start runner.tasks runner.config now).1 turns =
      some (execution, notes)) :
    runner.poolSize = min runner.taskCount (runner.config.threadCount.getD runner.taskCount) ∧
    (takes notes).map Prod.snd = List.range (takes notes).length ∧
    (finished notes).Nodup ∧ (∀ index ∈ finished notes, index < (takes notes).length) ∧
    (takes notes).length ≤ (finished notes).length + runner.poolSize ∧
    ((inFlight notes).map Prod.fst).Nodup ∧
    (∀ worker index, (worker, index) ∈ inFlight notes ↔ ∃ job : RunJob τ α,
      execution.pool.workers[worker]? = some (.running job) ∧ job.index = index) ∧
    (∀ indices : List Nat, indices.Nodup → (∀ index ∈ indices, InBody notes index) →
      indices.length ≤ runner.poolSize) ∧
    ∀ (turn : Turn α) (after : Execution τ α) (told : List (RunNote τ α)) (worker index : Nat)
      (task : τ), execution.advance turn = some (after, told) →
      .bodyCalled worker index task ∈ told →
      index + 1 ≤ ((finished notes).filter (· < index)).length + runner.poolSize := by
  have runs := Runner.build_sound opening extensions runner built
  have begun := start_soundFor (α := α) runner runs now
  have sound := begun.replay turns execution notes ran
  have attended := begun.attended_replay (start_attended runner runs now) turns execution notes ran
  have size := sound.poolSize
  rw [← size]
  refine ⟨?_, sound.queued.indices, sound.finished_nodup attended, ?_, ?_,
    sound.workers_inFlight attended, sound.mem_inFlight attended, ?_, ?_⟩
  · rw [size]
    exact runner.config.poolSize_eq_min runner.taskCount
  · intro index member
    exact ((sound.mem_finished attended index).mp member).1
  · have most := sound.finished_below attended _ (Nat.le_refl _)
    exact Nat.le_trans most (Nat.add_le_add_right (List.length_filter_le _ _) _)
  · intro indices distinct inBody
    apply sound.length_le_of_inFlight attended indices distinct
    intro index member
    exact sound.inFlight_of_inBody attended index (inBody index member)
  · intro turn after told worker index task advanced called
    obtain ⟨next, stepped, same⟩ := Option.map_eq_some_iff.mp advanced
    cases same
    exact sound.finished_of_called attended (sound.toSound.transition stepped) worker index task
      called

/-- The second worker is in the body of the first task when the run is interrupted. It takes the
last task once that has ended, while the first worker is still at the gate. -/
def trioOvertime : List (Turn Nat) :=
  let calm : List (RunMove Nat) → List (Turn Nat) := List.map (Turn.mk false 2)
  List.flatten [calm trioOpening, calm [.work 1],
    [{ raised := true, now := 2, move := .call .given }], calm [.call .given],
    calm [.bodyEnds 1 (.returned 6)], calm (List.replicate 7 (.work 1))]

theorem thread_bound_overtime : ∃ (execution after : Execution Nat Nat)
    (notes told : List (RunNote Nat Nat)),
    GatedRun.replay advance (start trioRunner.tasks trioRunner.config 1).1 trioOvertime =
      some (execution, notes) ∧
    execution.result? = some (.error (.interrupted .completion)) ∧
    takes notes = [(1, 0), (0, 1), (1, 2)] ∧ finished notes = [0] ∧
    ((inFlight notes).map Prod.fst).Nodup ∧
    execution.advance ⟨false, 2, .work 1⟩ = some (after, told) ∧
    .bodyCalled 1 2 5 ∈ told ∧ 2 + 1 ≤ ((finished notes).filter (· < 2)).length + 2 := by
  have ran : GatedRun.replay advance (start trioRunner.tasks trioRunner.config 1).1 trioOvertime =
    some (_, _) := rfl
  have size : trioRunner.poolSize = 2 := rfl
  obtain ⟨-, -, -, -, -, distinct, -, -, called⟩ :=
    thread_bound (.tasks [3, 4, 5]) [.threadCount 2] trioRunner rfl 1 _ _ _ ran
  exact ⟨_, _, _, _, ran, rfl, rfl, rfl, distinct, rfl, List.mem_singleton.mpr rfl,
    called ⟨false, 2, .work 1⟩ _ _ 1 2 5 rfl (List.mem_singleton.mpr rfl)⟩

end Execution

end GatedRun
