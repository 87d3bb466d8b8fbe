import GatedRun.Proofs.Execution.Completion
import GatedRun.Proofs.Pool.Completion

/-!
# The handles of jobs

Each job has a handle on its task, from the moment at which it is submitted until it is over. A step
makes one such handle or lets one go, or it does neither, and it says so; hence what was made and
what was let go differ by the jobs that are left (`Transition.handled`). None is left once the
caller has joined the workers, and none once those that it has let go are over
(`Sound.jobsOf_of_quiet`).
-/

namespace GatedRun

variable {τ α : Type}

/-! ### Handles in the ledger -/

namespace RunNote

@[simp] def handleTaken? : RunNote τ α → Option τ
  | .handleTaken task => some task
  | _ => none

@[simp] def handleReleased? : RunNote τ α → Option τ
  | .handleReleased task => some task
  | _ => none

end RunNote

/-- The tasks on which handles were made for jobs, in order. -/
def handlesTaken (notes : List (RunNote τ α)) : List τ := notes.filterMap RunNote.handleTaken?

/-- The tasks on which jobs have let go of their handles, in order. -/
def handlesReleased (notes : List (RunNote τ α)) : List τ :=
  notes.filterMap RunNote.handleReleased?

@[simp] theorem handlesTaken_nil : handlesTaken ([] : List (RunNote τ α)) = [] := rfl

@[simp] theorem handlesTaken_cons (note : RunNote τ α) (notes : List (RunNote τ α)) :
    handlesTaken (note :: notes) = note.handleTaken?.toList ++ handlesTaken notes :=
  filterMap_cons_toList _ note notes

@[simp] theorem handlesTaken_append (notes more : List (RunNote τ α)) :
    handlesTaken (notes ++ more) = handlesTaken notes ++ handlesTaken more :=
  List.filterMap_append

@[simp] theorem handlesReleased_nil : handlesReleased ([] : List (RunNote τ α)) = [] := rfl

@[simp] theorem handlesReleased_cons (note : RunNote τ α) (notes : List (RunNote τ α)) :
    handlesReleased (note :: notes) = note.handleReleased?.toList ++ handlesReleased notes :=
  filterMap_cons_toList _ note notes

@[simp] theorem handlesReleased_append (notes more : List (RunNote τ α)) :
    handlesReleased (notes ++ more) = handlesReleased notes ++ handlesReleased more :=
  List.filterMap_append

namespace Execution

variable {execution : Execution τ α} {notes : List (RunNote τ α)}

/-! ### Runs that have returned -/

/-- Whatever the result is, no submission is under way. -/
theorem Sound.calls_of_result (sound : execution.Sound notes)
    (result : Except RunError (ResultSet α)) (returned : execution.result? = some result) :
    execution.pool.calls = [] := by
  have submitted := (sound.staged.placedAt ((result?_eq_some_iff result).mp returned)).submitted
  cases result with
  | ok results => exact submitted.2
  | error cause => cases cause <;> exact submitted.2

/-- Whatever the result is, the workers that are over have left nothing in the queue. -/
theorem Sound.queue_of_result (sound : execution.Sound notes)
    (result : Except RunError (ResultSet α)) (returned : execution.result? = some result)
    (quiet : execution.pool.isQuiet = true) : execution.pool.queue = [] := by
  have placed := sound.staged.placedAt ((result?_eq_some_iff result).mp returned)
  -- Where a thread was refused nothing was submitted, and else there are workers that have left.
  rcases sound.result_cases result returned with ⟨results, rfl⟩ | rfl | rfl | ⟨fault, rfl⟩
  case inr.inr.inr =>
    have total := sound.queued.total
    rw [placed.submitted.1] at total
    exact List.eq_nil_of_length_eq_zero (by omega)
  all_goals
    have manned := sound.staged.manned
    have stage := placed.stage
    simp only [CallerPhase.Admits] at stage
    rw [stage] at manned
    exact sound.crewed.queue_empty quiet (manned ▸ sound.staged.positive)

/-- The caller joins the workers, unless it was interrupted while they were at work. -/
theorem Sound.quiet_of_result (sound : execution.Sound notes)
    (result : Except RunError (ResultSet α)) (returned : execution.result? = some result)
    (joins : result ≠ .error (.interrupted .completion)) : execution.pool.isQuiet = true := by
  have placed := sound.staged.placedAt ((result?_eq_some_iff result).mp returned)
  refine sound.staged.quiet_of_joined (placed.joined ?_)
  cases result with
  | ok results => rfl
  | error cause =>
    cases cause with
    | interrupted phase =>
      cases phase with
      | readiness => rfl
      | completion => exact absurd rfl joins
    | _ => rfl

end Execution

/-! ### Jobs by task -/

variable [DecidableEq τ]

namespace WorkerPhase

/-- Whether the worker runs a job of the task. -/
def isOn (task : τ) : WorkerPhase (RunJob τ α) → Bool
  | .running job => job.task == task
  | _ => false

end WorkerPhase

namespace Execution

variable {execution after : Execution τ α} {notes : List (RunNote τ α)} {raised : Bool}
  {now : Instant} {move : RunMove α} {next : Stepped τ α}

/-- The jobs of the task that are not over: those that are being submitted, those in the queue, and
those that a worker runs. -/
def jobsOf (execution : Execution τ α) (task : τ) : Nat :=
  execution.pool.calls.countP (·.job.task == task) +
    execution.pool.queue.countP (·.task == task) +
    execution.pool.workers.countP (WorkerPhase.isOn task)

/-! ### Steps -/

/-- What a step does to the handles of jobs. -/
structure Handled (execution after : Execution τ α) (notes : List (RunNote τ α)) : Prop where
  jobs : ∀ task, after.jobsOf task + (handlesReleased notes).count task =
    execution.jobsOf task + (handlesTaken notes).count task
  own : ∀ task ∈ handlesTaken notes, task ∈ execution.tasks
  either : handlesTaken notes = [] ∨ handlesReleased notes = []

/-- A job lets go only of a handle that it has. -/
theorem Handled.released_le (handled : execution.Handled after notes) (task : τ) :
    (handlesReleased notes).count task ≤ execution.jobsOf task := by
  have jobs := handled.jobs task
  rcases handled.either with none | none
  · rw [none, List.count_nil] at jobs
    omega
  · rw [none, List.count_nil]
    exact Nat.zero_le _

/-- A step that makes no handle and lets none go. -/
private theorem Handled.of_silent (taken : handlesTaken notes = [])
    (released : handlesReleased notes = [])
    (jobs : ∀ task, after.jobsOf task = execution.jobsOf task) :
    execution.Handled after notes := by
  refine ⟨fun task => ?_, ?_, .inl taken⟩
  · rw [taken, released, jobs, List.count_nil]
  · simp [taken]

/-- A worker goes on, and nothing else does. -/
private theorem jobsOf_set (after : Execution τ α) (worker : Nat)
    (old phase : WorkerPhase (RunJob τ α))
    (at_ : execution.pool.workers[worker]? = some old)
    (workers : after.pool.workers = execution.pool.workers.set worker phase)
    (queue : after.pool.queue = execution.pool.queue)
    (calls : after.pool.calls = execution.pool.calls) (task : τ) :
    after.jobsOf task + (if old.isOn task then 1 else 0) =
      execution.jobsOf task + (if phase.isOn task then 1 else 0) := by
  have change := countP_set_add (WorkerPhase.isOn task) _ worker old phase at_
  rw [jobsOf, jobsOf, calls, queue, workers]
  omega

/-- A worker that goes on with its loop or with its job has the handle that it had. -/
private theorem Handled.set (worker : Nat) (old phase : WorkerPhase (RunJob τ α))
    (at_ : execution.pool.workers[worker]? = some old)
    (workers : after.pool.workers = execution.pool.workers.set worker phase)
    (queue : after.pool.queue = execution.pool.queue)
    (calls : after.pool.calls = execution.pool.calls)
    (same : ∀ task, phase.isOn task = old.isOn task) (taken : handlesTaken notes = [])
    (released : handlesReleased notes = []) : execution.Handled after notes := by
  refine .of_silent taken released fun task => ?_
  have change := jobsOf_set after worker old phase at_ workers queue calls task
  rw [same task] at change
  omega

theorem Transition.handled (transition : execution.Transition raised now move next) :
    execution.Handled next.execution next.notes := by
  cases transition with
  | spawned | poolOpened =>
    exact .of_silent rfl rfl fun task => by simp [jobsOf, WorkerPhase.isOn]
  | counted grant index task at_ calls has =>
    refine ⟨fun other => ?_, ?_, .inr rfl⟩
    · simp only [jobsOf, calls]
      simp [List.count_singleton, List.countP_singleton]
      omega
    · simpa using List.mem_of_getElem? has
  | sent grant index task at_ has calls =>
    refine .of_silent rfl rfl fun other => ?_
    simp only [jobsOf, calls]
    simp [List.countP_append, List.countP_singleton]
    omega
  | took worker job rest at_ queue =>
    refine .of_silent rfl rfl fun task => ?_
    have change := countP_set_add (WorkerPhase.isOn task) _ worker _ (.running job) at_
    simp only [jobsOf, queue, Pool.setWorker]
    simp [List.countP_cons, WorkerPhase.isOn] at change ⊢
    omega
  | finished worker index task at_ =>
    refine ⟨fun other => ?_, by simp, .inl rfl⟩
    have change := jobsOf_set (execution.withWorker worker (.reporting .returned)) worker _ _ at_
      rfl rfl rfl other
    simp [WorkerPhase.isOn, List.count_singleton] at change ⊢
    omega
  | locked worker at_ | foundNone worker at_ | exited worker at_ | reported worker at_
  | arrived worker _ _ at_ | called worker _ _ at_ | skipped worker _ _ at_
  | filed worker _ _ _ _ at_ | countedDone worker _ _ at_ =>
    exact .set worker _ _ at_ rfl rfl rfl (fun _ => rfl) rfl rfl
  | bodyEnded worker index task since result at_ =>
    cases result <;> exact .set worker _ _ at_ rfl rfl rfl (fun _ => rfl) rfl rfl
  | withdrawn grant cause => cases cause <;> exact .of_silent rfl rfl fun _ => rfl
  | _ => exact .of_silent rfl rfl fun _ => rfl

/-! ### Runs that are over -/

theorem start_jobsOf (tasks : List τ) (config : Config) (now : Instant) (task : τ) :
    (start (α := α) tasks config now).1.jobsOf task = 0 := rfl

theorem Sound.jobsOf_of_quiet (sound : execution.Sound notes)
    (result : Except RunError (ResultSet α)) (returned : execution.result? = some result)
    (quiet : execution.pool.isQuiet = true) (task : τ) : execution.jobsOf task = 0 := by
  have none : execution.pool.workers.countP (WorkerPhase.isOn task) = 0 := by
    refine Pool.countP_of_quiet quiet _ fun phase runs => ?_
    cases phase with
    | running job => rfl
    | _ => cases runs
  rw [jobsOf, sound.calls_of_result result returned, sound.queue_of_result result returned quiet,
    none]
  rfl

end Execution

end GatedRun
