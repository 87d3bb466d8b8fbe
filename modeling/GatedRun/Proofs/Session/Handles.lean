import GatedRun.Proofs.Execution.Handles
import GatedRun.Proofs.Session.Calls

/-!
# The handles of a session

The entries in the list of the runner are handles, as long as the session has one, and so are the
jobs of its calls. A step of a session does to the handles of jobs what it does to those of the one
call that goes on (`Sound.handled`).
-/

namespace GatedRun

variable {τ α : Type}

namespace SessionNote

@[simp] def note? : SessionNote τ α → Option (RunNote τ α)
  | .ofCall _ note => some note
  | .refused _ => none

end SessionNote

/-- All that a session lets know of its calls. -/
def runNotes (notes : List (SessionNote τ α)) : List (RunNote τ α) :=
  notes.filterMap SessionNote.note?

@[simp] theorem runNotes_nil : runNotes ([] : List (SessionNote τ α)) = [] := rfl

@[simp] theorem runNotes_cons (note : SessionNote τ α) (notes : List (SessionNote τ α)) :
    runNotes (note :: notes) = note.note?.toList ++ runNotes notes :=
  filterMap_cons_toList _ note notes

theorem runNotes_ofCall (call : Nat) (notes : List (RunNote τ α)) :
    runNotes (notes.map (.ofCall call)) = notes := by
  induction notes with
  | nil => rfl
  | cons note notes ih => simp [ih]

namespace Session

variable {session after : Session τ α} {notes : List (RunNote τ α)}
  {known told : List (SessionNote τ α)} {move : SessionMove τ α}

/-- The tasks of a call are those that it had before the step, or it begins in this step with those
of the runner. -/
theorem Sound.tasks_of_call (sound : Sound Runner.IsSound session known)
    (stepped : session.step move = some (after, told)) (execution : Execution τ α)
    (member : execution ∈ after.calls) :
    (∃ earlier ∈ session.calls, earlier.tasks = execution.tasks) ∨
      ∃ runner, session.runner = some runner ∧ runner.tasks = execution.tasks := by
  obtain ⟨call, held⟩ := List.mem_iff_getElem?.mp member
  cases before : session.calls[call]? with
  | none =>
    obtain ⟨runner, now, -, holds, rfl⟩ := step_fresh call before execution held stepped
    exact .inr ⟨runner, holds, rfl⟩
  | some earlier =>
    left
    refine ⟨earlier, List.mem_of_getElem? before, ?_⟩
    rcases step_call call earlier before stepped with
      ⟨now, own, next, -, moved, held', -, -⟩ | ⟨-, held', -⟩
    · obtain ⟨_, -, runs⟩ := sound.calls call earlier before
      obtain rfl : next.execution = execution := Option.some.inj (held'.symm.trans held)
      exact (runs.toSound.transition moved).fixed.tasks.symm
    · obtain rfl : earlier = execution := Option.some.inj (held'.symm.trans held)
      rfl

variable [DecidableEq τ]

/-- The entries of the task in the list of the runner, if there is still one. -/
def listed (session : Session τ α) (task : τ) : Nat :=
  match session.runner with
  | none => 0
  | some runner => runner.tasks.count task

/-- The jobs of the task, in any call, that are not over. -/
def jobsOf (session : Session τ α) (task : τ) : Nat :=
  sumOver (fun execution => execution.jobsOf task) session.calls

/-- What a step does to the handles of the jobs of all calls. -/
structure Handled (session after : Session τ α) (notes : List (RunNote τ α)) : Prop where
  jobs : ∀ task, after.jobsOf task + (handlesReleased notes).count task =
    session.jobsOf task + (handlesTaken notes).count task
  own : ∀ task ∈ handlesTaken notes, ∃ execution ∈ session.calls, task ∈ execution.tasks
  fits : ∀ task, (handlesReleased notes).count task ≤ session.jobsOf task

private theorem Handled.of_silent (taken : handlesTaken notes = [])
    (released : handlesReleased notes = [])
    (jobs : ∀ task, after.jobsOf task = session.jobsOf task) : session.Handled after notes := by
  constructor
  · intro task
    rw [taken, released, jobs]
  · simp [taken]
  · simp [released]

/-- A step of a session does to the handles what it does to those of the call that goes on. -/
theorem Sound.handled (sound : Sound Runner.IsSound session known)
    (stepped : session.step move = some (after, told)) :
    session.Handled after (runNotes told) := by
  cases move with
  | extend extension =>
    simp only [Session.step] at stepped
    split at stepped
    · cases stepped
    · split at stepped <;> cases stepped <;> exact .of_silent rfl rfl fun _ => rfl
  | drop | raise | take =>
    cases stepped
    exact .of_silent rfl rfl fun _ => rfl
  | begin now =>
    obtain ⟨runner, holds, rfl, rfl⟩ := (begin_eq_some_iff now).mp stepped
    rw [runNotes_ofCall]
    refine .of_silent rfl rfl fun task => ?_
    simp [jobsOf, Execution.start_jobsOf]
  | run call now own =>
    obtain ⟨execution, next, held, moved, rfl, rfl⟩ := (run_eq_some_iff call now own).mp stepped
    obtain ⟨runner, -, runs⟩ := sound.calls call execution held
    have handled := (runs.toSound.transition moved).handled
    have member := List.mem_of_getElem? held
    rw [runNotes_ofCall]
    constructor
    · intro task
      have change := sumOver_set_add (fun execution => execution.jobsOf task) session.calls call
        execution next.execution held
      have jobs := handled.jobs task
      simp only [jobsOf]
      omega
    · intro task taken
      exact ⟨execution, member, handled.own task taken⟩
    · intro task
      exact Nat.le_trans (handled.released_le task)
        (le_sumOver (fun execution => execution.jobsOf task) session.calls execution member)

/-- Whatever a call has returned, none of its jobs is left once the workers are over. -/
theorem Sound.jobsOf_of_returned (sound : Sound Runner.IsSound session known)
    (execution : Execution τ α) (member : execution ∈ session.calls)
    (result : Except RunError (ResultSet α)) (returned : execution.result? = some result)
    (ended : result ≠ .error (.interrupted .completion) ∨ execution.pool.isQuiet = true)
    (task : τ) : execution.jobsOf task = 0 := by
  obtain ⟨call, held⟩ := List.mem_iff_getElem?.mp member
  obtain ⟨runner, -, runs⟩ := sound.calls call execution held
  have quiet : execution.pool.isQuiet = true :=
    ended.elim (runs.toSound.quiet_of_result result returned) id
  exact runs.toSound.jobsOf_of_quiet result returned quiet task

end Session

end GatedRun
