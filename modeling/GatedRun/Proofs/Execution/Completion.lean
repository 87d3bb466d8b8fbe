import GatedRun.Proofs.Execution.Invariant

/-!
# Completed executions

What became of the tasks by the time an execution has ended. Behind a gate that was never opened no
body was called. Behind an open one every body was called once and has ended as soon as all workers
are over, and what an execution hands over are the outcomes of just those calls.
-/

namespace GatedRun

variable {τ α : Type}

namespace Execution

variable {runner : Runner τ} {execution : Execution τ α} {notes : List (RunNote τ α)}

/-! ### Where an index is -/

/-- The body of every task was called once, by the worker that took its job, and has ended. -/
def RanAll (execution : Execution τ α) (notes : List (RunNote τ α)) : Prop :=
  ∀ (index : Nat) (task : τ), execution.tasks[index]? = some task → ∃ worker result,
    (worker, index) ∈ takes notes ∧
      bodyEvents index notes = [.called worker task, .ended worker result]

/-- No body was called. -/
def RanNone (notes : List (RunNote τ α)) : Prop := ∀ index, bodyEvents index notes = []

theorem whereabouts (execution : Execution τ α) (notes : List (RunNote τ α)) (index : Nat) :
    (takes notes).length ≤ index ∨
      (∃ (worker : Nat) (job : RunJob τ α),
        execution.pool.workers[worker]? = some (.running job) ∧ job.index = index) ∨
      (index < (takes notes).length ∧ execution.IsFree index) := by
  by_cases below : index < (takes notes).length
  · right
    by_cases free : execution.IsFree index
    · exact .inr ⟨below, free⟩
    · unfold IsFree at free
      push Not at free
      exact .inl free
  · exact .inl (Nat.not_lt.mp below)

/-- What is told of a body is told of the worker that took its job, and of its task. -/
theorem Sound.event_taken (sound : execution.Sound notes) (worker index : Nat) (task : τ)
    (called : .called worker task ∈ bodyEvents index notes) :
    (worker, index) ∈ takes notes ∧ execution.tasks[index]? = some task := by
  -- Two of the places at which the job can be know all that is told of its body.
  have filed (filed : execution.Filed notes index) :
      (worker, index) ∈ takes notes ∧ execution.tasks[index]? = some task := by
    obtain ⟨owner, own, _, result, took, has, events, -⟩ := filed
    rw [events] at called
    obtain ⟨rfl, rfl⟩ : worker = owner ∧ task = own := by simpa using called
    exact ⟨took, has⟩
  have settled (settled : execution.Settled notes index) :
      (worker, index) ∈ takes notes ∧ execution.tasks[index]? = some task := by
    by_cases opened : execution.gate.state = .opened
    · exact filed (settled.1 opened)
    · have none := (settled.2 opened).1
      rw [none] at called
      cases called
  rcases whereabouts execution notes index with above | ⟨owner, job, held, rfl⟩ | ⟨below, free⟩
  · have none := (sound.recorded.waiting index above).1
    rw [none] at called
    cases called
  · obtain ⟨took, has, -⟩ := sound.crewed owner _ held
    have underway := sound.recorded.underway owner job held
    obtain ⟨index, own, phase⟩ := job
    cases phase with
    | arriving | atGate =>
      have none := underway.1
      rw [none] at called
      cases called
    | inBody since =>
      have events := underway.1
      rw [events] at called
      obtain ⟨rfl, rfl⟩ : worker = owner ∧ task = own := by simpa using called
      exact ⟨took, has⟩
    | filing since outcome =>
      obtain ⟨-, result, events, -⟩ := underway
      rw [events] at called
      obtain ⟨rfl, rfl⟩ : worker = owner ∧ task = own := by simpa using called
      exact ⟨took, has⟩
    | counting => exact filed underway
    | ended => exact settled underway
  · exact settled (sound.recorded.ended index below free)

/-- As long as the gate was not opened, nothing has become of any task. -/
theorem Sound.untouched (sound : execution.Sound notes) (shut : execution.gate.state ≠ .opened)
    (index : Nat) : execution.Untouched notes index := by
  rcases whereabouts execution notes index with above | ⟨owner, job, held, rfl⟩ | ⟨below, free⟩
  · exact sound.recorded.waiting index above
  -- No job is past a gate that was not opened.
  · have behind := (sound.crewed owner _ held).2.2
    have underway := sound.recorded.underway owner job held
    obtain ⟨index, own, phase⟩ := job
    cases phase with
    | arriving | atGate => exact underway
    | inBody since | filing since outcome | counting => exact absurd behind shut
    | ended => exact underway.2 shut
  · exact (sound.recorded.ended index below free).2 shut

theorem Sound.ranNone (sound : execution.Sound notes) (shut : execution.gate.state ≠ .opened) :
    RanNone notes :=
  fun index => (sound.untouched shut index).1

theorem Sound.no_events_above (sound : execution.Sound notes) (index : Nat)
    (above : execution.taskCount ≤ index) : bodyEvents index notes = [] := by
  have few := sound.staged.submitted_le sound.queued
  exact (sound.recorded.waiting index (by omega)).1

/-! ### Quiet executions -/

theorem Staged.submitted_of_opened (staged : execution.Staged)
    (opened : execution.gate.state = .opened) :
    execution.pool.submitted = execution.taskCount ∧ execution.pool.calls = [] := by
  have gate := staged.placed.gate
  have submitted := staged.placed.submitted
  rw [opened] at gate
  -- The caller opens the gate only after the last submission.
  cases caller : execution.caller with
  | launching | submitting next => rw [caller] at gate; cases gate
  | returned result =>
    rw [caller] at submitted gate
    cases result with
    | ok results => exact submitted
    | error cause =>
      cases cause with
      | spawn fault => cases gate
      | _ => exact submitted
  | _ =>
    rw [caller] at submitted
    exact submitted

theorem Staged.manned_of_opened (staged : execution.Staged)
    (opened : execution.gate.state = .opened) :
    execution.pool.workers.length = execution.poolSize := by
  have gate := staged.placed.gate
  have stages := staged.placed.stage
  have manned := staged.manned
  rw [opened] at gate
  cases stage : execution.pool.stage with
  | launching | retreating =>
    -- The caller is at no such stage behind an open gate.
    exfalso
    rw [stage] at stages
    cases caller : execution.caller with
    | returned result =>
      rw [caller] at stages gate
      cases result with
      | ok results => simp [CallerPhase.Admits] at stages
      | error cause =>
        cases cause with
        | interrupted phase => cases phase <;> simp [CallerPhase.Admits] at stages
        | _ => cases gate
    | launching => rw [caller] at gate; cases gate
    | _ => rw [caller] at stages; simp [CallerPhase.Admits] at stages
  | accepting | closed | detached => rwa [stage] at manned

/-- Behind an open gate, once all workers are over, the outcome of every task is filed. -/
theorem Sound.filed (sound : execution.Sound notes) (opened : execution.gate.state = .opened)
    (quiet : execution.pool.isQuiet = true) (index : Nat) (below : index < execution.taskCount) :
    execution.Filed notes index := by
  have manned := sound.staged.manned_of_opened opened
  have some : 0 < execution.pool.workers.length := manned ▸ sound.staged.positive
  have empty := sound.crewed.queue_empty quiet some
  have all := sound.queued.all_taken (sound.staged.submitted_of_opened opened) empty
  exact (sound.recorded.ended index (all ▸ below) (isFree_of_quiet quiet index)).1 opened

theorem Sound.ranAll (sound : execution.Sound notes) (opened : execution.gate.state = .opened)
    (quiet : execution.pool.isQuiet = true) : execution.RanAll notes := by
  intro index task has
  have below := (List.getElem?_eq_some_iff.mp has).1
  obtain ⟨worker, own, _, result, took, has', events, -⟩ := sound.filed opened quiet index below
  obtain rfl : own = task := Option.some.inj (has'.symm.trans has)
  exact ⟨worker, result, took, events⟩

/-! ### What is returned -/

theorem result?_eq_some_iff (result : Except RunError (ResultSet α)) :
    execution.result? = some result ↔ execution.caller = .returned result := by
  unfold result?
  cases execution.caller <;> simp

/-- The four ways in which a run can end. -/
theorem Sound.result_cases (sound : execution.Sound notes)
    (result : Except RunError (ResultSet α)) (returned : execution.result? = some result) :
    (∃ results, result = .ok results) ∨ result = .error (.interrupted .completion) ∨
      result = .error (.interrupted .readiness) ∨ ∃ fault, result = .error (.spawn fault) := by
  have foreseen := sound.staged.placed.foreseen
  rw [(result?_eq_some_iff result).mp returned] at foreseen
  cases result with
  | ok results => exact .inl ⟨results, rfl⟩
  | error cause =>
    rcases foreseen with ⟨fault, rfl⟩ | ⟨phase, rfl⟩
    · exact .inr (.inr (.inr ⟨fault, rfl⟩))
    · cases phase with
      | readiness => exact .inr (.inr (.inl rfl))
      | completion => exact .inr (.inl rfl)

theorem Sound.gate_of_result (sound : execution.Sound notes)
    (result : Except RunError (ResultSet α)) (returned : execution.result? = some result) :
    execution.gate.state = (CallerPhase.returned result).gate := by
  have gate := sound.staged.placed.gate
  rwa [(result?_eq_some_iff result).mp returned] at gate

/-- What is handed over are the outcomes of the bodies that this execution called. -/
theorem SoundFor.delivered (sound : SoundFor runner execution notes) (results : ResultSet α)
    (returned : execution.result? = some (.ok results)) (index : Nat) (task : τ)
    (has : runner.tasks[index]? = some task) : ∃ worker result since,
      (worker, index) ∈ takes notes ∧
      bodyEvents index notes = [.called worker task, .ended worker result] ∧
      results.outcomes[index]? = some (Outcome.capture index result) ∧
      results.stats.startedAt[index]? = some (some since) := by
  have caller := (result?_eq_some_iff _).mp returned
  have opened := sound.gate_of_result _ returned
  have quiet := sound.staged.quiet_of_joined ((sound.staged.placedAt caller).joined rfl)
  rw [← sound.tasks] at has
  have below := (List.getElem?_eq_some_iff.mp has).1
  obtain ⟨worker, own, since, result, took, has', events, outcome, start⟩ :=
    sound.filed opened quiet index below
  obtain rfl : own = task := Option.some.inj (has'.symm.trans has)
  refine ⟨worker, result, since, took, events, ?_, ?_⟩
  · simpa [kept, caller, Slots.outcome?, Option.join_eq_some_iff] using outcome
  · simpa [kept, caller, Slots.start?, Option.join_eq_some_iff] using start

theorem SoundFor.delivered_figures (sound : SoundFor runner execution notes)
    (results : ResultSet α) (returned : execution.result? = some (.ok results)) :
    execution.pool.isQuiet = true ∧ results.outcomes.length = runner.taskCount ∧
      results.stats.taskCount = runner.taskCount ∧ results.stats.poolSize = runner.poolSize ∧
      results.stats.startedAt.length = runner.taskCount := by
  have caller := (result?_eq_some_iff _).mp returned
  have quiet := sound.staged.quiet_of_joined ((sound.staged.placedAt caller).joined rfl)
  have sizes := sound.recorded.sizes
  have figures := sound.recorded.figures results caller
  simp only [kept, caller, List.length_map] at sizes
  rw [sound.taskCount] at sizes figures
  rw [sound.poolSize] at figures
  exact ⟨quiet, sizes.1, figures.2, figures.1, sizes.2⟩

end Execution

end GatedRun
