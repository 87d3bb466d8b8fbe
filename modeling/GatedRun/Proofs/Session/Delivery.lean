import GatedRun.Proofs.Execution.Barrier
import GatedRun.Proofs.Session.Calls

/-!
# What a call hands over

`ok_exactly_once`: a call that returns results has called the body of every task once, has no worker
left, and its results are what just those bodies did, in the order of submission.
-/

namespace GatedRun

variable {τ α : Type}

namespace Session

/-- However a session interleaves them, each call that returns results ran each task exactly once,
and its results are in the order of submission. -/
theorem ok_exactly_once (opening : Opening τ) (extensions : List (Extension τ))
    {interrupt : Interrupt} (runner : Runner τ)
    (built : Runner.build opening extensions interrupt = .ok runner)
    (before after : Session τ α) (holds : before.runner = some runner) (now : Instant)
    (moves : List (SessionMove τ α)) (notes : List (SessionNote τ α))
    (ran : replay step before (.begin now :: moves) = some (after, notes))
    (execution : Execution τ α) (held : after.calls[before.calls.length]? = some execution)
    (results : ResultSet α) (returned : execution.result? = some (.ok results)) :
    (∀ (index : Nat) (task : τ), runner.tasks[index]? = some task → ∃ worker result,
      bodyEvents index (callNotes before.calls.length notes) =
        [.called worker task, .ended worker result] ∧
      (∀ value, result = .returned value → results.outcomes[index]? = some (.success value)) ∧
      (∀ error, result = .failed error →
        results.outcomes[index]? = some (.failure (.returned { index, source := error }))) ∧
      (∀ payload, result = .panicked payload →
        results.outcomes[index]? = some (.failure (.panicked index payload)))) ∧
    (∀ index, runner.taskCount ≤ index →
      bodyEvents index (callNotes before.calls.length notes) = []) ∧
    execution.pool.isQuiet = true ∧
    results.outcomes.length = runner.taskCount ∧
    results.stats.taskCount = runner.taskCount ∧
    results.stats.poolSize =
      min runner.taskCount (runner.config.threadCount.getD runner.taskCount) ∧
    results.stats.startedAt.length = runner.taskCount ∧
    ∀ start ∈ results.stats.startedAt, start.isSome = true := by
  obtain ⟨execution', held', sound⟩ := begun_soundFor runner
    (Runner.build_sound opening extensions runner built) holds now moves ran
  obtain rfl : execution' = execution := Option.some.inj (held'.symm.trans held)
  obtain ⟨quiet, length, tally, size, starts⟩ := sound.delivered_figures results returned
  refine ⟨?_, ?_, quiet, length, tally, ?_, starts, ?_⟩
  · intro index task has
    obtain ⟨worker, result, since, -, events, outcome, -⟩ :=
      sound.delivered results returned index task has
    refine ⟨worker, result, events, ?_, ?_, ?_⟩
    · rintro value rfl
      exact outcome
    · rintro error rfl
      exact outcome
    · rintro payload rfl
      exact outcome
  · intro index above
    apply sound.no_events_above index
    rwa [Execution.taskCount, sound.tasks]
  · rw [size]
    exact runner.config.poolSize_eq_min runner.taskCount
  · intro start member
    obtain ⟨index, below, rfl⟩ := List.mem_iff_getElem.mp member
    -- There are as many starts as tasks, and each task that was run has one.
    have has := List.getElem?_eq_getElem (l := runner.tasks) (starts ▸ below)
    obtain ⟨worker, result, since, -, -, -, start⟩ :=
      sound.delivered results returned index _ has
    rw [List.getElem?_eq_getElem below] at start
    rw [Option.some.inj start]
    rfl

/-- The trio run to the end: the first task ends last, and the worker of the second takes the third
one too. -/
def trioMoves : List (RunMove Nat) :=
  List.flatten [Execution.trioOpening, [.work 1, .work 0, .bodyEnds 0 (.panicked .unit)],
    List.replicate 8 (.work 0), [.bodyEnds 0 (.failed (.text "no"))], List.replicate 2 (.work 0),
    [.bodyEnds 1 (.returned 5)], List.replicate 2 (.work 1), List.replicate 2 (.call .given),
    List.replicate 5 (.work 0), List.replicate 5 (.work 1), List.replicate 3 (.call .given)]

theorem ok_exactly_once_trio : ∃ after notes execution results,
    replay step (ofRunner Execution.trioRunner) (.begin 1 :: trioMoves.map (.run 0 2)) =
      some (after, notes) ∧
    after.calls[0]? = some execution ∧ execution.result? = some (.ok results) ∧
    results.outcomes = [.success 5, .failure (.panicked 1 .unit),
      .failure (.returned ⟨2, .text "no"⟩)] ∧
    results.stats.poolSize = 2 ∧ execution.pool.isQuiet = true := by
  have shown : (replay step (ofRunner Execution.trioRunner)
      (.begin 1 :: trioMoves.map (.run 0 2))).bind
        (fun last => last.1.calls[0]?.bind Execution.result?) =
      some (.ok ⟨[.success 5, .failure (.panicked 1 .unit),
        .failure (.returned ⟨2, .text "no"⟩)], ⟨2, 3, [some 2, some 2, some 2], 1⟩⟩) := rfl
  obtain ⟨⟨after, notes⟩, ran, got⟩ := Option.bind_eq_some_iff.mp shown
  obtain ⟨execution, held, returned⟩ := Option.bind_eq_some_iff.mp got
  obtain ⟨-, -, quiet, -, -, size, -⟩ := ok_exactly_once (.tasks [3, 4, 5]) [.threadCount 2]
    Execution.trioRunner rfl (ofRunner Execution.trioRunner) after rfl 1
    (trioMoves.map (.run 0 2)) notes ran execution held _ returned
  exact ⟨after, notes, execution, _, ran, held, returned, rfl, size, quiet⟩

end Session

end GatedRun
