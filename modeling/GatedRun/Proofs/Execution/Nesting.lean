import GatedRun.Proofs.Execution.Completion
import GatedRun.Proofs.ResultSet.Consumption

/-!
# Runs inside runs

The body of a task may do a run of its own and take the values out of its results. What is raised
then unwinds through the body, so the outer run captures it as a panic with the index of the outer
task; and a panic is raised again with the payload that it has. So a failure is wrapped once at
most, where it leaves the run that it comes from, and from there on its payload goes from level to
level as it is (`failure_crosses`).
-/

namespace GatedRun

variable {τ α : Type}

namespace Execution

/-- A run of a built runner has handed the results over, with all that it let others know. -/
def Delivers (results : ResultSet α) (notes : List (RunNote τ α)) : Prop :=
  ∃ (opening : Opening τ) (extensions : List (Extension τ)) (interrupt : Interrupt)
    (runner : Runner τ) (execution : Execution τ α),
    Runner.build opening extensions interrupt = .ok runner ∧
    Reaches runner.tasks runner.config execution notes ∧
    execution.result? = some (.ok results)

/-- The outcome that is handed over is the one that the body of the task ended with. -/
theorem Delivers.outcome {results : ResultSet α} {notes : List (RunNote τ α)}
    (delivers : Delivers results notes) (worker index : Nat) (result : BodyResult α)
    (ended : .bodyEnded worker index result ∈ notes) :
    results.outcomes[index]? = some (Outcome.capture index result) := by
  obtain ⟨opening, extensions, _, runner, execution, built, reached, returned⟩ := delivers
  have sound := reached.sound (Runner.build_sound opening extensions runner built)
  rw [← ended_mem_bodyEvents] at ended
  have below : index < runner.tasks.length := by
    by_contra above
    rw [← sound.tasks] at above
    rw [sound.no_events_above index (Nat.not_lt.mp above)] at ended
    cases ended
  obtain ⟨_, own, _, -, events, outcome, -⟩ :=
    sound.delivered results returned index _ (List.getElem?_eq_getElem below)
  -- The body ended once, so this is how it ended.
  rw [events] at ended
  obtain ⟨-, rfl⟩ : worker = _ ∧ result = own := by simpa using ended
  exact outcome

end Execution

/-! ### Towers -/

/-- Runs nested in one another, from the outermost inwards, by their results; each but the innermost
with the index of the task whose body did the next one. -/
inductive Tower : Type → Type 1 where
  | innermost {α : Type} (results : ResultSet α) : Tower α
  | around {α β : Type} (results : ResultSet β) (index : Nat) (inner : Tower α) : Tower β

namespace Tower

def results : {α : Type} → Tower α → ResultSet α
  | _, .innermost results => results
  | _, .around results _ _ => results

/-- How many runs are nested. -/
def depth : {α : Type} → Tower α → Nat
  | _, .innermost _ => 1
  | _, .around _ _ inner => inner.depth + 1

/-- The first failure of the innermost run. -/
def origin? : {α : Type} → Tower α → Option TaskFailure
  | _, .innermost results => results.firstFailure
  | _, .around _ _ inner => inner.origin?

/-- What each run but the innermost captured of the task whose body did the next run, with the
index of that task. -/
def captured : {α : Type} → Tower α → List (Nat × Option TaskFailure)
  | _, .innermost _ => []
  | _, .around results index inner =>
    (index, results.outcomes[index]?.bind Outcome.failure?) :: inner.captured

/-- Each run was carried out, and in each but the innermost the first task to fail is the one whose
body took the values of the next run out, all at once or one by one. -/
def Stands : {α : Type} → Tower α → Prop
  | α, .innermost results =>
    ∃ (τ : Type) (notes : List (RunNote τ α)), Execution.Delivers results notes
  | β, .around (α := α) results index inner => inner.Stands ∧
    ∃ (τ : Type) (notes : List (RunNote τ β)) (worker : Nat)
      (goOn : List α → BodyResult β) (taken : Except Payload (List α)),
      Execution.Delivers results notes ∧
      results.outcomes.findIdx? Outcome.isFailure = some index ∧
      (taken = inner.results.collect ∨ taken = inner.results.lazyValues.collect) ∧
      .bodyEnded worker index (.ofTaken goOn taken) ∈ notes

/-- What the next run raises is what the task whose body did it is captured with, as a panic of its
own index. -/
theorem outcome_around {β : Type} (results : ResultSet β) (index : Nat) (inner : Tower α)
    (stands : (around results index inner).Stands) (payload : Payload)
    (raised : inner.results.collect = .error payload) :
    results.outcomes[index]? = some (.failure (.panicked index payload)) := by
  obtain ⟨-, τ, notes, worker, goOn, taken, delivers, -, drawn, ended⟩ := stands
  have same : taken = .error payload := by
    rcases drawn with rfl | rfl
    · exact raised
    · rw [ResultSet.lazyValues_collect, raised]
  rw [same] at ended
  exact delivers.outcome worker index _ ended

/-- That task is the first to fail, so its failure is the one that is raised. -/
theorem firstFailure_around {β : Type} (results : ResultSet β) (index : Nat) (inner : Tower α)
    (stands : (around results index inner).Stands) (payload : Payload)
    (raised : inner.results.collect = .error payload) :
    results.firstFailure = some (.panicked index payload) := by
  have failed := outcome_around results index inner stands payload raised
  obtain ⟨-, τ, notes, worker, goOn, taken, -, first, -⟩ := stands
  exact results.firstFailure_of_findIdx? index _ first failed

/-- Whatever the depth, the outermost run raises what the innermost failure raises. -/
theorem raises (tower : Tower α) (stands : tower.Stands) (cause : TaskFailure)
    (first : tower.origin? = some cause) :
    tower.results.collect = .error cause.raise ∧
      tower.results.requireSuccess = .error cause.raise := by
  induction tower with
  | innermost results => exact results.raises_of_firstFailure cause first
  | around results index inner ih =>
    have raised := (ih stands.1 first).1
    -- To raise a panic is to raise its payload.
    exact results.raises_of_firstFailure (.panicked index cause.raise)
      (firstFailure_around results index inner stands cause.raise raised)

theorem captured_eq (tower : Tower α) (stands : tower.Stands) (cause : TaskFailure)
    (first : tower.origin? = some cause) :
    ∀ level ∈ tower.captured, level.2 = some (.panicked level.1 cause.raise) := by
  induction tower with
  | innermost results =>
    rintro level ⟨⟩
  | around results index inner ih =>
    have raised := (inner.raises stands.1 cause first).1
    rintro level member
    rcases List.mem_cons.mp member with rfl | within
    · simp [outcome_around results index inner stands cause.raise raised]
    · exact ih stands.1 first level within

@[simp] theorem length_captured (tower : Tower α) : tower.captured.length + 1 = tower.depth := by
  induction tower with
  | innermost results => rfl
  | around results index inner ih => simp [captured, depth, ih]

open Execution

def pairRunner : Runner Nat := { tasks := [3, 4], interrupt := ⟨0⟩ }

/-- The turns of a run with two tasks, both of whose bodies are called before one of them ends. -/
def pairTurns (first second : BodyResult Nat) : List (Turn Nat) :=
  (List.flatten [List.replicate 8 (.call .given), List.replicate 3 (.work 0),
    List.replicate 3 (.work 1), List.replicate 2 (.call .given),
    [.work 0, .work 1, .bodyEnds 0 first, .bodyEnds 1 second],
    List.replicate 2 (.work 0), List.replicate 2 (.work 1), List.replicate 2 (.call .given),
    List.replicate 5 (.work 0), List.replicate 5 (.work 1),
    List.replicate 3 (.call .given)]).map (Turn.mk false 2)

def pairResults (first second : BodyResult Nat) : ResultSet Nat :=
  ⟨[.capture 0 first, .capture 1 second], ⟨2, 2, [some 2, some 2], 1⟩⟩

theorem pairResults_delivers (first second : BodyResult Nat)
    (ran : ((replay advance (start pairRunner.tasks pairRunner.config 1).1
        (pairTurns first second)).map fun last =>
          (last.1.result?, bodyEvents 0 last.2, bodyEvents 1 last.2)) =
      some (some (.ok (pairResults first second)), [.called 0 3, .ended 0 first],
        [.called 1 4, .ended 1 second])) :
    ∃ notes : List (RunNote Nat Nat), Delivers (pairResults first second) notes ∧
      .bodyEnded 0 0 first ∈ notes ∧ .bodyEnded 1 1 second ∈ notes := by
  obtain ⟨⟨execution, notes⟩, reached, shown⟩ := Option.map_eq_some_iff.mp ran
  obtain ⟨returned, zero, one⟩ : execution.result? = some (.ok (pairResults first second)) ∧
      bodyEvents 0 notes = [.called 0 3, .ended 0 first] ∧
      bodyEvents 1 notes = [.called 1 4, .ended 1 second] := by simpa using shown
  refine ⟨_, ⟨.tasks [3, 4], [], ⟨0⟩, pairRunner, execution, rfl, ⟨1, _, notes, reached, rfl⟩,
    returned⟩, ?_, ?_⟩
  · apply List.mem_append_right
    rw [← ended_mem_bodyEvents, zero]
    exact List.mem_cons_of_mem _ List.mem_cons_self
  · apply List.mem_append_right
    rw [← ended_mem_bodyEvents, one]
    exact List.mem_cons_of_mem _ List.mem_cons_self

/-- The error of the second task of the innermost run crosses two runs, first as the failure of a
first task and then as that of a second one. -/
def pairTower : Tower Nat :=
  .around (pairResults (.returned 8) (.panicked (.raised ⟨1, .text "no"⟩))) 1
    (.around (pairResults (.panicked (.raised ⟨1, .text "no"⟩)) (.returned 7)) 0
      (.innermost (pairResults (.returned 5) (.failed (.text "no")))))

end Tower

end GatedRun
