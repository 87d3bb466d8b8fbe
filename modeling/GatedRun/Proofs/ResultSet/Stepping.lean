import GatedRun.Proofs.ResultSet.Consumption

/-!
# Step by step through the values

The state of `LazyValues` is the list of outcomes that are left, and a step takes off the first of
them, whether it hands out the value or raises. So the steps that were made before, and the failures
among them, leave no trace but their number: `after_eq_drop` is the invariant, and what a step hands
out, what it raises and what remains are read off it.
-/

namespace GatedRun

variable {α : Type}

namespace LazyValues

/-- What is left after some steps, whatever they raised. -/
def after : Nat → LazyValues α → LazyValues α
  | 0, values => values
  | n + 1, values => after n values.next.2

theorem next_eq (values : LazyValues α) : values.next =
    (values.remaining.head?.map Outcome.valueOrRaise, ⟨values.remaining.tail⟩) := by
  obtain ⟨outcomes⟩ := values
  cases outcomes <;> rfl

/-- Each step takes off one outcome. -/
theorem after_eq_drop (n : Nat) (values : LazyValues α) :
    values.after n = ⟨values.remaining.drop n⟩ := by
  induction n generalizing values with
  | zero => rfl
  | succ n ih => rw [after, ih, next_eq, List.drop_tail]

theorem getElem?_steps (n i : Nat) (values : LazyValues α) : (steps n values)[i]? =
    if i < n then some ((values.after i).sizeHint, (values.after i).next.1) else none := by
  induction n generalizing i values with
  | zero => rfl
  | succ n ih =>
    cases i with
    | zero => rfl
    | succ i => simp only [steps, List.getElem?_cons_succ, ih, after, Nat.add_lt_add_iff_right]

end LazyValues

namespace ResultSet

open Outcome (success failure)

/-- The next step hands out what has this position, or raises it, and passes over it. There is
nothing behind the last one. -/
theorem next_after (results : ResultSet α) (i : Nat) : (results.lazyValues.after i).next =
    (results.outcomes[i]?.map Outcome.valueOrRaise, ⟨results.outcomes.drop (i + 1)⟩) := by
  rw [LazyValues.next_eq, LazyValues.after_eq_drop, List.head?_drop, List.tail_drop]
  rfl

/-- What later outcomes are makes no difference to the steps before them. -/
theorem steps_of_take_eq (results other : ResultSet α) (i : Nat)
    (same : other.outcomes.take i = results.outcomes.take i) :
    (LazyValues.steps i other.lazyValues).map Prod.snd =
      (LazyValues.steps i results.lazyValues).map Prod.snd := by
  have length := congrArg List.length same
  rw [List.length_take, List.length_take] at length
  have missing : i - other.outcomes.length = i - results.outcomes.length := by omega
  rw [lazyValues, lazyValues, LazyValues.map_steps, LazyValues.map_steps, same, missing]

/-- Whatever the steps before it handed out or raised, the step in a position hands out the value of
that outcome, or raises its failure, or finds that there is none; it takes off this outcome alone,
and the size that is announced before it is exact. What comes later is neither raised nor taken off
by then, and it makes no difference. -/
theorem lazy_steps_by_position (results : ResultSet α) (i : Nat) :
    (results.lazyValues.after i).remaining = results.outcomes.drop i ∧
    (results.lazyValues.after i).sizeHint = (results.size - i, results.size - i) ∧
    (∀ value, results.outcomes[i]? = some (success value) →
      (results.lazyValues.after i).next.1 = some (.ok value)) ∧
    (∀ cause, results.outcomes[i]? = some (failure cause) →
      (results.lazyValues.after i).next.1 = some (.error cause.raise)) ∧
    (results.size ≤ i → (results.lazyValues.after i).next.1 = none) ∧
    (results.lazyValues.after i).next.2.remaining = results.outcomes.drop (i + 1) ∧
    (∀ n, (LazyValues.steps n results.lazyValues)[i]? = if i < n then
      some ((results.lazyValues.after i).sizeHint, (results.lazyValues.after i).next.1) else none) ∧
    ∀ other : ResultSet α, other.outcomes.take i = results.outcomes.take i →
      (LazyValues.steps i other.lazyValues).map Prod.snd =
        (LazyValues.steps i results.lazyValues).map Prod.snd := by
  rw [next_after]
  refine ⟨?_, ?_, ?_, ?_, ?_, rfl, ?_, fun other => steps_of_take_eq results other i⟩
  · rw [LazyValues.after_eq_drop]
    rfl
  · rw [LazyValues.after_eq_drop, LazyValues.sizeHint, List.length_drop]
    rfl
  · intro value held
    rw [held]
    rfl
  · intro cause held
    rw [held]
    rfl
  · intro past
    rw [List.getElem?_eq_none past]
    rfl
  · intro n
    rw [LazyValues.getElem?_steps, next_after]

/-- Two failures of three outcomes. -/
def twoFailed : ResultSet Nat :=
  { outcomes := [failure (.returned ⟨0, .text "no"⟩), success 3, failure (.panicked 2 (.int 7))]
    stats :=
      { poolSize := 3, taskCount := 3, startedAt := [some 4, some 4, some 5], elapsed := 0 } }

/-- After the first failure was raised and caught, the value behind it is handed out; the other
failure is raised in its own position, and then it is over. -/
theorem lazy_steps_by_position_failed :
    (twoFailed.lazyValues.after 0).next.1 = some (.error (.raised ⟨0, .text "no"⟩)) ∧
    (twoFailed.lazyValues.after 1).next.1 = some (.ok 3) ∧
    (twoFailed.lazyValues.after 1).sizeHint = (2, 2) ∧
    (twoFailed.lazyValues.after 1).next.2.remaining = [failure (.panicked 2 (.int 7))] ∧
    (twoFailed.lazyValues.after 2).next.1 = some (.error (.int 7)) ∧
    (twoFailed.lazyValues.after 3).next.1 = none := by
  obtain ⟨-, -, -, raised, -⟩ := twoFailed.lazy_steps_by_position 0
  obtain ⟨-, hint, handed, -, -, rest, -⟩ := twoFailed.lazy_steps_by_position 1
  obtain ⟨-, -, -, again, -⟩ := twoFailed.lazy_steps_by_position 2
  obtain ⟨-, -, -, -, finished, -⟩ := twoFailed.lazy_steps_by_position 3
  exact ⟨raised _ rfl, handed 3 rfl, hint, rest, again _ rfl, finished (Nat.le_refl 3)⟩

end ResultSet

end GatedRun
