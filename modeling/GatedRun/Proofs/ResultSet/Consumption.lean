import GatedRun.ResultSet.Lazy
import Mathlib.Data.List.Basic
import Mathlib.Data.List.Induction

/-!
# The ways to take results out agree

A list of outcomes is all values, or it is some values, then a failure, and then whatever comes
after it (`Outcome.values_or_failure`). The ways to take results out walk the list each in its own
manner, and what each of them makes of either form is a lemma of its own. Put together
(`consumption_agrees`): they find the same values, and the same first failure, at the same position;
those that raise, raise the same payload. Those that hand out the outcomes themselves, together or
one by one, have all of them.
-/

namespace GatedRun

variable {α : Type}

namespace Outcome

@[simp] theorem isFailure_success (value : α) : (success value).isFailure = false := rfl

@[simp] theorem isFailure_failure (cause : TaskFailure) :
    (failure cause : Outcome α).isFailure = true := rfl

@[simp] theorem isSuccess_success (value : α) : (success value).isSuccess = true := rfl

@[simp] theorem isSuccess_failure (cause : TaskFailure) :
    (failure cause : Outcome α).isSuccess = false := rfl

@[simp] theorem failure?_success (value : α) : (success value).failure? = none := rfl

@[simp] theorem failure?_failure (cause : TaskFailure) :
    (failure cause : Outcome α).failure? = some cause := rfl

@[simp] theorem valueOrRaise_success (value : α) : (success value).valueOrRaise = .ok value := rfl

@[simp] theorem valueOrRaise_failure (cause : TaskFailure) :
    (failure cause : Outcome α).valueOrRaise = .error cause.raise := rfl

/-- A list of outcomes is all values, or it has a first failure with nothing but values before. -/
theorem values_or_failure (outcomes : List (Outcome α)) :
    (∃ values : List α, outcomes = values.map success) ∨
      ∃ (values : List α) (cause : TaskFailure) (rest : List (Outcome α)),
        outcomes = values.map success ++ failure cause :: rest := by
  induction outcomes with
  | nil => exact .inl ⟨[], rfl⟩
  | cons outcome rest ih =>
    cases outcome with
    | failure cause => exact .inr ⟨[], cause, rest, rfl⟩
    | success value =>
      rcases ih with ⟨values, rfl⟩ | ⟨values, cause, later, rfl⟩
      · exact .inl ⟨value :: values, rfl⟩
      · exact .inr ⟨value :: values, cause, later, rfl⟩

@[simp] theorem findIdx?_values (values : List α) :
    (values.map success).findIdx? isFailure = none := by
  simp [List.findIdx?_eq_none_iff]

@[simp] theorem findIdx?_failure (values : List α) (cause : TaskFailure)
    (rest : List (Outcome α)) :
    (values.map success ++ failure cause :: rest).findIdx? isFailure = some values.length := by
  induction values with
  | nil => simp [List.findIdx?_cons]
  | cons value values ih => simp [List.findIdx?_cons, ih]

/-- The outcome whose two parts these are, if just one of them is present. -/
def ofParts? : Option α × Option TaskFailure → Option (Outcome α)
  | (some value, none) => some (.success value)
  | (none, some cause) => some (.failure cause)
  | _ => none

@[simp] theorem ofParts?_parts (outcome : Outcome α) : ofParts? outcome.parts = some outcome := by
  cases outcome <;> rfl

/-- Just one part of an outcome is present. -/
theorem parts_isSome (outcome : Outcome α) :
    (outcome.parts.1.isSome != outcome.parts.2.isSome) = true := by
  cases outcome <;> rfl

theorem parts_injective : Function.Injective (parts (α := α)) := by
  intro one other same
  have back := congrArg ofParts? same
  simpa using back

end Outcome

open Outcome (success failure)

/-! ### All at once -/

namespace ResultSet

@[simp] theorem valuesOf_values (values : List α) :
    valuesOf (values.map success) = .ok values := by
  induction values with
  | nil => rfl
  | cons value values ih => simp [valuesOf, ih, Except.map]

@[simp] theorem valuesOf_failure (values : List α) (cause : TaskFailure)
    (rest : List (Outcome α)) :
    valuesOf (values.map success ++ failure cause :: rest) = .error cause := by
  induction values with
  | nil => rfl
  | cons value values ih => simp [valuesOf, ih, Except.map]

@[simp] theorem findSome?_values (values : List α) :
    (values.map success).findSome? Outcome.failure? = none := by
  simp [List.findSome?_eq_none_iff]

@[simp] theorem findSome?_failure (values : List α) (cause : TaskFailure)
    (rest : List (Outcome α)) :
    (values.map success ++ failure cause :: rest).findSome? Outcome.failure? = some cause := by
  simp [List.findSome?_append, List.findSome?_cons]

/-- The failures, put back as outcomes, are the failed outcomes in their order. -/
theorem map_failures (results : ResultSet α) :
    results.failures.map failure = results.outcomes.filter Outcome.isFailure := by
  rw [failures]
  induction results.outcomes with
  | nil => rfl
  | cons outcome rest ih =>
    rw [List.filterMap_cons, List.filter_cons]
    cases outcome <;> simp [ih]

theorem firstFailure_eq_findSome? (results : ResultSet α) :
    results.firstFailure = results.outcomes.findSome? Outcome.failure? := by
  rw [firstFailure, failures, List.head?_filterMap]

/-! ### Counting -/

theorem successCount_add_failures (results : ResultSet α) :
    results.successCount + results.failures.length = results.size := by
  rw [successCount, failures, size]
  induction results.outcomes with
  | nil => rfl
  | cons outcome rest ih =>
    rw [List.filterMap_cons, List.countP_cons, List.length_cons]
    cases outcome with
    | success value =>
      simp only [Outcome.isSuccess_success, Outcome.failure?_success, if_true]
      omega
    | failure cause =>
      simp only [Outcome.isSuccess_failure, Outcome.failure?_failure, List.length_cons,
        Bool.false_eq_true, if_false]
      omega

theorem failureCount_eq_length (results : ResultSet α) :
    results.failureCount = results.failures.length := by
  have all := results.successCount_add_failures
  rw [failureCount]
  omega

theorem hasFailures_iff (results : ResultSet α) :
    results.hasFailures = true ↔ 0 < results.failures.length := by
  rw [hasFailures, ← List.length_map (f := failure), map_failures, List.length_pos_iff,
    ne_eq, List.filter_eq_nil_iff]
  simp [List.any_eq_true]

end ResultSet

/-! ### One at a time -/

namespace LazyValues

theorem collect_cons (outcome : Outcome α) (rest : List (Outcome α)) :
    collect ⟨outcome :: rest⟩ = match outcome.valueOrRaise with
      | .error payload => .error payload
      | .ok value => (collect ⟨rest⟩).map (value :: ·) := by
  rw [collect]
  cases outcome <;> rfl

/-- Draining one at a time finds what is found all at once, and raises what is raised then. -/
theorem collect_eq (outcomes : List (Outcome α)) :
    collect ⟨outcomes⟩ = (ResultSet.valuesOf outcomes).mapError TaskFailure.raise := by
  induction outcomes with
  | nil =>
    rw [collect]
    rfl
  | cons outcome rest ih =>
    rw [collect_cons]
    cases outcome with
    | failure cause => rfl
    | success value =>
      simp only [Outcome.valueOrRaise, ih, ResultSet.valuesOf]
      cases ResultSet.valuesOf rest <;> rfl

/-- Each step hands out the outcome at its position, and there is nothing after the last one. -/
theorem map_steps (n : Nat) (outcomes : List (Outcome α)) :
    (steps n ⟨outcomes⟩).map Prod.snd =
      (outcomes.take n).map (fun outcome => some outcome.valueOrRaise) ++
        List.replicate (n - outcomes.length) none := by
  induction n generalizing outcomes with
  | zero => simp [steps]
  | succ n ih =>
    cases outcomes with
    | nil => simpa [steps, next, List.replicate_succ] using ih []
    | cons outcome rest => simp [steps, next, ih rest]

end LazyValues

/-! ### One after the other -/

namespace ResultSet

variable {γ σ : Type}

/-- The function, with a record of the pairs that it was called with. -/
def recording (combine : Option α → Option TaskFailure → StateM σ γ) (value : Option α)
    (cause : Option TaskFailure) : StateM (σ × List (Option α × Option TaskFailure)) γ :=
  fun known =>
    let answer := combine value cause known.1
    (answer.1, (answer.2, known.2 ++ [(value, cause)]))

/-- The function is called with the parts of each outcome, one outcome after the other. -/
theorem mapM_recording (combine : Option α → Option TaskFailure → StateM σ γ)
    (outcomes : List (Outcome α)) (state : σ)
    (known : List (Option α × Option TaskFailure)) :
    (outcomes.mapM fun outcome => recording combine outcome.parts.1 outcome.parts.2)
        (state, known) =
      let last := (outcomes.mapM fun outcome => combine outcome.parts.1 outcome.parts.2) state
      (last.1, (last.2, known ++ outcomes.map Outcome.parts)) := by
  induction outcomes generalizing state known with
  | nil =>
    rw [List.map_nil, List.append_nil]
    rfl
  | cons outcome rest ih =>
    rw [List.mapM_cons, List.mapM_cons, List.map_cons]
    let called := combine outcome.parts.1 outcome.parts.2 state
    let later := (rest.mapM fun outcome => recording combine outcome.parts.1 outcome.parts.2)
      (called.2, known ++ [outcome.parts])
    -- The first outcome is passed on, and then the others, with the state that this leaves.
    calc
      _ = (called.1 :: later.1, later.2) := rfl
      _ = _ := by
        simp only [later, ih, List.append_assoc, List.singleton_append]
        rfl

theorem handle_eq_map (combine : Option α → Option TaskFailure → γ) (results : ResultSet α) :
    results.handle combine =
      results.outcomes.map fun outcome => combine outcome.parts.1 outcome.parts.2 := by
  rw [handle, handleM, List.mapM_pure]
  rfl

/-! ### All ways together -/

/-- What all ways to take results out make of a list of values. -/
theorem consumption_of_values (results : ResultSet α) (values : List α)
    (all : results.outcomes = values.map success) :
    results.tryCollect = .ok values ∧ results.collect = .ok values ∧
      results.requireSuccess = .ok () ∧ results.firstFailure = none ∧
      results.lazyValues.collect = .ok values ∧
      ∀ n, (LazyValues.steps (values.length + n) results.lazyValues).map Prod.snd =
        values.map (fun value => some (.ok value)) ++ List.replicate n none := by
  have tried : results.tryCollect = .ok values := by rw [tryCollect, all, valuesOf_values]
  refine ⟨tried, ?_, ?_, ?_, ?_, ?_⟩
  · rw [collect, tried]
    rfl
  · rw [requireSuccess, all, findSome?_values]
  · rw [firstFailure_eq_findSome?, all, findSome?_values]
  · rw [lazyValues, LazyValues.collect_eq, all, valuesOf_values]
    rfl
  · intro n
    rw [lazyValues, LazyValues.map_steps, all, List.length_map, Nat.add_sub_cancel_left,
      List.take_of_length_le (by simp), List.map_map]
    rfl

/-- What all ways to take results out make of a list of values that a failure ends. -/
theorem consumption_of_failure (results : ResultSet α) (values : List α) (cause : TaskFailure)
    (rest : List (Outcome α))
    (broken : results.outcomes = values.map success ++ failure cause :: rest) :
    results.tryCollect = .error cause ∧ results.collect = .error cause.raise ∧
      results.requireSuccess = .error cause.raise ∧ results.firstFailure = some cause ∧
      results.lazyValues.collect = .error cause.raise ∧
      (LazyValues.steps (values.length + 1) results.lazyValues).map Prod.snd =
        values.map (fun value => some (.ok value)) ++ [some (.error cause.raise)] := by
  have tried : results.tryCollect = .error cause := by rw [tryCollect, broken, valuesOf_failure]
  refine ⟨tried, ?_, ?_, ?_, ?_, ?_⟩
  · rw [collect, tried]
    rfl
  · rw [requireSuccess, broken, findSome?_failure]
  · rw [firstFailure_eq_findSome?, broken, findSome?_failure]
  · rw [lazyValues, LazyValues.collect_eq, broken, valuesOf_failure]
    rfl
  · have reached : (values.map success ++ failure cause :: rest).take (values.length + 1) =
        values.map success ++ [failure cause] := by
      rw [List.take_append, List.length_map, Nat.add_sub_cancel_left,
        List.take_of_length_le (by simp)]
      rfl
    have within : values.length + 1 -
        (values.map success ++ failure cause :: rest).length = 0 := by
      simp only [List.length_append, List.length_map, List.length_cons]
      omega
    rw [lazyValues, LazyValues.map_steps, broken, reached, within]
    simp

/-- One by one or all at once, the values are the same, and so is what is raised. -/
theorem lazyValues_collect (results : ResultSet α) :
    results.lazyValues.collect = results.collect := by
  rw [lazyValues, LazyValues.collect_eq, collect, tryCollect]

/-- What is raised is what the first failure raises. -/
theorem raises_of_firstFailure (results : ResultSet α) (cause : TaskFailure)
    (first : results.firstFailure = some cause) :
    results.collect = .error cause.raise ∧ results.requireSuccess = .error cause.raise := by
  rcases Outcome.values_or_failure results.outcomes with
    ⟨values, all⟩ | ⟨values, other, rest, broken⟩
  · obtain ⟨-, -, -, none, -⟩ := results.consumption_of_values values all
    rw [none] at first
    cases first
  · obtain ⟨-, collected, required, some, -⟩ :=
      results.consumption_of_failure values other rest broken
    obtain rfl : other = cause := Option.some.inj (some.symm.trans first)
    exact ⟨collected, required⟩

theorem firstFailure_of_findIdx? (results : ResultSet α) (index : Nat) (cause : TaskFailure)
    (first : results.outcomes.findIdx? Outcome.isFailure = some index)
    (failed : results.outcomes[index]? = some (failure cause)) :
    results.firstFailure = some cause := by
  rw [firstFailure_eq_findSome?]
  rcases Outcome.values_or_failure results.outcomes with
    ⟨values, all⟩ | ⟨values, other, rest, broken⟩
  · rw [all, Outcome.findIdx?_values] at first
    cases first
  · rw [broken, Outcome.findIdx?_failure] at first
    obtain rfl : values.length = index := Option.some.inj first
    simp only [broken, List.getElem?_append_right, List.length_map, Nat.le_refl, Nat.sub_self,
      List.getElem?_cons_zero, Option.some.injEq, Outcome.failure.injEq] at failed
    rw [broken, findSome?_failure, failed]

end ResultSet

/-! ### One by one -/

namespace Items

theorem all_eq {β : Type} (items : Items β) : items.all = items.remaining := by
  obtain ⟨remaining⟩ := items
  induction remaining with
  | nil => rw [all, next]
  | cons item rest ih =>
    rw [all]
    exact congrArg (item :: ·) ih

theorem reversed_of_taken {β : Type} {items rest : Items β} {item : β}
    (taken : items.nextBack = (some item, rest)) : items.reversed = item :: rest.reversed := by
  rw [reversed]
  split
  next none => cases taken.symm.trans none
  next taken' =>
    cases taken.symm.trans taken'
    rfl

theorem reversed_eq {β : Type} (items : Items β) : items.reversed = items.remaining.reverse := by
  obtain ⟨remaining⟩ := items
  induction remaining using List.reverseRecOn with
  | nil => simp [reversed, nextBack]
  | append_singleton rest item ih =>
    have taken : (⟨rest ++ [item]⟩ : Items β).nextBack = (some item, ⟨rest⟩) := by simp [nextBack]
    rw [reversed_of_taken taken, ih, List.reverse_append]
    rfl

end Items

namespace ResultSet

end ResultSet

end GatedRun
