import GatedRun.Outcome

/-!
# Raised and caught failures

A failure that is raised unwinds with a payload, and whoever catches the payload finds the failure
in it again: a panicked failure as the payload that it was made of, a returned one wrapped up whole.
A task that unwinds with the payload leaves a failure of its own behind, which raises the same
payload once more, so a failure crosses any number of tasks (`raise_foldl_relayed`).

What is behind an error is said twice. `TaskError.source?` goes back by one error, to the direct
cause, and `TaskError.causes` lists the texts of all that is behind it. Errors, payloads and
failures nest in one another; by induction on the error, the list is what one step after the other
finds (`hasCauses_iff`).
-/

namespace GatedRun

/-! ### One error after the other -/

/-- The direct cause of an error. A raised failure is caused by the failure, and a failure by what
the task returned; a payload is the cause of nothing. -/
def TaskError.source? : TaskError → Option TaskError
  | .wrapping _ cause => some cause
  | .run (.spawn fault) => some (.stream fault.message)
  | .failure (.returned record) => some record.source
  | .raised record => some (.failure (.returned record))
  | _ => none

/-- The texts of the errors that are met on the way from an error to its direct cause, on to the
cause of this one, and so forth to the end. -/
inductive HasCauses : TaskError → List String → Prop where
  | last {error : TaskError} (none : error.source? = none) : HasCauses error []
  | link {error cause : TaskError} {texts : List String} (source : error.source? = some cause)
      (behind : HasCauses cause texts) : HasCauses error (cause.message :: texts)

theorem HasCauses.unique {error : TaskError} {texts others : List String}
    (has : HasCauses error texts) (also : HasCauses error others) : texts = others := by
  induction has generalizing others with
  | last none =>
    cases also with
    | last _ => rfl
    | link source _ =>
      rw [none] at source
      cases source
  | link source _ ih =>
    cases also with
    | last none =>
      rw [none] at source
      cases source
    | link source' behind' =>
      obtain rfl := Option.some.inj (source.symm.trans source')
      rw [ih behind']

/-- The list of causes is the way through them, whatever they are wrapped in. -/
theorem TaskError.hasCauses (error : TaskError) : HasCauses error error.causes := by
  cases error with
  | text | labelled | stream => exact .last rfl
  | wrapping message cause => exact .link rfl cause.hasCauses
  | run error =>
    cases error with
    | spawn fault =>
      have reported : HasCauses (.stream fault.message) [] := .last rfl
      exact .link rfl reported
    | invalidArgument | noTasks | interrupted | poolClosed => exact .last rfl
  | failure failure =>
    cases failure with
    | returned failure =>
      obtain ⟨index, source⟩ := failure
      exact .link rfl source.hasCauses
    | panicked index payload => exact .last rfl
  -- Two steps lead from a raised failure to what the task returned.
  | raised failure =>
    obtain ⟨index, source⟩ := failure
    have returned : HasCauses (.failure (.returned ⟨index, source⟩))
        (source.message :: source.causes) := .link rfl source.hasCauses
    exact .link rfl returned

/-- A raised failure has its causes also where it is taken for an error. -/
theorem causes_raised (raised : ReturnedError) :
    (TaskError.raised raised).causes = raised.causes := by
  obtain ⟨index, source⟩ := raised
  rfl

theorem hasCauses_iff (error : TaskError) (texts : List String) :
    HasCauses error texts ↔ texts = error.causes := by
  constructor
  · intro has
    exact has.unique error.hasCauses
  · rintro rfl
    exact error.hasCauses

/-! ### Raised and caught again -/

namespace TaskFailure

/-- What a failure says is its message, after the task's index and the kind of the failure. -/
theorem describe_eq (failure : TaskFailure) : failure.describe =
    "task #" ++ toString failure.index ++ (if failure.isChecked then " failed: " else " panicked: ")
      ++ failure.message := by
  cases failure with
  | returned record =>
    obtain ⟨index, source⟩ := record
    rfl
  | panicked index payload => rfl

/-- The failure of a task whose body raises the failure. -/
def relayed (failure : TaskFailure) (index : Nat) : TaskFailure := .panicked index failure.raise

/-- A task whose body raises a failure keeps it for its own, and passes the same payload on. -/
theorem capture_raise (α : Type) (failure : TaskFailure) (index : Nat) :
    (Outcome.capture index (.panicked failure.raise) : Outcome α) =
      .failure (failure.relayed index) ∧
    (Outcome.capture index (.panicked failure.raise) : Outcome α).valueOrRaise =
      .error failure.raise := ⟨rfl, rfl⟩

/-- However many tasks a failure crosses, the payload stays the same. -/
theorem raise_foldl_relayed (failure : TaskFailure) (indices : List Nat) :
    (indices.foldl relayed failure).raise = failure.raise := by
  induction indices generalizing failure with
  | nil => rfl
  | cons index rest ih =>
    rw [List.foldl_cons, ih]
    rfl

end TaskFailure

/-- Only a raised failure makes a difference between the two texts of a payload. -/
theorem Payload.describe_of_not_raised (payload : Payload) (plain : payload.raised? = none) :
    payload.describe = payload.message := by
  cases payload with
  | raised failure => cases plain
  | str text | string text => rfl
  | int | unit | other => rfl

/-- Whoever catches what a failure raises gets a panicked failure's own payload, or else a raised
failure that holds this one, says the same and has it in front of its causes. What a failure says is
made of its index, its kind and its message. The causes that are listed are those that are found one
after the other, however errors, payloads and failures are nested. A task that raises the failure
keeps the same payload and raises it again, and so does every further task. All other payloads than
raised failures are described by their message. -/
theorem raise_round_trip (failure : TaskFailure) :
    (∀ index payload, failure = .panicked index payload →
      failure.raise = payload ∧ failure.causes = []) ∧
    (∀ index source, failure = .returned ⟨index, source⟩ → ∃ raised : ReturnedError,
      failure.raise = .raised raised ∧ raised.failure = failure ∧ raised.source = source ∧
      raised.describe = failure.describe ∧ failure.raise.describe = failure.describe ∧
      raised.causes = failure.describe :: source.message :: source.causes ∧
      failure.causes = source.message :: source.causes ∧
      ∀ texts, HasCauses (.raised raised) texts ↔ texts = raised.causes) ∧
    (∀ texts, HasCauses (.failure failure) texts ↔ texts = failure.causes) ∧
    (∀ (α : Type) (index : Nat),
      (Outcome.capture index (.panicked failure.raise) : Outcome α) =
        .failure (failure.relayed index) ∧
      (Outcome.capture index (.panicked failure.raise) : Outcome α).valueOrRaise =
        .error failure.raise) ∧
    (∀ indices : List Nat, (indices.foldl TaskFailure.relayed failure).raise = failure.raise) ∧
    (∀ payload : Payload, payload.raised? = none → payload.describe = payload.message) ∧
    failure.describe = "task #" ++ toString failure.index ++
      (if failure.isChecked then " failed: " else " panicked: ") ++ failure.message := by
  refine ⟨?_, ?_, hasCauses_iff (.failure failure), fun α => failure.capture_raise α,
    failure.raise_foldl_relayed, Payload.describe_of_not_raised, failure.describe_eq⟩
  · rintro index payload rfl
    exact ⟨rfl, rfl⟩
  · rintro index source rfl
    refine ⟨⟨index, source⟩, rfl, rfl, rfl, rfl, rfl, rfl, rfl, ?_⟩
    intro texts
    rw [hasCauses_iff, causes_raised]

/-- The error of a task of another run, wrapped once, caught, and returned by the fourth task. -/
def wrappedTwice : TaskFailure :=
  .returned ⟨3, .wrapping "gave up" (.raised ⟨1, .run (.spawn (.reported "too many"))⟩)⟩

/-- It is raised by the task of one run, and by the seventh task of another one. -/
theorem raise_round_trip_nested :
    wrappedTwice.describe = "task #3 failed: gave up" ∧
    wrappedTwice.causes = ["gave up",
      "task #1 failed: failed to spawn worker thread: too many",
      "task #1 failed: failed to spawn worker thread: too many",
      "failed to spawn worker thread: too many", "too many"] ∧
    (∃ raised : ReturnedError, wrappedTwice.raise = .raised raised ∧
      raised.failure = wrappedTwice ∧
      raised.causes = wrappedTwice.describe :: wrappedTwice.causes ∧
      HasCauses (.raised raised) raised.causes) ∧
    (TaskFailure.panicked 6 wrappedTwice.raise).raise = wrappedTwice.raise ∧
    (TaskFailure.panicked 6 wrappedTwice.raise).describe = "task #6 panicked: Box<dyn Any>" ∧
    (TaskFailure.panicked 6 wrappedTwice.raise).causes = [] := by
  obtain ⟨-, returned, -⟩ := raise_round_trip wrappedTwice
  obtain ⟨panicked, -⟩ := raise_round_trip (.panicked 6 wrappedTwice.raise)
  obtain ⟨raised, thrown, back, -, -, -, causes, own, has⟩ := returned 3 _ rfl
  obtain ⟨again, none⟩ := panicked 6 _ rfl
  exact ⟨rfl, rfl, ⟨raised, thrown, back, by rw [causes, own], (has _).mpr rfl⟩, again, rfl, none⟩

end GatedRun
