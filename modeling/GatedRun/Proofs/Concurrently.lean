import GatedRun.Concurrently
import GatedRun.Proofs.ResultSet.Consumption
import GatedRun.Proofs.Runner.Chain
import GatedRun.Proofs.Session.Single

/-!
# Runs in one go

What `runConcurrently` comes to when the runner that it prepares is executed step by step. Opening,
execution and raising become one answer: the error of a run that could not be carried out, put into
words; or nothing; or the first failure in the order of submission, whichever body ended first.
-/

namespace GatedRun

variable {τ α : Type} {interrupt : Interrupt}

/-! ### Along a schedule -/

/-- Carries the only call of a runner along a schedule, up to its return. What the call lets others
know is written down. -/
def executeAlong (begun : Instant) (schedule : List (Instant × RunMove α)) (runner : Runner τ) :
    StateT (List (RunNote τ α)) Option (Except RunError (ResultSet α)) := fun known =>
  match replay Session.step (.ofRunner runner) (Session.callMoves begun schedule) with
  | none => none
  | some (session, notes) =>
    match session.calls[0]?.bind Execution.result? with
    | none => none
    | some result => some (result, known ++ callNotes 0 notes)

/-- A run in one go along a schedule. The interrupt is made for its runner, and nobody is given a
handle on it. -/
def concurrentlyAlong (opening : Opening τ) (interrupt : Interrupt) (begun : Instant)
    (schedule : List (Instant × RunMove α)) :
    StateT (List (RunNote τ α)) Option (Except Payload Unit) :=
  runConcurrently (pure (Runner.ofOpening opening interrupt)) (executeAlong begun schedule)

/-! ### What is raised -/

namespace ResultSet

theorem requireSuccess_eq_ok_iff (results : ResultSet α) :
    results.requireSuccess = .ok () ↔
      ∀ outcome ∈ results.outcomes, outcome.isFailure = false := by
  rcases Outcome.values_or_failure results.outcomes with
    ⟨values, all⟩ | ⟨values, cause, rest, broken⟩
  · obtain ⟨-, -, required, -⟩ := results.consumption_of_values values all
    simp [required, all]
  · obtain ⟨-, -, required, -⟩ := results.consumption_of_failure values cause rest broken
    rw [required]
    constructor
    · intro ok
      cases ok
    · intro all
      have succeeded := all (.failure cause) (by simp [broken])
      cases succeeded

/-- What is raised is the failure with the lowest index. -/
theorem raises_lowest (results : ResultSet α) (index : Nat) (cause : TaskFailure)
    (failed : results.outcomes[index]? = some (.failure cause))
    (lowest : ∀ earlier < index, ∃ value, results.outcomes[earlier]? = some (.success value)) :
    results.requireSuccess = .error cause.raise := by
  obtain ⟨below, at_⟩ := List.getElem?_eq_some_iff.mp failed
  have first : results.outcomes.findIdx? Outcome.isFailure = some index := by
    rw [List.findIdx?_eq_some_iff_getElem]
    refine ⟨below, by rw [at_]; rfl, fun earlier before => ?_⟩
    obtain ⟨value, succeeded⟩ := lowest earlier before
    rw [(List.getElem?_eq_some_iff.mp succeeded).2]
    simp
  exact (results.raises_of_firstFailure cause
    (results.firstFailure_of_findIdx? index cause first failed)).2

end ResultSet

/-! ### The answer -/

theorem concurrentlyAlong_of_refused (opening : Opening τ) (error : RunError)
    (refused : Runner.ofOpening opening interrupt = .error error) (begun : Instant)
    (schedule : List (Instant × RunMove α)) (known : List (RunNote τ α)) :
    concurrentlyAlong opening interrupt begun schedule known =
      some (.error (escalate error), known) := by
  rw [concurrentlyAlong, refused]
  rfl

theorem concurrentlyAlong_of_accepted (opening : Opening τ) (runner : Runner τ)
    (accepted : Runner.ofOpening opening interrupt = .ok runner) (begun : Instant)
    (schedule : List (Instant × RunMove α)) (known : List (RunNote τ α)) :
    concurrentlyAlong opening interrupt begun schedule known =
      (executeAlong begun schedule runner known).map fun last => (settleRun last.1, last.2) := by
  rw [concurrentlyAlong, accepted]
  change (executeAlong begun schedule runner known).bind _ = _
  cases executeAlong begun schedule runner known <;> rfl

theorem executeAlong_eq_some_iff (runner : Runner τ) (runs : runner.IsSound) (begun : Instant)
    (schedule : List (Instant × RunMove α)) (result : Except RunError (ResultSet α))
    (notes : List (RunNote τ α)) :
    executeAlong begun schedule runner [] = some (result, notes) ↔
      ∃ last more, replay Execution.advance (Execution.start runner.tasks runner.config begun).1
          (calmTurns schedule) = some (last, more) ∧ last.result? = some result ∧
        notes = (Execution.start runner.tasks runner.config begun).2 ++ more := by
  constructor
  · intro answered
    unfold executeAlong at answered
    split at answered
    · cases answered
    next session told ran =>
      obtain ⟨last, more, reached, rfl, rfl⟩ :=
        (Session.replay_callMoves runner runs begun schedule _ _).mp ran
      split at answered
      · cases answered
      next got returned =>
        cases answered
        exact ⟨last, more, reached, returned, by rw [List.nil_append, callNotes_own]⟩
  · rintro ⟨last, more, reached, returned, rfl⟩
    have ran := (Session.replay_callMoves runner runs begun schedule _ _).mpr
      ⟨last, more, reached, rfl, rfl⟩
    have held : (({
        runner := some runner
        interrupt := runner.interrupt
        calls := [last] } : Session τ α).calls[0]?.bind Execution.result?) = some result := returned
    simp only [executeAlong, ran, held, callNotes_own, List.nil_append]

/-- What a run in one go answers is what the execution of its runner returned, settled. -/
theorem concurrentlyAlong_eq_some_iff (opening : Opening τ) (runner : Runner τ)
    (accepted : Runner.ofOpening opening interrupt = .ok runner) (begun : Instant)
    (schedule : List (Instant × RunMove α)) (answer : Except Payload Unit)
    (notes : List (RunNote τ α)) :
    concurrentlyAlong opening interrupt begun schedule [] = some (answer, notes) ↔
      ∃ last more result, replay Execution.advance
          (Execution.start runner.tasks runner.config begun).1 (calmTurns schedule) =
            some (last, more) ∧
        last.result? = some result ∧ answer = settleRun result ∧
        notes = (Execution.start runner.tasks runner.config begun).2 ++ more := by
  have runs := Runner.ofOpening_sound opening runner accepted
  rw [concurrentlyAlong_of_accepted opening runner accepted, Option.map_eq_some_iff]
  constructor
  · rintro ⟨⟨result, told⟩, executed, same⟩
    obtain ⟨last, more, reached, returned, rfl⟩ :=
      (executeAlong_eq_some_iff runner runs begun schedule result told).mp executed
    cases same
    exact ⟨last, more, result, reached, returned, rfl, rfl⟩
  · rintro ⟨last, more, result, reached, returned, rfl, rfl⟩
    exact ⟨(result, _), (executeAlong_eq_some_iff runner runs begun schedule result _).mpr
      ⟨last, more, reached, returned, rfl⟩, rfl⟩

/-- The body of every task was called once and ended in its way, and that alone decides the
answer: nothing, or what the failure with the lowest index raises. -/
def AnswersBodies (tasks : List τ) (notes : List (RunNote τ α)) (answer : Except Payload Unit)
    (results : List (BodyResult α)) : Prop :=
  results.length = tasks.length ∧
  (∀ index task, tasks[index]? = some task → ∃ worker result, results[index]? = some result ∧
    bodyEvents index notes = [.called worker task, .ended worker result]) ∧
  (∀ index, tasks.length ≤ index → bodyEvents index notes = []) ∧
  (answer = .ok () ↔ ∀ result ∈ results, ∃ value, result = .returned value) ∧
  ∀ index result, results[index]? = some result →
    (∀ earlier < index, ∃ value, results[earlier]? = some (.returned value)) →
    (∀ error, result = .failed error → answer = .error (.raised ⟨index, error⟩)) ∧
    ∀ payload, result = .panicked payload → answer = .error payload

theorem isFailure_capture (index : Nat) (body : BodyResult α) :
    (Outcome.capture index body).isFailure = false ↔ ∃ value, body = .returned value := by
  cases body <;> simp [Outcome.capture]

theorem Execution.SoundFor.answersBodies {runner : Runner τ} {execution : Execution τ α}
    {notes : List (RunNote τ α)} (sound : execution.SoundFor runner notes)
    (results : ResultSet α) (returned : execution.result? = some (.ok results)) :
    ∃ bodies, AnswersBodies runner.tasks notes results.requireSuccess bodies := by
  obtain ⟨-, length, -⟩ := sound.delivered_figures results returned
  choose worker body since took events outcome start using fun index : Fin runner.tasks.length =>
    sound.delivered results returned index _ (List.getElem?_eq_getElem index.isLt)
  -- What a body ended in is what the result set has at its index.
  have at_ (index : Nat) (own : BodyResult α) (held : (List.ofFn body)[index]? = some own) :
      results.outcomes[index]? = some (Outcome.capture index own) := by
    rw [List.getElem?_ofFn] at held
    split at held
    next below =>
      cases held
      exact outcome ⟨index, below⟩
    · cases held
  refine ⟨List.ofFn body, List.length_ofFn, ?_, ?_, ?_, ?_⟩
  · intro index task has
    obtain ⟨below, rfl⟩ := List.getElem?_eq_some_iff.mp has
    exact ⟨worker ⟨index, below⟩, body ⟨index, below⟩, by simp [below], events ⟨index, below⟩⟩
  · intro index above
    apply sound.no_events_above index
    rwa [sound.taskCount]
  · rw [results.requireSuccess_eq_ok_iff]
    constructor
    · intro succeeded own member
      obtain ⟨index, held⟩ := List.mem_iff_getElem?.mp member
      exact (isFailure_capture index own).mp
        (succeeded _ (List.mem_of_getElem? (at_ index own held)))
    · intro all own member
      obtain ⟨index, at_own⟩ := List.mem_iff_getElem?.mp member
      have below : index < runner.tasks.length := by
        have within := (List.getElem?_eq_some_iff.mp at_own).1
        rw [length] at within
        exact within
      have held : (List.ofFn body)[index]? = some (body ⟨index, below⟩) := by
        rw [List.getElem?_ofFn, dif_pos below]
      obtain rfl := Option.some.inj (at_own.symm.trans (at_ index _ held))
      exact (isFailure_capture index _).mpr (all _ (List.mem_of_getElem? held))
  · intro index own held lowest
    have failed := at_ index own held
    have before : ∀ earlier < index, ∃ value,
        results.outcomes[earlier]? = some (.success value) := by
      intro earlier below
      obtain ⟨value, succeeded⟩ := lowest earlier below
      exact ⟨value, at_ earlier _ succeeded⟩
    constructor
    · rintro error rfl
      exact results.raises_lowest index _ failed before
    · rintro payload rfl
      exact results.raises_lowest index _ failed before

/-- How the run in one go of a runner answers along a schedule. If it is refused a thread, it raises
the error of the run in words and calls no body. Otherwise every body was called once and has ended.
Nothing is left that could go on, and whatever has happened so far, it can be brought to its
answer. -/
structure AnswersFor (opening : Opening τ) (runner : Runner τ) (begun : Instant)
    (schedule : List (Instant × RunMove α)) : Prop where
  refused : ∀ answer notes fault,
    concurrentlyAlong opening runner.interrupt begun schedule [] = some (answer, notes) →
    Session.RefusesThread runner begun schedule fault →
    answer = .error (.string ("concurrent run failed: " ++ (RunError.spawn fault).message)) ∧
      ∀ index, bodyEvents index notes = []
  granted : ∀ answer notes,
    concurrentlyAlong opening runner.interrupt begun schedule [] = some (answer, notes) →
    (∀ fault, ¬ Session.RefusesThread runner begun schedule fault) →
    ∃ results, AnswersBodies runner.tasks notes answer results
  final : ∀ answer notes more,
    concurrentlyAlong opening runner.interrupt begun schedule [] = some (answer, notes) →
    more ≠ [] → concurrentlyAlong opening runner.interrupt begun (schedule ++ more) [] = none
  total : ∀ session notes,
    replay Session.step (.ofRunner runner) (Session.callMoves begun schedule) =
      some (session, notes) →
    ∃ rest answer told,
      concurrentlyAlong opening runner.interrupt begun (schedule ++ rest) [] = some (answer, told)

section Accepted

variable {opening : Opening τ} {runner : Runner τ} {begun : Instant}
  {schedule : List (Instant × RunMove α)} {answer : Except Payload Unit}
  {notes : List (RunNote τ α)}

/-- An answer is made of results exactly if no thread was refused. -/
theorem concurrentlyAlong_cases (accepted : Runner.ofOpening opening interrupt = .ok runner)
    (answered : concurrentlyAlong opening interrupt begun schedule [] = some (answer, notes)) :
    (∃ fault, answer = .error (escalate (.spawn fault)) ∧
      (∀ other, Session.RefusesThread runner begun schedule other ↔ other = fault) ∧
      ∀ index, bodyEvents index notes = []) ∨
    ((∀ fault, ¬ Session.RefusesThread runner begun schedule fault) ∧
      ∃ results, AnswersBodies runner.tasks notes answer results) := by
  have runs := Runner.ofOpening_sound opening runner accepted
  obtain ⟨last, more, result, ran, returned, rfl, rfl⟩ :=
    (concurrentlyAlong_eq_some_iff opening runner accepted begun schedule _ _).mp answered
  have sound := (Execution.start_soundFor (α := α) runner runs begun).replay _ last more ran
  rcases Session.result_alone runner runs begun schedule last more ran result returned with
    ⟨fault, rfl, only⟩ | ⟨never, results, rfl⟩
  -- A run that was refused a thread leaves the gate shut, so no job got to its body.
  · have shut := sound.gate_of_result _ returned
    exact .inl ⟨fault, rfl, only, sound.ranNone (by rw [shut]; simp [CallerPhase.gate])⟩
  · exact .inr ⟨never, sound.answersBodies results returned⟩

theorem concurrentlyAlong_final (accepted : Runner.ofOpening opening interrupt = .ok runner)
    (answered : concurrentlyAlong opening interrupt begun schedule [] = some (answer, notes))
    (more : List (Instant × RunMove α)) (some : more ≠ []) :
    concurrentlyAlong opening interrupt begun (schedule ++ more) [] = none := by
  have runs := Runner.ofOpening_sound opening runner accepted
  obtain ⟨last, _, result, ran, returned, -, -⟩ :=
    (concurrentlyAlong_eq_some_iff opening runner accepted begun schedule _ _).mp answered
  have first := Execution.start_soundFor (α := α) runner runs begun
  have fresh := Execution.start_eq (α := α) runner runs begun
  have uncut := first.uncut_replay (by rw [fresh]; rfl) schedule ran
  -- The workers have all been joined, so there is no step that could follow.
  have quiet := (first.replay _ last _ ran).quiet_uncut uncut result returned
  have resting := first.resting_replay (Execution.start_resting _ _ begun) _ last _ ran
  rw [← Option.not_isSome_iff_eq_none, Option.isSome_iff_exists]
  rintro ⟨⟨again, told⟩, further⟩
  obtain ⟨final, others, -, ran', -⟩ :=
    (concurrentlyAlong_eq_some_iff opening runner accepted begun _ again told).mp further
  rw [calmTurns_append] at ran'
  obtain ⟨middle, early, late, reached, rest, -⟩ :=
    (replay_append_iff _ final (calmTurns schedule) (calmTurns more) others).mp ran'
  cases reached.symm.trans ran
  rw [resting.ended quiet more some] at rest
  cases rest

theorem answersFor_of_accepted (accepted : Runner.ofOpening opening interrupt = .ok runner) :
    AnswersFor opening runner begun schedule := by
  have runs := Runner.ofOpening_sound opening runner accepted
  obtain rfl : runner.interrupt = interrupt := by
    rw [Runner.eq_of_opened opening runner accepted]
  constructor
  · intro answer notes fault answered refuses
    rcases concurrentlyAlong_cases accepted answered with ⟨_, rfl, only, none⟩ | ⟨never, -⟩
    · obtain rfl := (only fault).mp refuses
      exact ⟨rfl, none⟩
    · exact absurd refuses (never fault)
  · intro answer notes answered never
    rcases concurrentlyAlong_cases accepted answered with ⟨fault, -, only, -⟩ | ⟨-, bodies⟩
    · exact absurd ((only fault).mpr rfl) (never fault)
    · exact bodies
  · intro answer notes more answered some
    exact concurrentlyAlong_final accepted answered more some
  · intro session notes ran
    obtain ⟨rest, last, more, result, finished, returned⟩ :=
      Session.returns_of_callMoves runner runs begun schedule session notes ran
    exact ⟨rest, settleRun result, _,
      (concurrentlyAlong_eq_some_iff opening runner accepted begun _ _ _).mpr
        ⟨last, more, result, finished, returned, rfl, rfl⟩⟩

end Accepted

/-- Two tasks, both of which fail. The second one ends first. -/
def pairFailing : List (Instant × RunMove Nat) :=
  (List.flatten [List.replicate 8 (.call .given), List.replicate 3 (.work 0),
    List.replicate 3 (.work 1), List.replicate 2 (.call .given),
    [.work 0, .work 1, .bodyEnds 1 (.panicked (.str "late")), .work 1, .work 1,
      .bodyEnds 0 (.failed (.text "no"))],
    List.replicate 2 (.work 0), List.replicate 2 (.call .given), List.replicate 5 (.work 0),
    List.replicate 5 (.work 1), List.replicate 3 (.call .given)]).map (Prod.mk 2)

/-- The second of two threads is refused, and the first one is joined. -/
def pairRefused : List (Instant × RunMove Nat) :=
  [.call .given, .call (.refused (.reported "no more threads")), .work 0, .work 0, .work 0,
    .call .given, .call .given].map (Prod.mk 2)

end GatedRun
