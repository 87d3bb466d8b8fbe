import GatedRun.Proofs.Concurrently
import GatedRun.Proofs.SpreadSummary
import Mathlib.Data.Nat.Find

/-!
# Series of runs

What `measureStartSpread` comes to when its runner is executed step by step, one call after the
other. Nobody else has the runner, so its flag stays down, and each call answers for itself: it
gives one spread, or the system refused it a thread and the series ends there
(`startSpreads_along`). So the summary of a series that was refused nothing is one of exactly as
many spreads as there were runs.
-/

namespace GatedRun

variable {τ α : Type} {interrupt : Interrupt}

/-! ### Along a course -/

/-- How the calls of a runner go, by their number: when each begins, and its moves with their
times. -/
abbrev Course (α : Type) := Nat → Instant × List (Instant × RunMove α)

/-- Opens a runner with an interrupt that nobody else knows, and a session begins with it. -/
def openAlone (opening : Opening τ) (interrupt : Interrupt) :
    StateT (Session τ α) Option (Except RunError (Runner τ)) := fun session =>
  match Runner.ofOpening opening interrupt with
  | .error error => some (.error error, session)
  | .ok runner => some (.ok runner, .ofRunner runner)

/-- Carries the next call of a session along its part of the course, up to its return. -/
def executeNext (course : Course α) :
    StateT (Session τ α) Option (Except RunError (ResultSet α)) := fun session =>
  let call := session.calls.length
  match replay Session.step session (session.nextMoves (course call).1 (course call).2) with
  | none => none
  | some (after, _) =>
    match after.calls[call]?.bind Execution.result? with
    | none => none
    | some result => some (result, after)

/-- A series of runs of one task, repeated, along a course. -/
def measureAlong (task : τ) (tasks runs : Nat) (interrupt : Interrupt) (course : Course α) :
    Option (Except RunError (Option SpreadSummary) × Session τ α) :=
  measureStartSpread (openAlone (.repeated task tasks) interrupt) (fun _ => executeNext course) runs
    { runner := none, interrupt }

/-- The system refuses a thread to the call of that number, for a fault. -/
def Course.Refuses (course : Course α) (runner : Runner τ) (call : Nat) (fault : SpawnFault) :
    Prop :=
  Session.RefusesThread runner (course call).1 (course call).2 fault

/-- Of so many calls, from the given one on, the first that is refused a thread is refused it for
that fault. -/
def Course.GivesUp (course : Course α) (runner : Runner τ) (start count : Nat)
    (fault : SpawnFault) : Prop :=
  ∃ call, start ≤ call ∧ call < start + count ∧ course.Refuses runner call fault ∧
    ∀ earlier, start ≤ earlier → earlier < call → ∀ other, ¬ course.Refuses runner earlier other

/-- The spread of the starts that an execution has returned. -/
def Execution.spread? (execution : Execution τ α) : Option Nat :=
  match execution.result? with
  | some (.ok results) => some results.stats.startSpread
  | _ => none

/-! ### One call after the other -/

section Calls

variable {runner : Runner τ} {session after : Session τ α} {course : Course α}

theorem executeNext_eq_some_iff (runs : runner.IsSound) (holds : session.runner = some runner)
    (lowered : session.raised = false) (result : Except RunError (ResultSet α)) :
    executeNext course session = some (result, after) ↔ ∃ last more,
      replay Execution.advance (Execution.start runner.tasks runner.config
        (course session.calls.length).1).1 (calmTurns (course session.calls.length).2) =
          some (last, more) ∧
      last.result? = some result ∧
      after = { session with calls := session.calls ++ [last] } := by
  have single (after : Session τ α) (notes : List (SessionNote τ α)) :=
    Session.replay_nextMoves runner runs session holds lowered (course session.calls.length).1
      (course session.calls.length).2 after notes
  have latest (last : Execution τ α) : (session.calls ++ [last])[session.calls.length]? =
    some last := List.getElem?_concat_length
  constructor
  · intro executed
    simp only [executeNext] at executed
    split at executed
    · cases executed
    next reached told ran =>
      obtain ⟨last, more, went, rfl, -⟩ := (single reached told).mp ran
      rw [latest] at executed
      split at executed
      · cases executed
      next got returned =>
        cases executed
        exact ⟨last, more, went, returned, rfl⟩
  · rintro ⟨last, more, went, returned, rfl⟩
    have ran := (single _ _).mpr ⟨last, more, went, rfl, rfl⟩
    simp only [executeNext, ran, latest, Option.bind_some, returned]

/-- A call returns results, unless the system refuses it a thread. -/
theorem executeNext_answers (runs : runner.IsSound) (holds : session.runner = some runner)
    (lowered : session.raised = false) (result : Except RunError (ResultSet α))
    (executed : executeNext course session = some (result, after)) : ∃ last,
      last.result? = some result ∧ after = { session with calls := session.calls ++ [last] } ∧
      ((∃ fault, result = .error (.spawn fault) ∧
          ∀ other, course.Refuses runner session.calls.length other ↔ other = fault) ∨
        ((∀ fault, ¬ course.Refuses runner session.calls.length fault) ∧
          ∃ results, result = .ok results)) := by
  obtain ⟨last, more, went, returned, rfl⟩ :=
    (executeNext_eq_some_iff runs holds lowered result).mp executed
  exact ⟨last, returned, rfl, Session.result_alone runner runs _ _ last more went result returned⟩

/-- The first of some calls is refused a thread, or the others are asked. -/
theorem Course.givesUp_succ_iff (course : Course α) (runner : Runner τ) (start count : Nat)
    (fault : SpawnFault) : course.GivesUp runner start (count + 1) fault ↔
      course.Refuses runner start fault ∨
        ((∀ other, ¬ course.Refuses runner start other) ∧
          course.GivesUp runner (start + 1) count fault) := by
  constructor
  · rintro ⟨call, above, below, refused, first⟩
    by_cases own : call = start
    · exact .inl (own ▸ refused)
    · exact .inr ⟨first start (Nat.le_refl start) (by omega), call, by omega, by omega, refused,
        fun earlier late => first earlier (by omega)⟩
  · rintro (refused | ⟨calm, call, above, below, refused, first⟩)
    · exact ⟨start, Nat.le_refl start, by omega, refused, fun earlier above below => by omega⟩
    · refine ⟨call, by omega, by omega, refused, fun earlier late before => ?_⟩
      by_cases own : earlier = start
      · exact own ▸ calm
      · exact first earlier (by omega) before

/-- If any of the first calls is refused a thread, the first of them to be gives up. -/
theorem Course.givesUp_of_refuses (course : Course α) (runner : Runner τ) (call count : Nat)
    (fault : SpawnFault) (below : call < count) (refused : course.Refuses runner call fault) :
    ∃ first, course.GivesUp runner 0 count first := by
  classical
  have some : ∃ call fault, course.Refuses runner call fault := ⟨call, fault, refused⟩
  obtain ⟨first, refuses⟩ := Nat.find_spec some
  have least := Nat.find_min' some ⟨fault, refused⟩
  exact ⟨first, Nat.find some, Nat.zero_le _, by omega, refuses,
    fun earlier _ before other refuses => Nat.find_min some before ⟨other, refuses⟩⟩

theorem startSpreads_succ (execute : StateT (Session τ α) Option (Except RunError (ResultSet α)))
    (runs : Nat) (session : Session τ α) : startSpreads execute (runs + 1) session =
      (execute session).bind fun executed => match executed.1 with
        | .error error => some (.error error, executed.2)
        | .ok results => (startSpreads execute runs executed.2).map fun series =>
          (series.1.map (results.stats.startSpread :: ·), series.2) := by
  change (execute session).bind _ = _
  congr
  funext ⟨result, after⟩
  cases result with
  | error error => rfl
  | ok results =>
    change (startSpreads execute runs after).bind _ = _
    cases startSpreads execute runs after <;> rfl

/-- A series ends with the first call that is refused a thread; if none is, it has one spread for
each call, in order. -/
theorem startSpreads_along (runs : runner.IsSound) (count : Nat) (session last : Session τ α)
    (holds : session.runner = some runner) (lowered : session.raised = false)
    (answer : Except RunError (List Nat))
    (answered : startSpreads (executeNext course) count session = some (answer, last)) :
    (∃ fault, answer = .error (.spawn fault) ∧
      ∀ other, course.GivesUp runner session.calls.length count other ↔ other = fault) ∨
    ∃ spreads more, answer = .ok spreads ∧ last.calls = session.calls ++ more ∧
      more.length = count ∧ more.map Execution.spread? = spreads.map some ∧
      ∀ fault, ¬ course.GivesUp runner session.calls.length count fault := by
  induction count generalizing session answer with
  | zero =>
    cases answered
    refine .inr ⟨[], [], rfl, (List.append_nil _).symm, rfl, rfl, ?_⟩
    rintro fault ⟨call, above, below, -⟩
    omega
  | succ count ih =>
    rw [startSpreads_succ, Option.bind_eq_some_iff] at answered
    obtain ⟨⟨result, after⟩, executed, rest⟩ := answered
    have later (fault : SpawnFault) :=
      course.givesUp_succ_iff runner session.calls.length count fault
    obtain ⟨execution, returned, rfl, ⟨fault, rfl, only⟩ | ⟨granted, results, rfl⟩⟩ :=
      executeNext_answers runs holds lowered result executed
    -- The first call is refused, and it is the one that gives up.
    · cases rest
      refine .inl ⟨fault, rfl, fun other => ?_⟩
      have refused := (only fault).mpr rfl
      rw [later, only]
      exact or_iff_left fun granted => granted.1 fault refused
    · obtain ⟨⟨series, final⟩, went, same⟩ := Option.map_eq_some_iff.mp rest
      obtain ⟨rfl, rfl⟩ := Prod.mk.inj same
      have length : (session.calls ++ [execution]).length = session.calls.length + 1 := by simp
      -- Whoever gives up is among the others, to which the hypothesis applies.
      have given (fault : SpawnFault) :
          course.GivesUp runner session.calls.length (count + 1) fault ↔
            course.GivesUp runner (session.calls ++ [execution]).length count fault := by
        rw [later, length, or_iff_right (granted fault), and_iff_right granted]
      simp only [given]
      rcases ih { session with calls := session.calls ++ [execution] } holds lowered series went
        with ⟨fault, rfl, only⟩ | ⟨spreads, more, rfl, calls, many, figures, calm⟩
      · exact .inl ⟨fault, rfl, only⟩
      · refine .inr ⟨results.stats.startSpread :: spreads, execution :: more, rfl, ?_, ?_, ?_, calm⟩
        · rw [calls, List.append_assoc, List.singleton_append]
        · rw [List.length_cons, many]
        · rw [List.map_cons, List.map_cons, figures, Execution.spread?, returned]

/-- A series comes to its end if each of its calls does. -/
theorem startSpreads_total (runs : runner.IsSound) (count : Nat) (session : Session τ α)
    (holds : session.runner = some runner) (lowered : session.raised = false)
    (all : ∀ call < session.calls.length + count, ∃ last more result,
      replay Execution.advance (Execution.start runner.tasks runner.config (course call).1).1
        (calmTurns (course call).2) = some (last, more) ∧ last.result? = some result) :
    ∃ answer last, startSpreads (executeNext course) count session = some (answer, last) := by
  induction count generalizing session with
  | zero => exact ⟨.ok [], session, rfl⟩
  | succ count ih =>
    obtain ⟨last, more, result, went, returned⟩ := all session.calls.length (by omega)
    have executed := (executeNext_eq_some_iff runs holds lowered result).mpr
      ⟨last, more, went, returned, rfl⟩
    rw [startSpreads_succ, executed, Option.bind_some]
    cases result with
    | error error => exact ⟨_, _, rfl⟩
    | ok results =>
      obtain ⟨answer, final, series⟩ := ih { session with calls := session.calls ++ [last] } holds
        lowered fun call below => all call (by simp at below; omega)
      exact ⟨_, _, by rw [series]; rfl⟩

end Calls

/-! ### The summary -/

theorem ofOpening_repeated (task : τ) (tasks : Nat) (positive : 0 < tasks)
    (interrupt : Interrupt) : Runner.ofOpening (.repeated task tasks) interrupt =
      .ok { tasks := List.replicate tasks task, interrupt } := by
  apply Runner.ofOpening_of_accepted
  simp [Opening.refusal?, repeatFault?, Nat.ne_of_gt positive]

theorem measureAlong_eq (task : τ) (tasks runs : Nat) (interrupt : Interrupt) (course : Course α)
    (positive : 0 < tasks) :
    measureAlong task tasks runs interrupt course =
      (startSpreads (executeNext course) runs
        (.ofRunner { tasks := List.replicate tasks task, interrupt })).map
          fun series => (series.1.map SpreadSummary.ofSpreads, series.2) := by
  have opened : openAlone (α := α) (.repeated task tasks) interrupt { runner := none, interrupt } =
      some (.ok { tasks := List.replicate tasks task, interrupt },
        .ofRunner { tasks := List.replicate tasks task, interrupt }) := by
    rw [openAlone, ofOpening_repeated task tasks positive interrupt]
  change (openAlone (.repeated task tasks) interrupt { runner := none, interrupt }).bind _ = _
  rw [opened, Option.bind_some]
  change (startSpreads (executeNext course) runs _).bind _ = _
  cases startSpreads (executeNext course) runs
    (.ofRunner { tasks := List.replicate tasks task, interrupt }) <;> rfl

/-- A series of runs has been refused a thread, or it is summed up from one spread of each run. -/
theorem measureAlong_cases (task : τ) (tasks runs : Nat) (course : Course α) (positive : 0 < tasks)
    (answer : Except RunError (Option SpreadSummary)) (session : Session τ α)
    (measured : measureAlong task tasks runs interrupt course = some (answer, session)) :
    (∃ fault, answer = .error (.spawn fault) ∧ ∀ other,
      course.GivesUp { tasks := List.replicate tasks task, interrupt } 0 runs other ↔
        other = fault) ∨
    ((∀ fault, ¬ course.GivesUp { tasks := List.replicate tasks task, interrupt } 0 runs fault) ∧
      ∃ spreads, spreads.length = runs ∧ session.calls.map Execution.spread? = spreads.map some ∧
        answer = .ok (SpreadSummary.ofSpreads spreads)) := by
  have sound := Runner.ofOpening_sound _ _ (ofOpening_repeated task tasks positive interrupt)
  rw [measureAlong_eq task tasks runs interrupt course positive] at measured
  obtain ⟨⟨series, last⟩, went, same⟩ := Option.map_eq_some_iff.mp measured
  obtain ⟨rfl, rfl⟩ := Prod.mk.inj same
  rcases startSpreads_along sound runs _ _ rfl rfl series went with
    ⟨fault, rfl, only⟩ | ⟨spreads, calls, rfl, all, many, told, calm⟩
  · exact .inl ⟨fault, rfl, only⟩
  -- The calls of the series are all that its runner ever had.
  · have all : last.calls = calls := by simpa [Session.ofRunner] using all
    refine .inr ⟨calm, spreads, ?_, all ▸ told, rfl⟩
    rw [← many, ← List.length_map Option.some, ← told, List.length_map]

/-- Whatever each of its runs has come to, a series can be brought to its end. -/
theorem measureAlong_total (task : τ) (tasks runs : Nat) (course : Course α) (positive : 0 < tasks)
    (possible : ∀ run < runs, ∃ session notes,
      replay Session.step (.ofRunner { tasks := List.replicate tasks task, interrupt })
        (Session.callMoves (course run).1 (course run).2) = some (session, notes)) :
    ∃ (rest : Nat → List (Instant × RunMove α)) (answer : Except RunError (Option SpreadSummary))
      (session : Session τ α),
      measureAlong task tasks runs interrupt
        (fun run => ((course run).1, (course run).2 ++ rest run)) =
        some (answer, session) := by
  have sound := Runner.ofOpening_sound _ _ (ofOpening_repeated task tasks positive interrupt)
  have extended (run : Nat) : ∃ rest : List (Instant × RunMove α), run < runs →
      ∃ last more result, replay Execution.advance
        (Execution.start (List.replicate tasks task) {} (course run).1).1
        (calmTurns ((course run).2 ++ rest)) = some (last, more) ∧ last.result? = some result := by
    by_cases below : run < runs
    · obtain ⟨session, notes, ran⟩ := possible run below
      obtain ⟨rest, returns⟩ := Session.returns_of_callMoves _ sound _ _ session notes ran
      exact ⟨rest, fun _ => returns⟩
    · exact ⟨[], fun within => absurd within below⟩
  -- Each run is extended to its return by itself, since the others do not touch it.
  choose rest returns using extended
  let whole : Course α := fun run => ((course run).1, (course run).2 ++ rest run)
  obtain ⟨answer, last, series⟩ : ∃ answer last, startSpreads (executeNext whole) runs
      (.ofRunner { tasks := List.replicate tasks task, interrupt }) = some (answer, last) :=
    startSpreads_total sound runs (.ofRunner _) rfl rfl fun call below =>
      returns call (by simpa [Session.ofRunner] using below)
  have measured := measureAlong_eq task tasks runs interrupt whole positive
  rw [series, Option.map_some] at measured
  exact ⟨rest, _, last, measured⟩

/-- A series of spreads has a summary unless it is empty, and its figures are the least, the middle
and the greatest of the spreads, in whichever order these come. A series of runs without tasks is
refused, however many runs it is to have. Any other ends with the first run that is refused a
thread, for the fault of that run; if none is, it is summed up from one spread of each run, so it
has no summary if it has no runs, and one of as many samples otherwise, which are in order. Whatever
its runs have come to, it can be brought to its end. -/
theorem measurement_sums_up (spreads : List Nat) (task : τ) (tasks runs : Nat)
    (interrupt : Interrupt) (course : Course α) :
    (SpreadSummary.ofSpreads spreads = none ↔ spreads = []) ∧
    (∀ summary, SpreadSummary.ofSpreads spreads = some summary → summary.Describes spreads) ∧
    (∀ other : List Nat, other.Perm spreads →
      SpreadSummary.ofSpreads other = SpreadSummary.ofSpreads spreads) ∧
    (tasks = 0 → measureAlong task tasks runs interrupt course =
      some (.error (.invalidArgument .repeatCount), { runner := none, interrupt })) ∧
    (0 < tasks → ∀ answer session,
      measureAlong task tasks runs interrupt course = some (answer, session) →
      answer ≠ .error (.invalidArgument .repeatCount) ∧
      (∀ fault, answer = .error (.spawn fault) ↔
        course.GivesUp { tasks := List.replicate tasks task, interrupt } 0 runs fault) ∧
      ((∀ run < runs, ∀ fault,
          ¬ course.Refuses { tasks := List.replicate tasks task, interrupt } run fault) →
        (∃ measured, measured.length = runs ∧
          session.calls.map Execution.spread? = measured.map some ∧
          answer = .ok (SpreadSummary.ofSpreads measured)) ∧
        (answer = .ok none ↔ runs = 0) ∧
        (runs ≠ 0 → ∃ summary, answer = .ok (some summary) ∧ summary.samples = runs ∧
          summary.isOrdered = true))) ∧
    (0 < tasks → (∀ run < runs, ∃ session notes,
        replay Session.step (.ofRunner { tasks := List.replicate tasks task, interrupt })
          (Session.callMoves (course run).1 (course run).2) = some (session, notes)) →
      ∃ (rest : Nat → List (Instant × RunMove α)) (answer : Except RunError (Option SpreadSummary))
        (session : Session τ α),
        measureAlong task tasks runs interrupt
            (fun run => ((course run).1, (course run).2 ++ rest run)) =
          some (answer, session)) := by
  refine ⟨SpreadSummary.ofSpreads_eq_none_iff, fun _ => SpreadSummary.describes_of_ofSpreads,
    fun _ => SpreadSummary.ofSpreads_congr, ?_, ?_, measureAlong_total task tasks runs course⟩
  · rintro rfl
    rfl
  · intro positive answer session measured
    rcases measureAlong_cases task tasks runs course positive answer session measured with
      ⟨fault, rfl, only⟩ | ⟨calm, figures, length, told, rfl⟩
    · refine ⟨nofun, fun other => ?_, fun never => ?_⟩
      · rw [only, Except.error.injEq, RunError.spawn.injEq, eq_comm]
      · obtain ⟨run, -, below, refused, -⟩ := (only fault).mpr rfl
        exact absurd refused (never run (by omega) fault)
    · refine ⟨nofun, fun fault => ⟨nofun, fun gives => absurd gives (calm fault)⟩,
        fun _ => ⟨⟨figures, length, told, rfl⟩, ?_, ?_⟩⟩
      · rw [← length, List.length_eq_zero_iff, ← SpreadSummary.ofSpreads_eq_none_iff]
        exact ⟨fun none => Except.ok.inj none, fun none => congrArg Except.ok none⟩
      · intro some
        cases summed : SpreadSummary.ofSpreads figures with
        | none =>
          rw [SpreadSummary.ofSpreads_eq_none_iff.mp summed] at length
          exact absurd length.symm some
        | some summary =>
          have describes := SpreadSummary.describes_of_ofSpreads summed
          refine ⟨summary, rfl, describes.samples.trans length, ?_⟩
          simpa [SpreadSummary.isOrdered] using describes.ordered

/-- Both of two tasks return. The second one passes the gate that much later than the first. -/
def pairApart (apart : Nat) : List (Instant × RunMove Nat) :=
  (List.flatten [List.replicate 8 (.call .given), List.replicate 3 (.work 0),
    List.replicate 3 (.work 1), List.replicate 2 (.call .given), [.work 0]]).map (Prod.mk 2) ++
  (List.flatten [[.work 1, .bodyEnds 1 (.returned 8), .work 1, .work 1, .bodyEnds 0 (.returned 7)],
    List.replicate 2 (.work 0), List.replicate 2 (.call .given), List.replicate 5 (.work 0),
    List.replicate 5 (.work 1), List.replicate 3 (.call .given)]).map (Prod.mk (2 + apart))

/-- The first run has a spread of five, the second none, and all others have one of three. -/
def pairCourse : Course Nat
  | 0 => (1, pairApart 5)
  | 1 => (1, pairApart 0)
  | _ => (1, pairApart 3)

theorem measurement_sums_up_pair :
    (SpreadSummary.ofSpreads [30, 10, 20, 10] = some ⟨4, 10, 20, 30⟩ ∧
      (⟨4, 10, 20, 30⟩ : SpreadSummary).Describes [30, 10, 20, 10] ∧
      SpreadSummary.ofSpreads [10, 30, 10, 20] = SpreadSummary.ofSpreads [30, 10, 20, 10]) ∧
    measureAlong 9 0 3 ⟨0⟩ pairCourse =
      some (.error (.invalidArgument .repeatCount), { runner := none, interrupt := ⟨0⟩ }) ∧
    (∃ session : Session Nat Nat,
      measureAlong 9 2 3 ⟨0⟩ pairCourse = some (.ok (SpreadSummary.ofSpreads [5, 0, 3]), session) ∧
      session.calls.map Execution.spread? = [some 5, some 0, some 3] ∧
      ∃ summary, SpreadSummary.ofSpreads [5, 0, 3] = some summary ∧ summary.samples = 3 ∧
        summary.isOrdered = true) ∧
    (∃ session : Session Nat Nat,
      measureAlong 9 2 3 ⟨0⟩ (fun _ => (1, pairRefused)) =
        some (.error (.spawn (.reported "no more threads")), session) ∧
      session.calls.length = 1) ∧
    ∃ (rest : Nat → List (Instant × RunMove Nat))
      (answer : Except RunError (Option SpreadSummary)) (session : Session Nat Nat),
      measureAlong 9 2 3 ⟨0⟩ (fun run => (1, (2, .call .given) :: rest run)) =
        some (answer, session) := by
  refine ⟨?_, ?_, ?_, ?_, ?_⟩
  · obtain ⟨-, described, reordered, -⟩ := measurement_sums_up [30, 10, 20, 10] 9 2 3 ⟨0⟩ pairCourse
    have ascending : [10, 10, 20, 30] = SpreadSummary.sorted [30, 10, 20, 10] :=
      SpreadSummary.eq_sorted (by decide) (by decide)
    have summed : SpreadSummary.ofSpreads [30, 10, 20, 10] = some ⟨4, 10, 20, 30⟩ := by
      rw [SpreadSummary.ofSpreads, ← ascending]
      rfl
    exact ⟨summed, described _ summed, reordered _ (by decide)⟩
  · exact (measurement_sums_up [] 9 0 3 ⟨0⟩ pairCourse).2.2.2.1 rfl
  · have shown : (measureAlong 9 2 3 ⟨0⟩ pairCourse).map (fun series =>
        (series.1.isOk, series.2.calls.map Execution.spread?)) =
          some (true, [some 5, some 0, some 3]) := by decide +kernel
    obtain ⟨⟨answer, session⟩, measured, figures⟩ := Option.map_eq_some_iff.mp shown
    obtain ⟨ok, told⟩ := Prod.mk.inj figures
    obtain ⟨-, refused, calm⟩ :=
      (measurement_sums_up [] 9 2 3 ⟨0⟩ pairCourse).2.2.2.2.1 (by decide) answer session measured
    have never : ∀ run < 3, ∀ fault,
        ¬ pairCourse.Refuses { tasks := List.replicate 2 9, interrupt := ⟨0⟩ } run fault := by
      intro run below fault refuses
      obtain ⟨fault, gives⟩ := Course.givesUp_of_refuses _ _ run 3 fault below refuses
      rw [(refused fault).mpr gives] at ok
      cases ok
    obtain ⟨⟨spreads, -, each, rfl⟩, -, summed⟩ := calm never
    obtain rfl : spreads = [5, 0, 3] :=
      List.map_injective_iff.mpr (fun _ _ => Option.some.inj) (each.symm.trans told)
    obtain ⟨summary, same, samples, ordered⟩ := summed (by decide)
    exact ⟨session, measured, told, summary, Except.ok.inj same, samples, ordered⟩
  · have shown : (measureAlong 9 2 3 ⟨0⟩ (fun _ => (1, pairRefused))).map (fun series =>
        series.2.calls.length) = some 1 := by decide +kernel
    obtain ⟨⟨answer, session⟩, measured, length⟩ := Option.map_eq_some_iff.mp shown
    obtain ⟨-, refused, -⟩ :=
      (measurement_sums_up [] 9 2 3 ⟨0⟩ _).2.2.2.2.1 (by decide) _ _ measured
    obtain rfl := (refused (.reported "no more threads")).mpr ⟨0, Nat.le_refl 0, by decide,
      ⟨[(2, .call .given)], 2, _, _, _, _, rfl, rfl, rfl, rfl⟩, fun earlier _ none => by omega⟩
    exact ⟨session, measured, length⟩
  · exact (measurement_sums_up [] 9 2 3 ⟨0⟩ fun _ => (1, [(2, .call .given)])).2.2.2.2.2 (by decide)
      fun _ _ => ⟨_, _, rfl⟩

end GatedRun
