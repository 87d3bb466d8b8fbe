import GatedRun.Proofs.Execution.Answer
import GatedRun.Proofs.Session.Calls

/-!
# Sessions of single calls

A runner whose calls never overlap, and whose interrupt nobody can raise. Each of its calls is the
run of one execution that always finds the flag down (`replay_call`), so it never returns an
interrupt. It returns that no thread was to be had exactly if the system refused one while the
workers were started, and otherwise it returns results (`result_alone`); it can always be brought to
its return, and then all its threads are gone.
-/

namespace GatedRun

variable {τ α : Type}

/-- The turns of a schedule, with the flag down in all of them. -/
def calmTurns (schedule : List (Instant × RunMove α)) : List (Turn α) :=
  schedule.map fun point => { raised := false, now := point.1, move := point.2 }

@[simp] theorem calmTurns_nil : calmTurns ([] : List (Instant × RunMove α)) = [] := rfl

@[simp] theorem calmTurns_cons (point : Instant × RunMove α)
    (schedule : List (Instant × RunMove α)) : calmTurns (point :: schedule) =
      { raised := false, now := point.1, move := point.2 } :: calmTurns schedule := rfl

@[simp] theorem calmTurns_append (schedule more : List (Instant × RunMove α)) :
    calmTurns (schedule ++ more) = calmTurns schedule ++ calmTurns more :=
  List.map_append

namespace Execution

variable {runner : Runner τ} {execution last : Execution τ α} {notes more : List (RunNote τ α)}
  {raised : Bool} {now : Instant} {move : RunMove α} {next : Stepped τ α}

/-! ### With the flag down -/

theorem Transition.calm (transition : execution.Transition false now move next) :
    next.raised = false ∧ next.execution.caller.isCut = execution.caller.isCut := by
  rcases transition.flag_cases with ⟨looks, -⟩ | ⟨-, flag, cut⟩
  · cases raised_of_consumes looks
  · exact ⟨flag, cut⟩

theorem SoundFor.uncut_replay (sound : SoundFor runner execution notes)
    (uncut : execution.caller.isCut = false) (schedule : List (Instant × RunMove α))
    (ran : GatedRun.replay advance execution (calmTurns schedule) = some (last, more)) :
    last.caller.isCut = false := by
  have kept := replay_preserves
    (fun (state : Execution τ α) told => SoundFor runner state told ∧ state.caller.isCut = false)
    execution last (calmTurns schedule) notes more ?_ ⟨sound, uncut⟩ ran
  · exact kept.2
  rintro state turn after known told member ⟨sound, uncut⟩ advanced
  obtain ⟨⟨now, move⟩, -, rfl⟩ := List.mem_map.mp member
  obtain ⟨next, stepped, same⟩ := Option.map_eq_some_iff.mp advanced
  cases same
  exact ⟨sound.step stepped, (sound.toSound.transition stepped).calm.2.trans uncut⟩

/-! ### A refused thread -/

/-- At some turn the caller asks for a thread, and the system refuses it for a fault. -/
def RefusesThread (first : Execution τ α) (turns : List (Turn α)) (fault : SpawnFault) : Prop :=
  ∃ before turn after middle told, turns = before ++ turn :: after ∧
    GatedRun.replay advance first before = some (middle, told) ∧
    turn.move = .call (.refused fault) ∧ middle.pool.stage = .launching

theorem Staged.launching_of_stage (staged : execution.Staged)
    (stage : execution.pool.stage = .launching) : execution.caller = .launching := by
  have stages := staged.placed.stage
  rw [stage] at stages
  cases caller : execution.caller with
  | launching => rfl
  | returned result =>
    rw [caller] at stages
    rcases result with cause | results
    · cases cause with
      | interrupted phase => cases phase <;> simp [CallerPhase.Admits] at stages
      | _ => simp [CallerPhase.Admits] at stages
    · simp [CallerPhase.Admits] at stages
  | _ =>
    rw [caller] at stages
    simp [CallerPhase.Admits] at stages

theorem Transition.retreats (staged : execution.Staged) {fault : SpawnFault}
    (stage : execution.pool.stage = .launching)
    (transition : execution.Transition raised now (.call (.refused fault)) next) :
    next.execution.pool.stage = .retreating fault := by
  have caller := staged.launching_of_stage stage
  cases transition with
  | refused => rfl
  | retreated _ _ _ other | launched _ _ other =>
    rw [stage] at other
    cases other
  | closed _ drains =>
    rw [caller] at drains
    cases drains
  | joined _ _ other =>
    rw [stage] at other
    rcases other with ⟨_, other⟩ | other <;> cases other
  | counted _ _ _ at_ | sent _ _ _ at_ | allSubmitted _ _ at_ | sawReady _ at_
  | cutReadiness _ at_ | openedGate _ at_ | sawDone _ at_ | cutCompletion _ at_
  | abandonedGate _ _ at_ | withdrawn _ _ at_ | detached _ at_ | handedOver _ at_ =>
    rw [caller] at at_
    cases at_

/-- A caller that has begun to retreat retreats to the end. -/
theorem Transition.retreating_kept (staged : execution.Staged) {fault : SpawnFault}
    (transition : execution.Transition raised now move next)
    (stage : execution.pool.stage = .retreating fault) :
    next.execution.pool.stage = .retreating fault := by
  cases transition with
  | poolOpened _ other | refused _ _ other | closed _ _ other =>
    rw [stage] at other
    cases other
  | detached _ at_ =>
    have stages := (staged.placedAt at_).stage
    rw [stage] at stages
    simp [CallerPhase.Admits] at stages
  | _ => exact stage

theorem Transition.refused_of_retreating {fault : SpawnFault}
    (transition : execution.Transition raised now move next)
    (before : execution.pool.stage ≠ .retreating fault)
    (after : next.execution.pool.stage = .retreating fault) :
    move = .call (.refused fault) ∧ execution.pool.stage = .launching := by
  cases transition with
  | refused _ _ stage =>
    cases after
    exact ⟨rfl, stage⟩
  | poolOpened | closed | detached => cases after
  | _ => exact absurd after before

theorem SoundFor.retreating_iff (sound : SoundFor runner execution notes) (fault : SpawnFault)
    (stage : execution.pool.stage ≠ .retreating fault) (turns : List (Turn α))
    (ran : GatedRun.replay advance execution turns = some (last, more)) :
    last.pool.stage = .retreating fault ↔ RefusesThread execution turns fault := by
  constructor
  · intro retreating
    -- The step at which the retreat begins is the one that was refused a thread.
    obtain ⟨before, turn, after, middle, next, first, second, third, rfl, -, reached, calm,
      advanced, lost, -⟩ := replay_switch
        (fun state : Execution τ α => state.pool.stage ≠ .retreating fault) execution last turns
        more stage (absurd retreating) ran
    have sound' := sound.replay before middle first reached
    obtain ⟨stepped, moved, same⟩ := Option.map_eq_some_iff.mp advanced
    cases same
    obtain ⟨refused, launching⟩ :=
      (sound'.toSound.transition moved).refused_of_retreating calm (not_not.mp lost)
    exact ⟨before, turn, after, middle, first, rfl, reached, refused, launching⟩
  · rintro ⟨before, turn, after, middle, first, rfl, reached, refused, launching⟩
    obtain ⟨middle', first', second, reached', rest, -⟩ :=
      (replay_append_iff execution last before (turn :: after) more).mp ran
    cases reached.symm.trans reached'
    obtain ⟨next, told, third, advanced, rest, -⟩ :=
      (replay_cons_iff middle last turn after second).mp rest
    have sound' := sound.replay before middle first reached
    obtain ⟨stepped, moved, same⟩ := Option.map_eq_some_iff.mp advanced
    cases same
    have transition := sound'.toSound.transition moved
    rw [refused] at transition
    refine (sound'.step moved).replay_keeps (fun state _ => state.pool.stage = .retreating fault) ?_
      (transition.retreats sound'.staged launching) after last third rest
    intro state _ _ _ _ _ sound stage transition
    exact transition.retreating_kept sound.staged stage

/-! ### The return -/

/-- What a call returns that has never found the flag up. -/
theorem Sound.result_uncut (sound : execution.Sound notes)
    (uncut : execution.caller.isCut = false) (result : Except RunError (ResultSet α))
    (returned : execution.result? = some result) :
    (∃ fault, execution.pool.stage = .retreating fault ∧ result = .error (.spawn fault)) ∨
      (¬ execution.pool.stage.Retreats ∧ ∃ results, result = .ok results) := by
  have caller := (result?_eq_some_iff result).mp returned
  have stage := (sound.staged.placedAt caller).stage
  have cut (phase : WaitPhase) : result ≠ .error (.interrupted phase) := by
    intro interrupted
    rw [(isCut_of_result result returned).mpr ⟨phase, interrupted⟩] at uncut
    cases uncut
  rcases sound.result_cases result returned with
    ⟨results, rfl⟩ | completion | readiness | ⟨fault, rfl⟩
  · simp only [CallerPhase.Admits] at stage
    exact .inr ⟨by simp [PoolStage.Retreats, stage], results, rfl⟩
  · exact absurd completion (cut _)
  · exact absurd readiness (cut _)
  · exact .inl ⟨fault, stage, rfl⟩

/-- Whoever returns something else than an interrupt has joined all workers. -/
theorem Sound.quiet_uncut (sound : execution.Sound notes) (uncut : execution.caller.isCut = false)
    (result : Except RunError (ResultSet α)) (returned : execution.result? = some result) :
    execution.isQuiet = true := by
  have caller := (result?_eq_some_iff result).mp returned
  have joined : (CallerPhase.returned result).hasJoined = true := by
    rcases sound.result_uncut uncut result returned with
      ⟨fault, -, rfl⟩ | ⟨-, results, rfl⟩ <;> rfl
  have quiet := sound.staged.quiet_of_joined ((sound.staged.placedAt caller).joined joined)
  simp [isQuiet, returned, quiet]

theorem Resting.ended (resting : execution.Resting) (quiet : execution.isQuiet = true)
    (schedule : List (Instant × RunMove α)) (some : schedule ≠ []) :
    GatedRun.replay advance execution (calmTurns schedule) = none := by
  cases schedule with
  | nil => exact absurd rfl some
  | cons point schedule =>
    simp only [calmTurns_cons, replay, advance, resting.halted quiet, Option.map_none]

/-- Whatever has happened so far, the call can go on to its return with the flag down. -/
theorem SoundFor.can_return (sound : SoundFor runner execution notes)
    (resting : execution.Resting) (now : Instant) : ∃ schedule last more result,
      GatedRun.replay advance execution (calmTurns schedule) = some (last, more) ∧
      last.result? = some result := by
  induction work : execution.workLeft using Nat.strongRecOn generalizing execution notes with
  | ind work ih =>
    cases returned : execution.result? with
    | some result => exact ⟨[], execution, [], result, rfl, returned⟩
    | none =>
      have going : execution.isQuiet = false := by simp [isQuiet, returned]
      -- Any body may end in any way.
      have unblocked : execution.Unblocked fun _ _ => True :=
        fun _ _ _ _ _ => ⟨.panicked .unit, trivial⟩
      have go : execution.CanGo false now .given fun _ _ => True :=
        canGo_of_unfinished sound.toSound resting unblocked going
      obtain ⟨move, possible, busy, -⟩ := go
      obtain ⟨next, stepped⟩ := Option.isSome_iff_exists.mp possible
      have transition := sound.toSound.transition stepped
      have less := sound.toSound.workLeft_lt transition busy
      obtain ⟨schedule, last, more, result, ran, returned⟩ := ih _ (work ▸ less)
        (sound.step stepped) (resting.step transition) rfl
      refine ⟨(now, move) :: schedule, last, next.notes ++ more, result, ?_, returned⟩
      exact (replay_cons_iff _ _ _ _ _).mpr
        ⟨next.execution, next.notes, more, by simp [advance, stepped], ran, rfl⟩

end Execution

namespace Session

/-- One call begins, and from then on it alone goes on. -/
def callMoves (begun : Instant) (schedule : List (Instant × RunMove α)) :
    List (SessionMove τ α) :=
  .begin begun :: schedule.map fun point => .run 0 point.1 point.2

/-- The next call of a session begins, and from then on it alone goes on. -/
def nextMoves (session : Session τ α) (begun : Instant) (schedule : List (Instant × RunMove α)) :
    List (SessionMove τ α) :=
  .begin begun :: schedule.map fun point => .run session.calls.length point.1 point.2

/-- As long as one call of a session alone goes on and the flag is down, its steps are those of its
execution with the flag down. -/
theorem replay_call (runner : Runner τ) (session after : Session τ α) (call : Nat)
    (execution : Execution τ α) (known : List (RunNote τ α))
    (sound : execution.SoundFor runner known) (held : session.calls[call]? = some execution)
    (lowered : session.raised = false) (schedule : List (Instant × RunMove α))
    (notes : List (SessionNote τ α)) :
    replay step session (schedule.map fun point => .run call point.1 point.2) =
        some (after, notes) ↔
      ∃ last more, replay Execution.advance execution (calmTurns schedule) = some (last, more) ∧
        after = { session with calls := session.calls.set call last } ∧
        notes = more.map (.ofCall call) := by
  induction schedule generalizing session execution known notes with
  | nil =>
    have same := set_eq_self_of_getElem? session.calls call execution held
    rw [List.map_nil, replay_nil_iff]
    constructor
    · rintro ⟨rfl, rfl⟩
      exact ⟨execution, [], rfl, by rw [same], rfl⟩
    · rintro ⟨last, more, ran, rfl, rfl⟩
      obtain ⟨rfl, rfl⟩ := (replay_nil_iff execution last more).mp ran
      exact ⟨by rw [same], rfl⟩
  | cons point schedule ih =>
    have below := (List.getElem?_eq_some_iff.mp held).1
    rw [List.map_cons, calmTurns_cons, replay_cons_iff]
    constructor
    · rintro ⟨between, first, second, stepped, rest, rfl⟩
      obtain ⟨_, next, held', moved, rfl, rfl⟩ :=
        (run_eq_some_iff call point.1 point.2).mp stepped
      obtain rfl := Option.some.inj (held'.symm.trans held)
      -- A step that finds the flag down leaves it down.
      rw [lowered] at moved
      have flag := (sound.toSound.transition moved).calm.1
      obtain ⟨last, more, ran, rfl, rfl⟩ := (ih _ next.execution _ (sound.step moved)
        (List.getElem?_set_self below) flag second).mp rest
      refine ⟨last, next.notes ++ more, ?_, by simp [flag, lowered], by simp⟩
      exact (replay_cons_iff _ _ _ _ _).mpr
        ⟨next.execution, next.notes, more, by simp [Execution.advance, moved], ran, rfl⟩
    · rintro ⟨last, more, ran, rfl, rfl⟩
      obtain ⟨after, first, second, advanced, rest, rfl⟩ :=
        (replay_cons_iff _ _ _ _ _).mp ran
      obtain ⟨next, moved, same⟩ := Option.map_eq_some_iff.mp advanced
      cases same
      have flag := (sound.toSound.transition moved).calm.1
      refine ⟨_, _, _, (run_eq_some_iff call point.1 point.2).mpr
          ⟨execution, next, held, by rw [lowered]; exact moved, rfl, rfl⟩,
        (ih _ next.execution _ (sound.step moved) (List.getElem?_set_self below) flag _).mpr
          ⟨last, second, rest, by simp [flag, lowered], rfl⟩, by simp⟩

/-- A further call of a runner whose flag is down is a run of its own, whatever the calls before it
have come to. -/
theorem replay_nextMoves (runner : Runner τ) (runs : runner.IsSound) (session : Session τ α)
    (holds : session.runner = some runner) (lowered : session.raised = false) (begun : Instant)
    (schedule : List (Instant × RunMove α)) (after : Session τ α)
    (notes : List (SessionNote τ α)) :
    replay step session (session.nextMoves begun schedule) = some (after, notes) ↔
      ∃ last more, replay Execution.advance (Execution.start runner.tasks runner.config begun).1
          (calmTurns schedule) = some (last, more) ∧
        after = { session with calls := session.calls ++ [last] } ∧
        notes = ((Execution.start runner.tasks runner.config begun).2 ++ more).map
          (.ofCall session.calls.length) := by
  have sound := Execution.start_soundFor (α := α) runner runs begun
  have single (notes : List (SessionNote τ α)) :=
    replay_call runner { session with
      calls := session.calls ++ [(Execution.start runner.tasks runner.config begun).1] } after
      session.calls.length _ _ sound List.getElem?_concat_length lowered schedule notes
  rw [nextMoves, replay_cons_iff]
  constructor
  · rintro ⟨between, first, second, stepped, rest, rfl⟩
    obtain ⟨_, holds', rfl, rfl⟩ := (begin_eq_some_iff begun).mp stepped
    obtain rfl := Option.some.inj (holds'.symm.trans holds)
    obtain ⟨last, more, ran, rfl, rfl⟩ := (single second).mp rest
    exact ⟨last, more, ran, by simp, by simp⟩
  · rintro ⟨last, more, ran, rfl, rfl⟩
    exact ⟨_, _, _, (begin_eq_some_iff begun).mpr ⟨runner, holds, rfl, rfl⟩,
      (single _).mpr ⟨last, more, ran, by simp, rfl⟩, by simp⟩

theorem replay_callMoves (runner : Runner τ) (runs : runner.IsSound) (begun : Instant)
    (schedule : List (Instant × RunMove α)) (after : Session τ α)
    (notes : List (SessionNote τ α)) :
    replay step (ofRunner runner) (callMoves begun schedule) = some (after, notes) ↔
      ∃ last more, replay Execution.advance (Execution.start runner.tasks runner.config begun).1
          (calmTurns schedule) = some (last, more) ∧
        after = { runner := some runner, interrupt := runner.interrupt, calls := [last] } ∧
        notes = ((Execution.start runner.tasks runner.config begun).2 ++ more).map
          (.ofCall 0) :=
  replay_nextMoves runner runs (ofRunner runner) rfl rfl begun schedule after notes

/-- Whatever a call has come to that goes on alone, it can be brought to its return. -/
theorem returns_of_callMoves (runner : Runner τ) (runs : runner.IsSound) (begun : Instant)
    (schedule : List (Instant × RunMove α)) (session : Session τ α)
    (notes : List (SessionNote τ α))
    (ran : replay step (ofRunner runner) (callMoves begun schedule) = some (session, notes)) :
    ∃ rest last more result,
      replay Execution.advance (Execution.start runner.tasks runner.config begun).1
        (calmTurns (schedule ++ rest)) = some (last, more) ∧ last.result? = some result := by
  have first := Execution.start_soundFor (α := α) runner runs begun
  obtain ⟨middle, early, reached, -, -⟩ :=
    (replay_callMoves runner runs begun schedule session notes).mp ran
  have resting := first.resting_replay (Execution.start_resting _ _ begun) _ middle early reached
  obtain ⟨rest, last, late, result, finished, returned⟩ :=
    (first.replay _ middle early reached).can_return resting begun
  refine ⟨rest, last, early ++ late, result, ?_, returned⟩
  rw [calmTurns_append]
  exact (replay_append_iff _ _ _ _ _).mpr ⟨middle, early, late, reached, finished, rfl⟩

/-- The system refuses a thread while the workers of the call are started, for a fault. -/
def RefusesThread (runner : Runner τ) (begun : Instant) (schedule : List (Instant × RunMove α))
    (fault : SpawnFault) : Prop :=
  ∃ before now after session notes execution,
    schedule = before ++ (now, .call (.refused fault)) :: after ∧
    replay step (ofRunner runner) (callMoves begun before) = some (session, notes) ∧
    session.calls[0]? = some execution ∧ execution.pool.stage = .launching

theorem refusesThread_iff (runner : Runner τ) (runs : runner.IsSound) (begun : Instant)
    (schedule : List (Instant × RunMove α)) (fault : SpawnFault) :
    RefusesThread runner begun schedule fault ↔
      (Execution.start runner.tasks runner.config begun).1.RefusesThread (calmTurns schedule)
        fault := by
  constructor
  · rintro ⟨before, now, after, session, notes, execution, rfl, ran, held, launching⟩
    obtain ⟨last, more, reached, rfl, -⟩ :=
      (replay_callMoves runner runs begun before session notes).mp ran
    obtain rfl := Option.some.inj held
    exact ⟨calmTurns before, ⟨false, now, .call (.refused fault)⟩, calmTurns after, last, more,
      by simp, reached, rfl, launching⟩
  · rintro ⟨before, turn, after, middle, told, split, reached, refused, launching⟩
    obtain ⟨early, late, rfl, rfl, rest⟩ := List.map_eq_append_iff.mp split
    obtain ⟨⟨now, move⟩, later, rfl, rfl, rfl⟩ := List.map_eq_cons_iff.mp rest
    obtain rfl : move = .call (.refused fault) := refused
    exact ⟨early, now, later, _, _, middle, rfl,
      (replay_callMoves runner runs begun early _ _).mpr ⟨middle, told, reached, rfl, rfl⟩, rfl,
      launching⟩

/-- A call that goes on alone returns that a thread was refused, exactly if one was and for the
fault that it was refused for, or it returns results. -/
theorem result_alone (runner : Runner τ) (runs : runner.IsSound) (begun : Instant)
    (schedule : List (Instant × RunMove α)) (last : Execution τ α) (more : List (RunNote τ α))
    (ran : replay Execution.advance (Execution.start runner.tasks runner.config begun).1
      (calmTurns schedule) = some (last, more)) (result : Except RunError (ResultSet α))
    (returned : last.result? = some result) :
    (∃ fault, result = .error (.spawn fault) ∧
      ∀ other, RefusesThread runner begun schedule other ↔ other = fault) ∨
    ((∀ fault, ¬ RefusesThread runner begun schedule fault) ∧ ∃ results, result = .ok results) := by
  have first := Execution.start_soundFor (α := α) runner runs begun
  have fresh := Execution.start_eq (α := α) runner runs begun
  have uncut := first.uncut_replay (by rw [fresh]; rfl) schedule ran
  have refused (fault : SpawnFault) : last.pool.stage = .retreating fault ↔
      RefusesThread runner begun schedule fault := by
    rw [refusesThread_iff runner runs]
    exact first.retreating_iff fault
      (by rw [fresh]; simp [Execution.unstarted, Pool.unstarted]) _ ran
  rcases (first.replay _ last more ran).result_uncut uncut result returned with
    ⟨fault, retreating, rfl⟩ | ⟨advancing, results, rfl⟩
  · refine .inl ⟨fault, rfl, fun other => ?_⟩
    rw [← refused, retreating, PoolStage.retreating.injEq, eq_comm]
  · exact .inr ⟨fun fault refuses => advancing ⟨fault, (refused fault).mpr refuses⟩, results, rfl⟩

end Session

end GatedRun
