import GatedRun.Proofs.Execution.Answer
import GatedRun.Proofs.Session.Calls

/-!
# Raises and their answers

The flag of a runner is put up by whoever has a handle of it and taken down by the waits of its
calls. A history of the flag (`flagEvents`) holds both kinds of events, and all about the answers
can be told from it: whether the flag is up, which calls are interrupted, and how many
(`Tallied`). What the history does not tell is the future: that a call which took the flag down gets
to its return (`ComesTo`), and that a flag which is still up will be found by the next call that
waits for its workers (`Facing`). Put together, every raise is answered (`answers_raises`).
-/

namespace GatedRun

variable {τ α : Type}

/-- What happens to the flag of a runner. -/
inductive FlagEvent where
  | raised
  /-- A wait of the call finds the flag up, and takes it down. -/
  | consumed (call : Nat)
  deriving DecidableEq, Repr

def FlagEvent.call? : FlagEvent → Option Nat
  | .raised => none
  | .consumed call => some call

def FlagEvent.isConsumed (event : FlagEvent) : Bool := event.call?.isSome

def SessionMove.isRaise : SessionMove τ α → Bool
  | .raise => true
  | _ => false

namespace Session

variable {session after : Session τ α} {notes known : List (SessionNote τ α)}
  {move : SessionMove τ α}

/-! ### The history of the flag -/

/-- What a move does to the flag: somebody raises it, or a wait takes it down. A look that finds the
flag down is no event. -/
def flagEvent? (session : Session τ α) : SessionMove τ α → Option FlagEvent
  | .raise => some .raised
  | .run call _ own =>
    if session.calls[call]?.any (·.consumes session.raised own) then some (.consumed call)
    else none
  | _ => none

def flagEvents (session : Session τ α) (moves : List (SessionMove τ α)) : List FlagEvent :=
  observed step flagEvent? session moves

/-- Which calls have decided to return an interrupt. -/
def cuts (session : Session τ α) : List Bool := session.calls.map (·.caller.isCut)

theorem flagEvent?_eq_consumed_iff (call : Nat) :
    session.flagEvent? move = some (.consumed call) ↔ ∃ now own execution,
      move = .run call now own ∧ session.calls[call]? = some execution ∧
        execution.consumes session.raised own = true := by
  cases move with
  | run other now own =>
    simp only [flagEvent?, Option.ite_none_right_eq_some, Option.any_eq_true, Option.some.injEq,
      FlagEvent.consumed.injEq, SessionMove.run.injEq]
    constructor
    · rintro ⟨⟨execution, held, looks⟩, rfl⟩
      exact ⟨now, own, execution, ⟨rfl, rfl, rfl⟩, held, looks⟩
    · rintro ⟨_, _, execution, ⟨rfl, rfl, rfl⟩, held, looks⟩
      exact ⟨⟨execution, held, looks⟩, rfl⟩
  | _ => simp [flagEvent?]

/-- The ways in which a step can change flag and decisions: not at all, but for a new call that has
not decided yet; by a raise; or by a wait that takes the flag down and decides. -/
theorem Sound.flag_cases (sound : Sound Runner.IsSound session known) (untaken : move ≠ .take)
    (stepped : session.step move = some (after, notes)) :
    (session.flagEvent? move = none ∧ after.raised = session.raised ∧
      (after.cuts = session.cuts ∨ after.cuts = session.cuts ++ [false])) ∨
    (session.flagEvent? move = some .raised ∧ after.raised = true ∧ after.cuts = session.cuts) ∨
    ∃ call, session.flagEvent? move = some (.consumed call) ∧ session.raised = true ∧
      after.raised = false ∧ session.cuts[call]? = some false ∧
      after.cuts = session.cuts.set call true := by
  cases move with
  | extend extension =>
    simp only [Session.step] at stepped
    split at stepped
    · cases stepped
    · split at stepped <;> cases stepped <;> exact .inl ⟨rfl, rfl, .inl rfl⟩
  | drop =>
    cases stepped
    exact .inl ⟨rfl, rfl, .inl rfl⟩
  | raise =>
    cases stepped
    exact .inr (.inl ⟨rfl, rfl, rfl⟩)
  | take => exact absurd rfl untaken
  | begin now =>
    obtain ⟨runner, holds, rfl, -⟩ := (begin_eq_some_iff now).mp stepped
    have begun := Execution.start_eq (α := α) runner (sound.runner runner holds) now
    refine .inl ⟨rfl, rfl, .inr ?_⟩
    rw [cuts, List.map_append, begun]
    rfl
  | run call now own =>
    obtain ⟨execution, next, held, moved, rfl, -⟩ := (run_eq_some_iff call now own).mp stepped
    obtain ⟨_, -, runs⟩ := sound.calls call execution held
    have transition := runs.toSound.transition moved
    have before : session.cuts[call]? = some execution.caller.isCut := by
      rw [cuts, List.getElem?_map, held]
      rfl
    have cuts : Session.cuts { session with
        raised := next.raised, calls := session.calls.set call next.execution } =
        session.cuts.set call next.execution.caller.isCut := List.map_set
    rcases transition.flag_cases with ⟨looks, lowered, cut⟩ | ⟨blind, same, cut⟩
    · refine .inr (.inr ⟨call, ?_, Execution.raised_of_consumes looks, lowered, ?_, ?_⟩)
      · simp [flagEvent?, held, looks]
      · rw [before, Execution.not_isCut_of_consumes looks]
      · rw [cuts, cut]
    · refine .inl ⟨?_, same, .inl ?_⟩
      · simp [flagEvent?, held, blind]
      · obtain ⟨below, at_⟩ := List.getElem?_eq_some_iff.mp before
        rw [cuts, cut, ← at_, List.set_getElem_self below]

/-! ### Tallies -/

/-- What the history of the flag tells: the flag is up if a raise was the last that happened to it,
each call that has decided to return an interrupt took the flag down once, and each time it was
taken down it had been raised. -/
structure Tallied (session : Session τ α) (events : List FlagEvent) : Prop where
  raised : session.raised = true ↔ events.getLast? = some .raised
  each : ∀ call, events.count (.consumed call) = if session.cuts[call]? = some true then 1 else 0
  total : session.cuts.count true = events.countP FlagEvent.isConsumed
  few : events.countP FlagEvent.isConsumed + session.raised.toNat ≤ events.count .raised

theorem ofRunner_tallied (runner : Runner τ) : Tallied (ofRunner (α := α) runner) [] := by
  refine ⟨?_, fun call => ?_, rfl, Nat.le_refl _⟩
  · simp [ofRunner]
  · simp [ofRunner, cuts]

private theorem undecided_concat (cuts : List Bool) (call : Nat) :
    (cuts ++ [false])[call]? = some true ↔ cuts[call]? = some true := by
  by_cases below : call < cuts.length
  · rw [List.getElem?_append_left below]
  · have above := Nat.not_lt.mp below
    rw [List.getElem?_append_right above, List.getElem?_eq_none above,
      List.getElem?_singleton]
    split <;> simp

theorem Tallied.step {events : List FlagEvent} (tallied : session.Tallied events)
    (sound : Sound Runner.IsSound session known) (untaken : move ≠ .take)
    (stepped : session.step move = some (after, notes)) :
    after.Tallied (events ++ (session.flagEvent? move).toList) := by
  obtain ⟨up, each, total, few⟩ := tallied
  rcases sound.flag_cases untaken stepped with ⟨silent, same, cuts | cuts⟩ | ⟨raise, raised, cuts⟩ |
    ⟨call, look, raised, lowered, undecided, cuts⟩
  · rw [silent, Option.toList_none, List.append_nil]
    exact ⟨same ▸ up, cuts ▸ each, cuts ▸ total, same ▸ few⟩
  · rw [silent, Option.toList_none, List.append_nil]
    refine ⟨same ▸ up, fun call => ?_, ?_, same ▸ few⟩
    · simp only [each, cuts, undecided_concat]
    · rw [cuts, List.count_append, total]
      rfl
  · rw [raise, Option.toList_some]
    refine ⟨by simp [raised], fun call => ?_, ?_, ?_⟩
    · rw [cuts, ← each, List.count_append]
      rfl
    · rw [cuts, total, List.countP_append]
      rfl
    · have none : [FlagEvent.raised].countP FlagEvent.isConsumed = 0 := rfl
      have one : [FlagEvent.raised].count .raised = 1 := rfl
      have most := Bool.toNat_le session.raised
      rw [raised, Bool.toNat_true, List.countP_append, List.count_append]
      omega
  · rw [look, Option.toList_some]
    obtain ⟨below, at_⟩ := List.getElem?_eq_some_iff.mp undecided
    refine ⟨by simp [lowered], fun other => ?_, ?_, ?_⟩
    · rw [cuts, List.count_append, each]
      by_cases same : call = other
      · subst same
        simp [below, at_]
      · simp [same, List.getElem?_set_ne]
    · rw [cuts, List.count_set below, total, List.countP_append, at_]
      rfl
    · have one : [FlagEvent.consumed call].countP FlagEvent.isConsumed = 1 := rfl
      have none : [FlagEvent.consumed call].count .raised = 0 := rfl
      rw [raised, Bool.toNat_true] at few
      rw [lowered, Bool.toNat_false, List.countP_append, List.count_append]
      omega

theorem tallied_of_replay (runner : Runner τ) (runs : runner.IsSound)
    (moves : List (SessionMove τ α)) (untaken : ∀ move ∈ moves, move ≠ .take)
    (ran : replay step (ofRunner runner) moves = some (session, notes)) :
    session.Tallied (flagEvents (ofRunner runner) moves) := by
  have both := observed_preserves flagEvent?
    (fun (state : Session τ α) seen =>
      (∃ known, Sound Runner.IsSound state known) ∧ state.Tallied seen)
    (ofRunner runner) session moves [] notes ?_
    ⟨⟨_, ofRunner_sound runner runs⟩, ofRunner_tallied runner⟩ ran
  · exact both.2
  · rintro state move after seen told member ⟨⟨known, sound⟩, tallied⟩ stepped
    exact ⟨⟨_, sound.next stepped⟩, tallied.step sound (untaken move member) stepped⟩

theorem flagEvent?_eq_raised_iff :
    session.flagEvent? move = some .raised ↔ move.isRaise = true := by
  cases move with
  | run call now own =>
    rw [flagEvent?]
    split <;> simp [SessionMove.isRaise]
  | _ => simp [flagEvent?, SessionMove.isRaise]

/-- The history has an event for each raise. -/
theorem count_raised (moves : List (SessionMove τ α))
    (ran : replay step session moves = some (after, notes)) :
    (session.flagEvents moves).count .raised = moves.countP SessionMove.isRaise := by
  induction moves generalizing session notes with
  | nil => rfl
  | cons move moves ih =>
    obtain ⟨next, first, more, stepped, rest, rfl⟩ :=
      (replay_cons_iff session after move moves notes).mp ran
    have told : session.flagEvent? move = some .raised ↔ move.isRaise = true :=
      flagEvent?_eq_raised_iff
    rw [flagEvents, observed_cons session next move moves first stepped, ← flagEvents,
      List.count_append, ih rest, List.countP_cons]
    cases raises : move.isRaise with
    | true =>
      rw [told.mpr raises]
      exact Nat.add_comm _ _
    | false =>
      have none : (session.flagEvent? move).toList.count .raised = 0 := by
        rw [List.count_eq_zero, Option.mem_toList]
        intro event
        rw [told.mp event] at raises
        cases raises
      rw [none]
      exact Nat.zero_add _

/-! ### Answers -/

/-- The call comes to return the error by steps of its own alone: its caller goes on and gets the
threads that it asks for, its workers go on, and no body has to end. -/
def ComesTo (session : Session τ α) (call : Nat) (error : RunError) : Prop :=
  ∀ now, ∃ (own : List (RunMove α)) (last : Session τ α) (told : List (SessionNote τ α))
    (execution : Execution τ α),
    (∀ move ∈ own, move = .call .given ∨ ∃ worker, move = .work worker) ∧
    replay step session (own.map (.run call now)) = some (last, told) ∧
    last.calls[call]? = some execution ∧ execution.result? = some (.error error)

theorem Sound.comesTo_of_bound (sound : Sound Runner.IsSound session known) (call : Nat)
    (execution : Execution τ α) (held : session.calls[call]? = some execution)
    (resting : execution.Resting) (phase : WaitPhase)
    (bound : execution.Bound session.raised phase) :
    session.ComesTo call (.interrupted phase) := by
  intro now
  -- On the work that is left to the call: each of its steps takes some off.
  induction left : execution.workLeft using Nat.strongRecOn
    generalizing session execution known with
  | ind work ih =>
    cases returned : execution.result? with
    | some result =>
      refine ⟨[], session, [], execution, by simp, rfl, held, ?_⟩
      rcases bound with decided | ⟨-, -, early, -⟩
      · rw [returned, Execution.result_of_failure _ decided result returned]
      · rw [(Execution.result?_eq_some_iff result).mp returned] at early
        cases early
    | none =>
      obtain ⟨runner, -, own⟩ := sound.calls call execution held
      obtain ⟨move, next, kind, moved, less, resting, bound⟩ :=
        own.step_of_bound resting phase bound returned now
      have stepped : session.step (.run call now move) = some ({ session with
          raised := next.raised, calls := session.calls.set call next.execution },
          next.notes.map (.ofCall call)) :=
        (run_eq_some_iff call now move).mpr ⟨execution, next, held, moved, rfl, rfl⟩
      have below := (List.getElem?_eq_some_iff.mp held).1
      obtain ⟨moves, last, told, done, kinds, ran, held', result⟩ :=
        ih next.execution.workLeft (left ▸ less) (sound.next stepped) next.execution
          (List.getElem?_set_self below) resting bound rfl
      refine ⟨move :: moves, last, next.notes.map (.ofCall call) ++ told, done, ?_, ?_, held',
        result⟩
      · intro further member
        rcases List.mem_cons.mp member with rfl | later
        · exact kind
        · exact kinds further later
      · exact (replay_cons_iff _ _ _ _ _).mpr ⟨_, _, told, stepped, ran, rfl⟩

/-- Every call of the session of a sound runner is one whose sleepers are where they belong. -/
theorem reached_resting (runner : Runner τ) (runs : runner.IsSound)
    (moves : List (SessionMove τ α))
    (ran : replay step (ofRunner runner) moves = some (session, notes)) (call : Nat)
    (execution : Execution τ α) (held : session.calls[call]? = some execution) :
    execution.Resting := by
  have initially (call : Nat) (execution : Execution τ α)
      (held : (ofRunner runner).calls[call]? = some execution) : execution.Resting := by
    cases held
  have both := replay_preserves (fun (state : Session τ α) told =>
      Sound Runner.IsSound state told ∧ ∀ (call : Nat) (execution : Execution τ α),
        state.calls[call]? = some execution → execution.Resting)
    (ofRunner runner) session moves [] notes ?_ ⟨ofRunner_sound runner runs, initially⟩ ran
  · exact both.2 call execution held
  · rintro state move next told new - ⟨sound, resting⟩ stepped
    exact ⟨sound.next stepped, sound.forall_calls Execution.Resting
      (fun _ _ _ => Execution.start_resting _ _ _)
      (fun _ _ _ _ _ resting transition => resting.step transition) resting stepped⟩

/-! ### The next call -/

/-- What can have come of a call that was still to see its workers ready when the flag was up: it is
turned away, or nothing has come of it and the flag is still up, or another call was the first to
take the flag down. -/
def Facing (call : Nat) (session : Session τ α) (seen : List FlagEvent) : Prop :=
  (∃ execution, session.calls[call]? = some execution ∧ execution.TurnedAway) ∨
  (session.raised = true ∧ seen.findSome? FlagEvent.call? = none ∧
    ∀ execution, session.calls[call]? = some execution →
      execution.caller.precedesStart = true) ∨
  ∃ first, seen.findSome? FlagEvent.call? = some first ∧ first ≠ call

/-- While the flag is up, a call that is still to see its workers ready is turned away, or it does
not look, and still is to see them. -/
theorem Sound.early (sound : Sound Runner.IsSound session known) (up : session.raised = true)
    (call : Nat) (early : ∀ execution, session.calls[call]? = some execution →
      execution.caller.precedesStart = true)
    (stepped : session.step move = some (after, notes)) :
    (∃ execution, after.calls[call]? = some execution ∧ execution.TurnedAway) ∨
      session.flagEvent? move ≠ some (.consumed call) ∧
        ∀ execution, after.calls[call]? = some execution →
          execution.caller.precedesStart = true := by
  have looks : session.flagEvent? move = some (.consumed call) ↔ ∃ now own execution,
      move = .run call now own ∧ session.calls[call]? = some execution ∧
        execution.consumes session.raised own = true := flagEvent?_eq_consumed_iff call
  cases before : session.calls[call]? with
  | none =>
    refine .inr ⟨?_, ?_⟩
    · intro look
      obtain ⟨_, _, _, -, held, -⟩ := looks.mp look
      cases before.symm.trans held
    · intro execution held
      obtain ⟨runner, now, -, holds, rfl⟩ := step_fresh call before execution held stepped
      rw [Execution.start_eq runner (sound.runner runner holds) now]
      rfl
  | some execution =>
    rcases step_call call execution before stepped with
      ⟨now, own, next, rfl, moved, held, -, -⟩ | ⟨foreign, held, -⟩
    · obtain ⟨_, -, runs⟩ := sound.calls call execution before
      have transition := runs.toSound.transition moved
      rw [up] at transition
      rcases transition.early (early execution before) with away | ⟨unseen, still⟩
      · exact .inl ⟨_, held, away⟩
      · refine .inr ⟨?_, ?_⟩
        · intro look
          obtain ⟨_, _, _, same, held', seen⟩ := looks.mp look
          cases same
          cases before.symm.trans held'
          rw [up, unseen] at seen
          cases seen
        · intro execution' held'
          cases held.symm.trans held'
          exact still
    · refine .inr ⟨?_, ?_⟩
      · intro look
        obtain ⟨now, own, _, same, -, -⟩ := looks.mp look
        exact foreign now own same
      · intro execution' held'
        cases held.symm.trans held'
        exact early execution before

/-- A call that is turned away stays so. -/
theorem Sound.turnedAway (sound : Sound Runner.IsSound session known) (call : Nat)
    (execution : Execution τ α) (held : session.calls[call]? = some execution)
    (away : execution.TurnedAway) (stepped : session.step move = some (after, notes)) :
    ∃ execution, after.calls[call]? = some execution ∧ execution.TurnedAway := by
  rcases step_call call execution held stepped with
    ⟨now, own, next, -, moved, held', -, -⟩ | ⟨-, held', -⟩
  · obtain ⟨_, -, runs⟩ := sound.calls call execution held
    exact ⟨_, held', (runs.toSound.transition moved).turnedAway away⟩
  · exact ⟨execution, held', away⟩

theorem Facing.step {seen : List FlagEvent} (call : Nat) (facing : Facing call session seen)
    (sound : Sound Runner.IsSound session known) (untaken : move ≠ .take)
    (stepped : session.step move = some (after, notes)) :
    Facing call after (seen ++ (session.flagEvent? move).toList) := by
  rcases facing with ⟨execution, held, away⟩ | ⟨up, unseen, early⟩ | ⟨first, taken, other⟩
  · exact .inl (sound.turnedAway call execution held away stepped)
  · rcases sound.early up call early stepped with away | ⟨notOwn, early⟩
    · exact .inl away
    · rcases sound.flag_cases untaken stepped with ⟨silent, same, -⟩ | ⟨raise, raised, -⟩ |
        ⟨other, look, -⟩
      · refine .inr (.inl ⟨same.trans up, ?_, early⟩)
        rw [silent, Option.toList_none, List.append_nil, unseen]
      · refine .inr (.inl ⟨raised, ?_, early⟩)
        rw [raise, List.findSome?_append, unseen]
        rfl
      · refine .inr (.inr ⟨other, ?_, ?_⟩)
        · rw [look, List.findSome?_append, unseen]
          rfl
        · rintro rfl
          exact notOwn look
  · refine .inr (.inr ⟨first, ?_, other⟩)
    rw [List.findSome?_append, taken]
    rfl

/-- If no other call is the first to take the flag down, the call is turned away. -/
theorem Sound.turnedAway_of_first (sound : Sound Runner.IsSound session known)
    (up : session.raised = true) (call : Nat)
    (early : ∀ execution, session.calls[call]? = some execution →
      execution.caller.precedesStart = true)
    (later : List (SessionMove τ α)) (untaken : ∀ move ∈ later, move ≠ .take)
    (ran : replay Session.step session later = some (after, notes))
    (firstOwn : ∀ first, (session.flagEvents later).findSome? FlagEvent.call? = some first →
      first = call)
    (execution : Execution τ α) (held : after.calls[call]? = some execution)
    (result : Except RunError (ResultSet α)) (returned : execution.result? = some result) :
    result = .error (.interrupted .readiness) ∨ ∃ fault, result = .error (.spawn fault) := by
  have both := observed_preserves flagEvent?
    (fun (state : Session τ α) seen =>
      (∃ known, Sound Runner.IsSound state known) ∧ Facing call state seen)
    session after later [] notes ?_ ⟨⟨known, sound⟩, .inr (.inl ⟨up, rfl, early⟩)⟩ ran
  · rcases both.2 with ⟨execution', held', away⟩ | ⟨-, -, still⟩ | ⟨first, taken, other⟩
    · cases held.symm.trans held'
      exact Execution.result_of_turnedAway away result returned
    · have before := still execution held
      rw [(Execution.result?_eq_some_iff result).mp returned] at before
      cases before
    · exact absurd (firstOwn first taken) other
  · rintro state move next seen told member ⟨⟨known, sound⟩, facing⟩ stepped
    exact ⟨⟨_, sound.next stepped⟩, facing.step call sound (untaken move member) stepped⟩

/-! ### All raises are answered -/

/-- What becomes of the raises in a history of a runner's session. -/
structure AnswersRaises (runner : Runner τ) (moves : List (SessionMove τ α))
    (session : Session τ α) : Prop where
  /-- The flag is up just if it was raised after it was taken down the last time. -/
  flag : session.raised = true ↔ ∃ before after,
    (ofRunner runner).flagEvents moves = before ++ .raised :: after ∧
      ∀ call, .consumed call ∉ after
  /-- A call takes the flag down once at most, and if it does, it comes to return an interrupt. -/
  consumed : ∀ call, .consumed call ∈ (ofRunner runner).flagEvents moves →
    ((ofRunner runner).flagEvents moves).count (.consumed call) = 1 ∧
      ∃ phase, session.ComesTo call (.interrupted phase)
  /-- What a call returns tells whether it took the flag down. -/
  returned : ∀ (call : Nat) (execution : Execution τ α) (result : Except RunError (ResultSet α)),
    session.calls[call]? = some execution → execution.result? = some result →
    (((ofRunner runner).flagEvents moves).count (.consumed call) = 1 ∧
      ∃ phase, result = .error (.interrupted phase)) ∨
    (((ofRunner runner).flagEvents moves).count (.consumed call) = 0 ∧
      ((∃ results, result = .ok results) ∨ ∃ fault, result = .error (.spawn fault)))
  /-- There are no more interrupted calls than raises. -/
  few : session.calls.countP Execution.isInterrupted ≤ moves.countP SessionMove.isRaise
  /-- After a raise, a call has taken the flag down since and comes to return an interrupt, or the
  flag is still up. -/
  pending : ∀ early late middle told, moves = early ++ .raise :: late →
    replay step (ofRunner runner) (early ++ [.raise]) = some (middle, told) →
    (∃ call phase, .consumed call ∈ middle.flagEvents late ∧
      session.ComesTo call (.interrupted phase)) ∨ session.raised = true
  /-- While the flag is up, a call that is still to see its workers ready comes to return that it
  was interrupted before the start, unless it was refused a thread or another call takes the flag
  down before. -/
  next : session.raised = true → ∀ call,
    (∀ execution, session.calls[call]? = some execution →
      execution.caller.precedesStart = true) →
    (∀ execution, session.calls[call]? = some execution →
      ¬ execution.pool.stage.Retreats → session.ComesTo call (.interrupted .readiness)) ∧
    ∀ later last told, (∀ move ∈ later, move ≠ .take) →
      replay step session later = some (last, told) →
      (∀ first, (session.flagEvents later).findSome? FlagEvent.call? = some first →
        first = call) →
      ∀ (execution : Execution τ α) (result : Except RunError (ResultSet α)),
        last.calls[call]? = some execution → execution.result? = some result →
        result = .error (.interrupted .readiness) ∨ ∃ fault, result = .error (.spawn fault)

/-- The last event is a raise just if there is a raise after which the flag was not taken down. -/
theorem getLast?_eq_raised_iff (events : List FlagEvent) :
    events.getLast? = some .raised ↔ ∃ before after, events = before ++ .raised :: after ∧
      ∀ call, .consumed call ∉ after := by
  constructor
  · intro last
    obtain ⟨before, rfl⟩ := List.getLast?_eq_some_iff.mp last
    exact ⟨before, [], rfl, by simp⟩
  · rintro ⟨before, after, rfl, unconsumed⟩
    rw [List.getLast?_append_of_ne_nil _ (List.cons_ne_nil _ _), List.getLast?_cons]
    cases last : after.getLast? with
    | none => rfl
    | some event =>
      have member := List.mem_of_getLast? last
      cases event with
      | raised => rfl
      | consumed call => exact absurd member (unconsumed call)

theorem cuts_eq_some_iff (call : Nat) (cut : Bool) : session.cuts[call]? = some cut ↔
    ∃ execution, session.calls[call]? = some execution ∧ execution.caller.isCut = cut := by
  rw [cuts, List.getElem?_map, Option.map_eq_some_iff]

theorem Tallied.few_interrupted {events : List FlagEvent} (tallied : session.Tallied events) :
    session.calls.countP Execution.isInterrupted ≤ events.count .raised := by
  have fewer : session.calls.countP Execution.isInterrupted ≤ session.cuts.count true := by
    simp only [cuts, List.count_eq_countP, List.countP_map]
    apply List.countP_mono_left
    rintro execution - interrupted
    simpa using Execution.isCut_of_isInterrupted interrupted
  have total := tallied.total
  have few := tallied.few
  omega

/-- Whatever is raised in the session of a built runner is answered, as long as nobody else takes
the flag down. -/
theorem answers_raises (runner : Runner τ) (runs : runner.IsSound)
    (moves : List (SessionMove τ α)) (untaken : ∀ move ∈ moves, move ≠ .take)
    (ran : replay step (ofRunner runner) moves = some (session, notes)) :
    AnswersRaises runner moves session := by
  have sound := reached_sound runner runs moves ran
  have tallied := tallied_of_replay runner runs moves untaken ran
  have resting := reached_resting runner runs moves ran
  have flag := tallied.raised.trans (getLast?_eq_raised_iff _)
  have answered (call : Nat) (taken : .consumed call ∈ (ofRunner runner).flagEvents moves) :
      ((ofRunner runner).flagEvents moves).count (.consumed call) = 1 ∧
        ∃ phase, session.ComesTo call (.interrupted phase) := by
    -- A call in the history of the flag has decided to return an interrupt, or it would count none.
    have some := List.count_pos_iff.mpr taken
    have each := tallied.each call
    split at each
    next cut =>
      obtain ⟨execution, held, cut⟩ := (cuts_eq_some_iff call true).mp cut
      obtain ⟨phase, decided⟩ := Execution.isCut_iff.mp cut
      exact ⟨each, phase, sound.comesTo_of_bound call execution held
        (resting call execution held) phase (.inl decided)⟩
    · omega
  refine ⟨flag, answered, ?_, ?_, ?_, ?_⟩
  · intro call execution result held returned
    obtain ⟨_, -, runs⟩ := sound.calls call execution held
    have told := Execution.isCut_of_result result returned
    have each := tallied.each call
    cases cut : execution.caller.isCut with
    | true =>
      rw [if_pos ((cuts_eq_some_iff call true).mpr ⟨execution, held, cut⟩)] at each
      exact .inl ⟨each, told.mp cut⟩
    | false =>
      rw [(cuts_eq_some_iff call false).mpr ⟨execution, held, cut⟩, if_neg (by simp)] at each
      refine .inr ⟨each, ?_⟩
      rcases runs.result_cases result returned with ok | completion | readiness | refused
      · exact .inl ok
      · rw [told.mpr ⟨_, completion⟩] at cut
        cases cut
      · rw [told.mpr ⟨_, readiness⟩] at cut
        cases cut
      · exact .inr refused
  · rw [← count_raised moves ran]
    exact tallied.few_interrupted
  · rintro early late middle told rfl reached
    -- The raise is an event of its own between those before it and those after it.
    have parts : (ofRunner runner).flagEvents (early ++ .raise :: late) =
        (ofRunner runner).flagEvents early ++ .raised :: middle.flagEvents late := by
      obtain ⟨before, first, second, ran, raised, -⟩ :=
        (replay_append_iff _ middle early [.raise] told).mp reached
      cases raised
      rw [flagEvents, observed_append _ before early _ first ran]
      exact congrArg _ (observed_cons before _ .raise late [] rfl)
    by_cases taken : ∃ call, .consumed call ∈ middle.flagEvents late
    · obtain ⟨call, taken⟩ := taken
      obtain ⟨-, phase, comes⟩ := answered call (by simp [parts, taken])
      exact .inl ⟨call, phase, taken, comes⟩
    -- Nobody took the flag down since, so it is the raise that it is up from.
    · exact .inr (flag.mpr ⟨_, _, parts, not_exists.mp taken⟩)
  · intro up call early
    refine ⟨?_, ?_⟩
    · intro execution held stage
      exact sound.comesTo_of_bound call execution held (resting call execution held) .readiness
        (.inr ⟨rfl, up, early execution held, stage⟩)
    · intro later last told kept ran firstOwn execution result held returned
      exact sound.turnedAway_of_first up call early later kept ran firstOwn execution held result
        returned

end Session

end GatedRun
