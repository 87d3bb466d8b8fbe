import GatedRun.Proofs.Session.Delivery
import Mathlib.Data.List.ProdSigma

/-!
# All or nothing, call by call

A call whose workers are all over has called every body once or none at all, and its result says
which. Calls do not meddle with each other: a worker that an interrupted call let go works on in the
state of its own call alone. So over a whole session of one runner, however its calls overlap, the
bodies called are each task of each call that carried its tasks out, once (`all_or_nothing`).
-/

namespace GatedRun

variable {τ α : Type}

/-! ### What a session called -/

def BodyEvent.isCall : BodyEvent τ α → Bool
  | .called _ _ => true
  | .ended _ _ => false

def SessionNote.called? : SessionNote τ α → Option (Nat × Nat)
  | .ofCall call (.bodyCalled _ index _) => some (call, index)
  | _ => none

/-- All bodies that a session called, in order, each with its call and its index. -/
def bodyCalls (notes : List (SessionNote τ α)) : List (Nat × Nat) :=
  notes.filterMap SessionNote.called?

/-- A session calls a body as often as the notes of its call say. -/
theorem count_bodyCalls (call index : Nat) (notes : List (SessionNote τ α)) :
    (bodyCalls notes).count (call, index) =
      (bodyEvents index (callNotes call notes)).countP BodyEvent.isCall := by
  induction notes with
  | nil => rfl
  | cons note notes ih =>
    rw [bodyCalls, filterMap_cons_toList, ← bodyCalls, callNotes_cons, List.count_append,
      bodyEvents_append, List.countP_append, ih]
    congr 1
    cases note with
    | refused error => rfl
    | ofCall other own =>
      by_cases same : other = call
      · subst same
        cases own with
        | bodyCalled worker place task =>
          by_cases here : place = index
          · subst here
            simp [SessionNote.called?, BodyEvent.isCall]
          · simp [SessionNote.called?, here]
        | bodyEnded worker place result =>
          by_cases here : place = index <;>
            simp [SessionNote.called?, here, BodyEvent.isCall]
        | _ => simp [SessionNote.called?]
      · cases own <;> simp [SessionNote.called?, same]

/-! ### All or nothing -/

namespace Execution

variable {execution : Execution τ α} {notes : List (RunNote τ α)}

/-- Whether the run called its bodies, by its result: it handed results over, or its wait for them
was cut short. -/
def carriedOut (execution : Execution τ α) : Bool :=
  match execution.result? with
  | some (.ok _) | some (.error (.interrupted .completion)) => true
  | _ => false

theorem Sound.opened_of_carriedOut (sound : execution.Sound notes)
    (carried : execution.carriedOut = true) : execution.gate.state = .opened := by
  unfold carriedOut at carried
  split at carried
  next results returned => exact sound.gate_of_result _ returned
  next returned => exact sound.gate_of_result _ returned
  · cases carried

theorem Sound.shut_of_failed (sound : execution.Sound notes)
    (returned : execution.result?.isSome = true) (failed : execution.carriedOut = false) :
    execution.gate.state ≠ .opened := by
  obtain ⟨result, returned⟩ := Option.isSome_iff_exists.mp returned
  rw [sound.gate_of_result result returned]
  unfold carriedOut at failed
  rw [returned] at failed
  rcases sound.result_cases result returned with ⟨results, rfl⟩ | rfl | rfl | ⟨fault, rfl⟩
  · cases failed
  · cases failed
  · simp [CallerPhase.gate]
  · simp [CallerPhase.gate]

/-- Once all is quiet, a body of a run that carried its tasks out was called once, and one of any
other run never. -/
theorem Sound.count_calls (sound : execution.Sound notes) (quiet : execution.isQuiet = true)
    (index : Nat) : (bodyEvents index notes).countP BodyEvent.isCall =
      if execution.carriedOut = true ∧ index < execution.taskCount then 1 else 0 := by
  obtain ⟨returned, still⟩ := Bool.and_eq_true_iff.mp quiet
  by_cases carried : execution.carriedOut = true
  · have opened := sound.opened_of_carriedOut carried
    by_cases below : index < execution.taskCount
    · obtain ⟨worker, task, _, result, -, -, events, -⟩ := sound.filed opened still index below
      rw [events, if_pos ⟨carried, below⟩]
      rfl
    · rw [sound.no_events_above index (Nat.not_lt.mp below), if_neg fun both => below both.2]
      rfl
  · have failed : execution.carriedOut = false := by simpa using carried
    rw [sound.ranNone (sound.shut_of_failed returned failed) index,
      if_neg fun both => carried both.1]
    rfl

end Execution

namespace SessionMove

/-- Whether the step leaves the runner to those who run it. -/
def keepsRunner : SessionMove τ α → Bool
  | .extend _ | .drop => false
  | _ => true

end SessionMove

namespace Session

variable {session after : Session τ α} {notes known : List (SessionNote τ α)}
  {move : SessionMove τ α}

theorem step_runner (keeps : move.keepsRunner = true)
    (stepped : session.step move = some (after, notes)) : after.runner = session.runner := by
  cases move with
  | extend extension | drop => cases keeps
  | begin now =>
    obtain ⟨runner, -, rfl, -⟩ := (begin_eq_some_iff now).mp stepped
    rfl
  | run call now own =>
    obtain ⟨execution, next, -, -, rfl, -⟩ := (run_eq_some_iff call now own).mp stepped
    rfl
  | raise | take =>
    cases stepped
    rfl

theorem run_other (call other : Nat) (apart : call ≠ other) (now : Instant) (own : RunMove α)
    (stepped : session.step (.run other now own) = some (after, notes)) :
    after.calls[call]? = session.calls[call]? ∧ callNotes call notes = [] := by
  obtain ⟨execution, next, -, -, rfl, rfl⟩ := (run_eq_some_iff other now own).mp stepped
  exact ⟨List.getElem?_set_ne (Ne.symm apart), callNotes_other call other (Ne.symm apart) _⟩

/-- The bodies that a quiet session of one runner called, in some order. -/
theorem Sound.bodyCalls_perm (runner : Runner τ) (sound : Sound (· = runner) session known)
    (quiet : session.isQuiet = true) : (bodyCalls known).Perm
      (session.calls.findIdxs Execution.carriedOut ×ˢ List.range runner.taskCount) := by
  -- Each body is counted by itself: once on both sides, or not at all.
  apply List.perm_iff_count.mpr
  rintro ⟨call, index⟩
  have distinct : (session.calls.findIdxs Execution.carriedOut ×ˢ
      List.range runner.taskCount).Nodup :=
    List.Nodup.product List.nodup_findIdxs List.nodup_range
  rw [count_bodyCalls, distinct.count]
  simp only [List.mem_product, List.mem_range, List.mem_findIdxs_iff_exists_getElem_pos]
  by_cases begun : call < session.calls.length
  · have held := List.getElem?_eq_getElem begun
    obtain ⟨_, rfl, own⟩ := sound.calls call _ held
    have still := List.all_eq_true.mp quiet _ (List.mem_of_getElem? held)
    rw [own.count_calls still index, own.taskCount]
    simp [begun]
  · rw [sound.fresh call (Nat.not_lt.mp begun)]
    simp [begun]

theorem outcome_own (runner : Runner τ) (call : Nat) (execution : Execution τ α)
    (sound : execution.SoundFor runner (callNotes call notes)) (results : ResultSet α)
    (returned : execution.result? = some (.ok results)) (index : Nat) (outcome : Outcome α)
    (has : results.outcomes[index]? = some outcome) : ∃ worker task result,
      .ofCall call (.bodyCalled worker index task) ∈ notes ∧
      .ofCall call (.bodyEnded worker index result) ∈ notes ∧
      outcome = Outcome.capture index result := by
  have length := (sound.delivered_figures results returned).2.1
  have below : index < runner.taskCount := length ▸ (List.getElem?_eq_some_iff.mp has).1
  obtain ⟨task, some⟩ : ∃ task, runner.tasks[index]? = some task :=
    ⟨_, List.getElem?_eq_getElem below⟩
  obtain ⟨worker, result, _, -, events, outcome', -⟩ :=
    sound.delivered results returned index task some
  refine ⟨worker, task, result, ?_, ?_, Option.some.inj (has.symm.trans outcome')⟩
  · rw [← mem_callNotes, ← called_mem_bodyEvents, events]
    exact List.mem_cons_self
  · rw [← mem_callNotes, ← ended_mem_bodyEvents, events]
    exact List.mem_cons_of_mem _ List.mem_cons_self

/-- Whatever the calls of a runner do to each other's timing, each runs all of its tasks or none,
as its result says; what it hands over is its own; and the runner stays as it is. -/
theorem all_or_nothing (opening : Opening τ) (extensions : List (Extension τ))
    {interrupt : Interrupt} (runner : Runner τ)
    (built : Runner.build opening extensions interrupt = .ok runner)
    (moves : List (SessionMove τ α)) (keeps : ∀ move ∈ moves, move.keepsRunner = true)
    (session : Session τ α) (notes : List (SessionNote τ α))
    (ran : replay step (ofRunner runner) moves = some (session, notes)) :
    session.runner = some runner ∧
    (∀ (call : Nat) (execution : Execution τ α), session.calls[call]? = some execution →
      (∀ result, execution.result? = some result → (∃ results, result = .ok results) ∨
        result = .error (.interrupted .completion) ∨ result = .error (.interrupted .readiness) ∨
        ∃ fault, result = .error (.spawn fault)) ∧
      (execution.pool.isQuiet = true → (∃ results, execution.result? = some (.ok results)) ∨
          execution.result? = some (.error (.interrupted .completion)) →
        ∀ (index : Nat) (task : τ), runner.tasks[index]? = some task → ∃ worker result,
          bodyEvents index (callNotes call notes) =
            [.called worker task, .ended worker result]) ∧
      (execution.result? = some (.error (.interrupted .readiness)) ∨
          (∃ fault, execution.result? = some (.error (.spawn fault))) →
        ∀ index, bodyEvents index (callNotes call notes) = []) ∧
      (∀ results, execution.result? = some (.ok results) →
        ∀ (index : Nat) (outcome : Outcome α), results.outcomes[index]? = some outcome →
          ∃ worker task result, .ofCall call (.bodyCalled worker index task) ∈ notes ∧
            .ofCall call (.bodyEnded worker index result) ∈ notes ∧
            outcome = Outcome.capture index result)) ∧
    (∀ (state next : Session τ α) (told : List (SessionNote τ α)) (other : Nat) (now : Instant)
      (own : RunMove α), state.step (.run other now own) = some (next, told) →
      ∀ call, call ≠ other →
        next.calls[call]? = state.calls[call]? ∧ callNotes call told = []) ∧
    (session.isQuiet = true → (bodyCalls notes).Perm
        (session.calls.findIdxs Execution.carriedOut ×ˢ List.range runner.taskCount) ∧
      (bodyCalls notes).length =
        runner.taskCount * session.calls.countP Execution.carriedOut) := by
  have runs : ∀ other, other = runner → other.IsSound := by
    rintro _ rfl
    exact Runner.build_sound opening extensions _ built
  obtain ⟨holds, sound⟩ :
      session.runner = some runner ∧ Sound (· = runner) session ([] ++ notes) := by
    -- No step of such a session changes the runner, so all calls are calls of the same one.
    refine replay_preserves
      (fun (state : Session τ α) told => state.runner = some runner ∧ Sound (· = runner) state told)
      (ofRunner runner) session moves [] notes ?_ ⟨rfl, ofRunner_sound runner rfl⟩ ran
    rintro state move next told new member ⟨holds, sound⟩ stepped
    have keeps := keeps move member
    refine ⟨(step_runner keeps stepped).trans holds, sound.step runs ?_ stepped⟩
    rintro _ extension extended rfl
    cases keeps
  rw [List.nil_append] at sound
  refine ⟨holds, ?_, ?_, ?_⟩
  · intro call execution held
    obtain ⟨_, rfl, own⟩ := sound.calls call execution held
    refine ⟨?_, ?_, ?_, ?_⟩
    · intro result returned
      rcases own.result_cases result returned with ok | completion | readiness | refused
      · exact .inl ok
      · exact .inr (.inl completion)
      · exact .inr (.inr (.inl readiness))
      · exact .inr (.inr (.inr refused))
    · intro quiet carried index task has
      have opened : execution.gate.state = .opened := by
        rcases carried with ⟨results, returned⟩ | returned
        · exact own.gate_of_result _ returned
        · exact own.gate_of_result _ returned
      rw [← own.tasks] at has
      obtain ⟨worker, result, -, events⟩ := own.ranAll opened quiet index task has
      exact ⟨worker, result, events⟩
    -- A call that failed has never opened its gate.
    · intro failed
      apply own.ranNone
      rcases failed with returned | ⟨fault, returned⟩
      · rw [own.gate_of_result _ returned]
        simp [CallerPhase.gate]
      · rw [own.gate_of_result _ returned]
        simp [CallerPhase.gate]
    · intro results returned index outcome has
      exact outcome_own _ call execution own results returned index outcome has
  · intro state next told other now own stepped call apart
    exact run_other call other apart now own stepped
  · intro quiet
    have called := sound.bodyCalls_perm runner quiet
    refine ⟨called, ?_⟩
    rw [called.length_eq, List.length_product, List.length_findIdxs, List.length_range,
      Nat.mul_comm]

def soloRunner : Runner Nat := { tasks := [3], interrupt := ⟨0⟩ }

/-- The one worker of a run comes to the gate, and is in its body once the gate is open. -/
def soloOpening : List (RunMove Nat) :=
  List.flatten [List.replicate 5 (.call .given), List.replicate 3 (.work 0),
    [.call .given, .call .given, .work 0]]

/-- A call is interrupted and lets its worker go, which ends its body after the next call has
returned its results. -/
def soloMoves : List (SessionMove Nat Nat) :=
  List.flatten [[.begin 1], soloOpening.map (.run 0 2),
    [.raise, .run 0 3 (.call .given), .run 0 3 (.call .given), .begin 4],
    soloOpening.map (.run 1 5), [.run 1 6 (.bodyEnds 0 (.returned 5))],
    List.replicate 2 (.run 1 7 (.work 0)), List.replicate 2 (.run 1 7 (.call .given)),
    List.replicate 5 (.run 1 7 (.work 0)), List.replicate 2 (.run 1 7 (.call .given)),
    [.run 0 8 (.bodyEnds 0 (.returned 4))], List.replicate 7 (.run 0 8 (.work 0))]

theorem all_or_nothing_solo : ∃ session notes,
    replay step (ofRunner soloRunner) soloMoves = some (session, notes) ∧
    session.isQuiet = true ∧ session.calls.countP Execution.carriedOut = 2 ∧
    (bodyCalls notes).length = 2 := by
  have shown : (replay step (ofRunner soloRunner) soloMoves).map
      (fun last => (last.1.isQuiet, last.1.calls.countP Execution.carriedOut)) =
        some (true, 2) := rfl
  obtain ⟨⟨session, notes⟩, ran, figures⟩ := Option.map_eq_some_iff.mp shown
  obtain ⟨quiet, carried⟩ := Prod.mk.inj figures
  obtain ⟨-, -, -, counted⟩ :=
    all_or_nothing (.task 3) [] soloRunner rfl soloMoves (by decide) session notes ran
  refine ⟨session, notes, ran, quiet, carried, ?_⟩
  rw [(counted quiet).2, carried]
  rfl

end Session

end GatedRun
