import GatedRun.Proofs.Execution.Invariant
import Mathlib.Data.List.Nodup

/-!
# Who sleeps at the gate

A worker that sleeps at the gate is one whose job is there, it is listed once, and behind a settled
gate nobody sleeps. So settling the gate leaves no job behind: whoever is at a settled gate can go
on.
-/

namespace GatedRun

variable {τ α : Type}

namespace Execution

variable {execution after : Execution τ α} {notes : List (RunNote τ α)} {raised : Bool}
  {now : Instant} {move : RunMove α} {next : Stepped τ α}

/-- The sleepers at the gate are workers whose jobs are at it, and a settled gate has none. -/
structure Resting (execution : Execution τ α) : Prop where
  nodup : execution.gate.asleep.Nodup
  atGate : ∀ worker ∈ execution.gate.asleep, ∃ index task,
    execution.pool.workers[worker]? = some (.running ⟨index, task, .atGate⟩)
  settled : execution.gate.state ≠ .closed → execution.gate.asleep = []

theorem isAsleep_iff (worker : Nat) :
    execution.gate.isAsleep worker = true ↔ worker ∈ execution.gate.asleep := by
  rw [Sync.Gate.isAsleep, List.contains_iff_mem]

theorem isAsleep_eq_false_iff (worker : Nat) :
    execution.gate.isAsleep worker = false ↔ worker ∉ execution.gate.asleep := by
  rw [← isAsleep_iff, Bool.not_eq_true]

/-- No more workers sleep than there are. -/
theorem Resting.length_le (resting : execution.Resting) :
    execution.gate.asleep.length ≤ execution.pool.workers.length := by
  apply length_le_of_places _ _ resting.nodup
  intro worker member
  obtain ⟨index, task, held⟩ := resting.atGate worker member
  exact ⟨_, held⟩

/-- A worker that is not at the gate does not sleep there. -/
theorem Resting.awake (resting : execution.Resting) (worker : Nat)
    (phase : WorkerPhase (RunJob τ α)) (held : execution.pool.workers[worker]? = some phase)
    (elsewhere : ∀ index task, phase ≠ .running ⟨index, task, .atGate⟩) :
    worker ∉ execution.gate.asleep := by
  intro asleep
  obtain ⟨index, task, there⟩ := resting.atGate worker asleep
  exact elsewhere index task (Option.some.inj (held.symm.trans there))

private theorem Resting.transfer (resting : execution.Resting) (gate : after.gate = execution.gate)
    (workers : after.pool.workers = execution.pool.workers) : after.Resting := by
  refine ⟨?_, ?_, ?_⟩
  · rw [gate]
    exact resting.nodup
  · rw [gate, workers]
    exact resting.atGate
  · rw [gate]
    exact resting.settled

private theorem Resting.set (resting : execution.Resting) (worker : Nat)
    (phase : WorkerPhase (RunJob τ α)) (awake : worker ∉ execution.gate.asleep)
    (gate : after.gate = execution.gate)
    (workers : after.pool.workers = execution.pool.workers.set worker phase) : after.Resting := by
  refine ⟨?_, ?_, ?_⟩
  · rw [gate]
    exact resting.nodup
  · intro other asleep
    rw [gate] at asleep
    have apart : worker ≠ other := by
      rintro rfl
      exact awake asleep
    rw [workers, List.getElem?_set_ne apart]
    exact resting.atGate other asleep
  · rw [gate]
    exact resting.settled

private theorem Resting.spawn (resting : execution.Resting) (gate : after.gate = execution.gate)
    (workers : after.pool.workers = execution.pool.workers ++ [.idle]) : after.Resting := by
  refine ⟨?_, ?_, ?_⟩
  · rw [gate]
    exact resting.nodup
  · intro worker asleep
    rw [gate] at asleep
    obtain ⟨index, task, held⟩ := resting.atGate worker asleep
    refine ⟨index, task, ?_⟩
    rw [workers, List.getElem?_append_left (List.getElem?_eq_some_iff.mp held).1, held]
  · rw [gate]
    exact resting.settled

theorem Resting.step (resting : execution.Resting)
    (transition : execution.Transition raised now move next) : next.execution.Resting := by
  cases transition with
  | spawned at_ stage more | poolOpened at_ stage last => exact resting.spawn rfl rfl
  | openedGate grant at_ | abandonedGate grant cause at_ =>
    exact ⟨List.nodup_nil, List.forall_mem_nil _, fun _ => rfl⟩
  | slept worker index task at_ awake gate =>
    rw [isAsleep_eq_false_iff] at awake
    refine ⟨resting.nodup.cons awake, ?_, fun settled => absurd gate settled⟩
    intro other asleep
    rcases List.mem_cons.mp asleep with rfl | asleep
    · exact ⟨index, task, at_⟩
    · exact resting.atGate other asleep
  | woke worker asleep =>
    refine ⟨resting.nodup.filter _, ?_, ?_⟩
    · intro other still
      exact resting.atGate other (List.mem_of_mem_filter still)
    · intro settled
      simp [Sync.Gate.wake, resting.settled settled]
  | called worker index task at_ awake gate | skipped worker index task at_ awake gate =>
    exact resting.set worker _ ((isAsleep_eq_false_iff worker).mp awake) rfl rfl
  | locked worker at_ | took worker job rest at_ | foundNone worker at_ | exited worker at_
  | reported worker at_ | arrived worker index task at_
  | bodyEnded worker index task since result at_ | filed worker index task since outcome at_
  | countedDone worker index task at_ | finished worker index task at_ =>
    exact resting.set worker _ (resting.awake worker _ at_ (by simp)) rfl rfl
  | _ => exact resting.transfer rfl rfl

theorem start_resting (tasks : List τ) (config : Config) (now : Instant) :
    (start (α := α) tasks config now).1.Resting :=
  ⟨List.nodup_nil, List.forall_mem_nil _, fun _ => rfl⟩

/-- Whoever is asleep in a state that a sound execution reaches is at the gate. -/
theorem SoundFor.resting_replay {runner : Runner τ} (sound : SoundFor runner execution notes)
    (resting : execution.Resting) (turns : List (Turn α)) (last : Execution τ α)
    (more : List (RunNote τ α))
    (ran : GatedRun.replay advance execution turns = some (last, more)) : last.Resting :=
  sound.replay_keeps (fun state _ => state.Resting)
    (fun _ _ _ _ _ _ _ resting transition => resting.step transition) resting turns last more ran

/-- Once the caller has returned and all workers are over, nothing happens any more. -/
theorem Resting.halted (resting : execution.Resting) (quiet : execution.isQuiet = true)
    (raised : Bool) (now : Instant) (move : RunMove α) :
    execution.step raised now move = none := by
  obtain ⟨returned, still⟩ := Bool.and_eq_true_iff.mp quiet
  have gone (worker : Nat) (phase : WorkerPhase (RunJob τ α))
      (held : execution.pool.workers[worker]? = some phase) : phase.isOver = true :=
    List.all_eq_true.mp still phase (List.mem_of_getElem? held)
  have free (worker : Nat) : execution.job? worker = none := by
    apply Option.eq_none_iff_forall_ne_some.mpr
    intro job runs
    have on := gone worker _ ((job?_eq_some_iff worker job).mp runs)
    cases on
  cases move with
  | call grant =>
    unfold result? at returned
    split at returned
    next result at_ => simp only [Execution.step, call, at_]
    · cases returned
  | work worker =>
    simp only [Execution.step, work, free worker, movePool, Pool.step, Pool.work]
    cases held : execution.pool.workers[worker]? with
    | none => rfl
    | some phase =>
      have done := gone worker phase held
      cases phase with
      | exited | dead => rfl
      | _ => cases done
  | bodyEnds worker result => simp only [Execution.step, bodyEnds, free worker]
  | wake worker =>
    have awake : execution.gate.isAsleep worker = false := by
      rw [isAsleep_eq_false_iff]
      intro asleep
      obtain ⟨index, task, held⟩ := resting.atGate worker asleep
      cases gone worker _ held
    simp [Execution.step, wake, awake]

end Execution

end GatedRun
