import GatedRun.Proofs.Execution.Recording
import GatedRun.Proofs.Runner

/-!
# Every execution is sound

An execution of a sound runner begins sound, every turn keeps it sound, and so it is sound in every
state that it reaches, whatever flag and time its turns find. It never touches the tasks and the
configuration that it was begun with.
-/

namespace GatedRun

variable {τ α : Type}

namespace Execution

variable {execution : Execution τ α} {notes : List (RunNote τ α)} {raised : Bool} {now : Instant}
  {move : RunMove α} {next : Stepped τ α}

/-! ### The beginning -/

theorem start_eq (runner : Runner τ) (sound : runner.IsSound) (now : Instant) :
    start (α := α) runner.tasks runner.config now =
      (unstarted runner.tasks runner.config now .launching,
        [.logged .owner (.runStarting runner.tasks.length runner.poolSize)]) := by
  have some : 0 < runner.config.poolSize runner.tasks.length :=
    runner.config.poolSize_pos _ sound.config sound.taskCount_pos
  simp only [start, Pool.create, sound.config, if_neg (Nat.ne_of_gt some)]
  rfl

private theorem join_replicate_none {β : Type} (size index : Nat) :
    (List.replicate size (none : Option β))[index]?.join = none := by
  cases found : (List.replicate size (none : Option β))[index]? with
  | none => rfl
  | some slot => exact List.eq_of_mem_replicate (List.mem_of_getElem? found)

private theorem vacant_empty (size index : Nat) : (Slots.empty (α := α) size).IsVacant index :=
  ⟨join_replicate_none size index, join_replicate_none size index⟩

theorem start_sound (runner : Runner τ) (sound : runner.IsSound) (now : Instant) :
    (start (α := α) runner.tasks runner.config now).1.Sound
      (start runner.tasks runner.config now).2 := by
  have some : 0 < runner.config.poolSize runner.tasks.length :=
    runner.config.poolSize_pos _ sound.config sound.taskCount_pos
  rw [start_eq runner sound now]
  -- No worker is there yet, so no job is under way.
  have idle (worker : Nat) (phase : WorkerPhase (RunJob τ α)) :
      (unstarted (α := α) runner.tasks runner.config now .launching).pool.workers[worker]? ≠
        Option.some phase := by
    simp [unstarted, Pool.unstarted]
  refine ⟨?_, fun worker phase held => absurd held (idle worker phase), ?_, ?_, ?_⟩
  · exact {
      positive := some
      bounded := runner.config.poolSize_le _
      width := rfl
      named := rfl
      manned := some
      joined := fun worker below => absurd below (Nat.not_lt_zero worker)
      placed := {
        gate := rfl
        stage := by simp [CallerPhase.Admits, unstarted, Pool.unstarted]
        foreseen := trivial
        submitted := ⟨rfl, rfl⟩
        ready := (absurd · Bool.false_ne_true)
        done := (absurd · Bool.false_ne_true)
        joined := (absurd · Bool.false_ne_true) } }
  · exact ⟨rfl, List.forall_mem_nil _, rfl⟩
  · exact ⟨fun _ => List.forall_mem_nil _, fun _ => rfl, fun _ => rfl, fun _ => rfl⟩
  · exact {
      sizes := ⟨List.length_replicate, List.length_replicate⟩
      waiting := fun index _ => ⟨rfl, vacant_empty _ index⟩
      underway := fun worker job held => absurd held (idle worker _)
      ended := fun index below => absurd below (Nat.not_lt_zero index)
      figures := fun results delivered => by cases delivered }

/-! ### Steps -/

theorem Sound.transition (sound : execution.Sound notes)
    (stepped : execution.step raised now move = some next) :
    execution.Transition raised now move next :=
  sound.staged.transition sound.crewed move stepped

theorem Sound.step (sound : execution.Sound notes)
    (stepped : execution.step raised now move = some next) :
    next.execution.Sound (notes ++ next.notes) := by
  have transition := sound.transition stepped
  obtain ⟨staged, crewed, queued, counted, recorded⟩ := sound
  refine ⟨staged.step transition, ?_, ?_, ?_, ?_⟩
  · rw [takes_append]
    exact crewed.step staged queued transition
  · rw [takes_append]
    exact queued.step staged transition
  · rw [takes_append]
    exact counted.step staged crewed queued transition
  · exact recorded.step staged crewed queued counted transition

/-! ### Runs -/

/-- The execution was begun with the runner, and is sound. -/
structure SoundFor (runner : Runner τ) (execution : Execution τ α) (notes : List (RunNote τ α)) :
    Prop extends Sound execution notes where
  tasks : execution.tasks = runner.tasks
  config : execution.config = runner.config

theorem SoundFor.poolSize {runner : Runner τ} (sound : SoundFor runner execution notes) :
    execution.poolSize = runner.poolSize := by
  rw [Execution.poolSize, Runner.poolSize, Runner.taskCount, sound.tasks, sound.config]

theorem SoundFor.taskCount {runner : Runner τ} (sound : SoundFor runner execution notes) :
    execution.taskCount = runner.taskCount := by
  rw [Execution.taskCount, Runner.taskCount, sound.tasks]

theorem start_soundFor (runner : Runner τ) (sound : runner.IsSound) (now : Instant) :
    SoundFor (α := α) runner (start runner.tasks runner.config now).1
      (start runner.tasks runner.config now).2 := by
  refine ⟨start_sound runner sound now, ?_, ?_⟩
  · rw [start_eq runner sound now]
    rfl
  · rw [start_eq runner sound now]
    rfl

theorem SoundFor.step {runner : Runner τ} (sound : SoundFor runner execution notes)
    (stepped : execution.step raised now move = some next) :
    SoundFor runner next.execution (notes ++ next.notes) := by
  have fixed := (sound.toSound.transition stepped).fixed
  exact ⟨sound.toSound.step stepped, fixed.tasks.trans sound.tasks,
    fixed.config.trans sound.config⟩

theorem SoundFor.replay {runner : Runner τ} (sound : SoundFor runner execution notes)
    (turns : List (Turn α)) (last : Execution τ α) (more : List (RunNote τ α))
    (ran : GatedRun.replay advance execution turns = some (last, more)) :
    SoundFor runner last (notes ++ more) := by
  refine replay_preserves (SoundFor runner) execution last turns notes more ?_ sound ran
  intro state turn after known told _ sound advanced
  obtain ⟨next, stepped, same⟩ := Option.map_eq_some_iff.mp advanced
  cases same
  exact sound.step stepped

/-- What every step of a sound execution keeps, the rest of its run keeps. -/
theorem SoundFor.replay_keeps {runner : Runner τ}
    (Holds : Execution τ α → List (RunNote τ α) → Prop)
    (kept : ∀ (state : Execution τ α) (told : List (RunNote τ α)) (raised : Bool) (now : Instant)
      (move : RunMove α) (next : Stepped τ α), SoundFor runner state told → Holds state told →
      state.Transition raised now move next → Holds next.execution (told ++ next.notes))
    (sound : SoundFor runner execution notes) (initially : Holds execution notes)
    (turns : List (Turn α)) (last : Execution τ α) (more : List (RunNote τ α))
    (ran : GatedRun.replay advance execution turns = some (last, more)) :
    Holds last (notes ++ more) := by
  have both := replay_preserves (fun state told => SoundFor runner state told ∧ Holds state told)
    execution last turns notes more ?_ ⟨sound, initially⟩ ran
  · exact both.2
  · rintro state turn after known told - ⟨sound, holds⟩ advanced
    obtain ⟨next, stepped, same⟩ := Option.map_eq_some_iff.mp advanced
    cases same
    exact ⟨sound.step stepped,
      kept state known _ _ _ next sound holds (sound.toSound.transition stepped)⟩

/-- Every state that an execution of a sound runner reaches is sound. -/
theorem Reaches.sound {runner : Runner τ} (sound : runner.IsSound)
    (reached : Reaches runner.tasks runner.config execution notes) :
    SoundFor runner execution notes := by
  obtain ⟨now, turns, more, ran, rfl⟩ := reached
  exact (start_soundFor runner sound now).replay turns execution more ran

end Execution

end GatedRun
