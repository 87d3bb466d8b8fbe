import GatedRun.Proofs.Pool.Completion

/-!
# The counters of a pool

A job is counted as submitted before it is sent, and as completed or panicked after it has ended. In
between it is somewhere: with the caller who submits it, in the queue, with a worker, or lost with
the queue when the last worker was killed. `counters_conserved` is the equation of all these places,
which holds in every state, however the steps of callers and workers interleave.
-/

namespace GatedRun

variable {J : Type}

namespace Pool

variable {pool next : Pool J} {move : PoolMove J} {notes told : List (PoolNote J)}

/-- Every job that was counted as submitted is in one place. -/
theorem Sound.submitted_eq (sound : pool.Sound notes) :
    pool.submitted = pool.completed + pool.panicked +
      pool.workers.countP WorkerPhase.isEngaged + pool.queue.length + pool.calls.length +
      (losses notes).length := by
  have submitted := sound.stocked.submitted
  have counted := sound.tallied.counted
  have order := congrArg List.length sound.stocked.order
  simp only [List.length_append, List.length_map] at order
  omega

/-- Only a pool whose workers were all killed loses jobs. -/
theorem Sound.dead_of_losses (sound : pool.Sound notes) (lost : losses notes ≠ [])
    (phase : WorkerPhase J) (member : phase ∈ pool.workers) : phase = .dead := by
  have gone : phase.isOver = true := by
    by_contra on
    exact lost (sound.stocked.kept (List.any_eq_true.mpr ⟨phase, member, by simpa using on⟩))
  cases phase with
  | dead => rfl
  | exited => exact absurd (sound.stocked.left _ member rfl).2.1 lost
  | _ => cases gone

/-- How the job ended that a worker counts with this step. -/
def reports? (pool : Pool J) : PoolMove J → Option JobEnding
  | .work worker =>
    match pool.workers[worker]? with
    | some (.reporting ending) => some ending
    | _ => none
  | _ => none

/-- How the jobs ended that are counted along the moves. -/
def reports (pool : Pool J) (moves : List (PoolMove J)) : List JobEnding :=
  observed step reports? pool moves

theorem Transition.counters_eq (transition : pool.Transition move next told) :
    next.completed = pool.completed + (pool.reports? move).toList.countP (· == .returned) ∧
      next.panicked = pool.panicked + (pool.reports? move).toList.countP (· != .returned) := by
  cases transition with
  | reported worker ending next told at_ report =>
    cases ending <;> cases report <;> simp [reports?, at_, setWorker]
  | died worker next told at_ lost =>
    rcases dropQueue_cases _ _ lost with ⟨-, rfl, -⟩ | ⟨-, rfl, -⟩ <;>
      simp [reports?, at_, setWorker]
  | exited worker next told at_ left =>
    rcases dropQueue_cases _ _ left with ⟨-, rfl, -⟩ | ⟨-, rfl, -⟩ <;>
      simp [reports?, at_, setWorker]
  | locked worker at_ | took worker job rest at_ | foundNone worker at_ =>
    simp [reports?, at_, setWorker]
  | _ => exact ⟨rfl, rfl⟩

/-- The counters of jobs that are over have grown by the jobs that were counted. -/
theorem counters_of_replay (moves : List (PoolMove J)) (last : Pool J)
    (ran : GatedRun.replay step pool moves = some (last, told)) :
    last.completed = pool.completed + (pool.reports moves).countP (· == .returned) ∧
      last.panicked = pool.panicked + (pool.reports moves).countP (· != .returned) := by
  refine observed_preserves reports? (fun (state : Pool J) seen =>
    state.completed = pool.completed + seen.countP (· == .returned) ∧
      state.panicked = pool.panicked + seen.countP (· != .returned))
    pool last moves [] told ?_ ⟨rfl, rfl⟩ ran
  rintro state move next seen _ - ⟨completed, panicked⟩ stepped
  have grown := (step_transition move stepped).counters_eq
  rw [List.countP_append, List.countP_append, grown.1, grown.2, completed, panicked]
  exact ⟨Nat.add_assoc _ _ _, Nat.add_assoc _ _ _⟩

/-- Each job that is counted adds one to the two counters together. -/
theorem over_of_replay (moves : List (PoolMove J)) (last : Pool J)
    (ran : GatedRun.replay step pool moves = some (last, told)) :
    last.completed + last.panicked =
      pool.completed + pool.panicked + (pool.reports moves).length := by
  obtain ⟨completed, panicked⟩ := counters_of_replay moves last ran
  have parts : (pool.reports moves).length = (pool.reports moves).countP (· == .returned) +
      (pool.reports moves).countP (· != .returned) := by
    rw [List.length_eq_countP_add_countP (· == JobEnding.returned), Nat.add_left_cancel_iff]
    apply List.countP_congr
    intro ending _
    cases ending <;> decide
  omega

theorem counters_le_of_replay (moves : List (PoolMove J)) (last : Pool J)
    (ran : GatedRun.replay step pool moves = some (last, told)) :
    pool.completed ≤ last.completed ∧ pool.panicked ≤ last.panicked := by
  obtain ⟨completed, panicked⟩ := counters_of_replay moves last ran
  constructor <;> omega

/-- Once a pool has ended with a worker that was not killed, the counters agree with what was
accepted. -/
theorem SoundFor.settled {width : Nat} {config : Config} (sound : pool.SoundFor width config notes)
    (ended : pool.HasEnded) (survivor : pool.workers.countP WorkerPhase.isDead < width) :
    pool.completed + pool.panicked = pool.submitted ∧
      pool.submitted = (accepts notes).length := by
  obtain ⟨empty, none⟩ := sound.emptied ended (sound.width ▸ survivor)
  have quiet := sound.staffed.quiet_of_hasEnded ended
  have idle : pool.workers.countP WorkerPhase.isEngaged = 0 := by
    refine countP_of_quiet quiet _ fun phase engaged => ?_
    cases phase with
    | running | reporting => rfl
    | _ => cases engaged
  have calls : pool.calls = [] := by
    apply sound.staffed.calls
    rcases ended with ⟨stage, -⟩ | ⟨stage, -⟩ <;> simp [stage]
  have total := sound.submitted_eq
  have accepted := sound.stocked.submitted
  simp only [empty, none, calls, idle, List.length_nil, Nat.add_zero] at total accepted
  exact ⟨total.symm, accepted⟩

/-- In every state each job that was submitted is in one place: counted as over, with a worker, in
the queue, with its caller, or lost with the queue of a pool whose workers were all killed. So no
more jobs are over than were submitted; the counts of those that are over never fall; and after the
shutdown of a pool with a worker that was not killed they are all that were accepted. -/
theorem counters_conserved (width : Nat) (config : Config) (fresh : Pool J)
    (created : create width config = .ok fresh) (moves : List (PoolMove J)) (pool : Pool J)
    (notes : List (PoolNote J)) (ran : GatedRun.replay step fresh moves = some (pool, notes)) :
    pool.submitted = pool.completed + pool.panicked +
      pool.workers.countP WorkerPhase.isEngaged + pool.queue.length + pool.calls.length +
      (losses notes).length ∧
    (losses notes ≠ [] → ∀ phase ∈ pool.workers, phase = .dead) ∧
    pool.completed + pool.panicked ≤ pool.submitted ∧
    (∀ (later : List (PoolMove J)) (last : Pool J) (more : List (PoolNote J)),
      GatedRun.replay step pool later = some (last, more) →
      pool.completed ≤ last.completed ∧ pool.panicked ≤ last.panicked) ∧
    (pool.stage = .closed → pool.isJoined = true →
      pool.workers.countP WorkerPhase.isDead < width →
      pool.completed + pool.panicked = pool.submitted ∧
      pool.submitted = (accepts notes).length ∧ pool.stats.pending = 0) := by
  have sound : pool.SoundFor width config notes :=
    (create_soundFor width config created).replay moves ran
  have total := sound.submitted_eq
  refine ⟨total, sound.dead_of_losses, by omega,
    fun later last more ran => counters_le_of_replay later last ran, ?_⟩
  intro closed joined survivor
  obtain ⟨gone, accepted⟩ := sound.settled (.inl ⟨closed, joined⟩) survivor
  refine ⟨gone, accepted, ?_⟩
  simp only [stats, statsAcross, PoolStats.pending]
  omega

theorem counters_conserved_killed :
    (∃ (pool : Pool Nat) (notes : List (PoolNote Nat)),
      GatedRun.replay step (unstarted {} 2) oneKilled = some (pool, notes) ∧
      pool.completed = 1 ∧ pool.panicked = 2 ∧ pool.completed + pool.panicked = pool.submitted ∧
      pool.submitted = (accepts notes).length ∧ pool.stats.pending = 0) ∧
    ∃ (pool : Pool Nat) (notes : List (PoolNote Nat)),
      GatedRun.replay step (unstarted {} 1) allKilled = some (pool, notes) ∧
      losses notes = [8] ∧ (∀ phase ∈ pool.workers, phase = .dead) ∧ pool.submitted = 2 ∧
      pool.completed + pool.panicked = 1 := by
  have ranOne : GatedRun.replay step (unstarted {} 2) oneKilled = some (_, _) := rfl
  have ranAll : GatedRun.replay step (unstarted {} 1) allKilled = some (_, _) := rfl
  obtain ⟨-, -, -, -, settled⟩ := counters_conserved 2 {} _ rfl _ _ _ ranOne
  obtain ⟨-, dead, -⟩ := counters_conserved 1 {} _ rfl _ _ _ ranAll
  obtain ⟨gone, accepted, none⟩ := settled rfl rfl (by decide)
  exact ⟨⟨_, _, ranOne, rfl, rfl, gone, accepted, none⟩,
    ⟨_, _, ranAll, rfl, dead (List.cons_ne_nil 8 []), rfl, rfl⟩⟩

end Pool

end GatedRun
