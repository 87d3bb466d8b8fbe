import GatedRun.Proofs.Pool.Invariant

/-!
# Completed pools

What has become of the jobs by the time a pool has ended. Jobs are taken in the order in which they
were accepted, so those taken are always the first ones. A worker leaves only once the queue is
closed and empty, and from then on nothing comes to it; so a single worker that is not killed sees
every accepted job through. If all are killed, what was taken by then is all that was ever run.
-/

namespace GatedRun

variable {J : Type}

namespace Pool

variable {pool next : Pool J} {move : PoolMove J} {notes told : List (PoolNote J)}

/-! ### The end of the workers -/

theorem isJoined_iff : pool.isJoined = true ↔ pool.joined = pool.workers.length := by
  simp [isJoined]

theorem isQuiet_iff : pool.isQuiet = true ↔ ∀ phase ∈ pool.workers, phase.isOver = true :=
  List.all_eq_true

theorem Staffed.joined_le (staffed : pool.Staffed) : pool.joined ≤ pool.workers.length := by
  by_contra more
  obtain ⟨phase, held, -⟩ := staffed.joined pool.workers.length (Nat.lt_of_not_le more)
  rw [List.getElem?_eq_none (Nat.le_refl _)] at held
  cases held

/-- Somebody holds a lock that is not free. -/
theorem exists_receiving (taken : pool.lockIsFree = false) :
    ∃ holder : Nat, pool.workers[holder]? = some .receiving := by
  obtain ⟨phase, member, holds⟩ : ∃ phase ∈ pool.workers, phase.holdsLock = true := by
    simpa [lockIsFree] using taken
  obtain ⟨holder, held⟩ := List.mem_iff_getElem?.mp member
  refine ⟨holder, ?_⟩
  cases phase with
  | receiving => exact held
  | _ => cases holds

theorem Staffed.quiet_of_joined (staffed : pool.Staffed) (joined : pool.isJoined = true) :
    pool.isQuiet = true := by
  rw [isJoined_iff] at joined
  rw [isQuiet_iff]
  intro phase member
  obtain ⟨worker, below, rfl⟩ := List.mem_iff_getElem.mp member
  obtain ⟨phase, held, gone⟩ := staffed.joined worker (joined ▸ below)
  rw [List.getElem?_eq_getElem below] at held
  rw [Option.some.inj held]
  exact gone

/-- The pool was shut down and all its workers are joined, or it was let go and all are over. -/
def HasEnded (pool : Pool J) : Prop :=
  pool.stage = .closed ∧ pool.isJoined = true ∨ pool.stage = .detached ∧ pool.isQuiet = true

theorem Staffed.quiet_of_hasEnded (staffed : pool.Staffed) (ended : pool.HasEnded) :
    pool.isQuiet = true := by
  rcases ended with ⟨-, joined⟩ | ⟨-, quiet⟩
  · exact staffed.quiet_of_joined joined
  · exact quiet

theorem Staffed.manned_of_hasEnded (staffed : pool.Staffed) (ended : pool.HasEnded) :
    pool.workers.length = pool.width := by
  have manned := staffed.manned
  rcases ended with ⟨stage, -⟩ | ⟨stage, -⟩ <;> rwa [stage] at manned

/-- A worker that is over without having been killed has left the queue. -/
theorem left_of_survivor (quiet : pool.isQuiet = true)
    (survivor : pool.workers.countP WorkerPhase.isDead < pool.workers.length) :
    ∃ phase ∈ pool.workers, phase.hasLeft = true := by
  obtain ⟨phase, member, alive⟩ : ∃ phase ∈ pool.workers, phase.isDead ≠ true := by
    by_contra none
    push Not at none
    exact absurd (List.countP_eq_length.mpr none) (Nat.ne_of_lt survivor)
  have gone := isQuiet_iff.mp quiet phase member
  refine ⟨phase, member, ?_⟩
  cases phase with
  | exited => rfl
  | dead => exact absurd rfl alive
  | _ => cases gone

/-- Where all workers are over, none is at what only a worker that goes on can be at. -/
theorem countP_of_quiet (quiet : pool.isQuiet = true) (test : WorkerPhase J → Bool)
    (busy : ∀ phase : WorkerPhase J, test phase = true → phase.isOver = false) :
    pool.workers.countP test = 0 := by
  apply List.countP_eq_zero.mpr
  intro phase member passes
  exact absurd (isQuiet_iff.mp quiet phase member) (by simp [busy phase passes])

theorem idle_of_quiet (quiet : pool.isQuiet = true) (worker : Nat) :
    pool.workers[worker]?.any WorkerPhase.isRunning = false := by
  cases held : pool.workers[worker]? with
  | none => rfl
  | some phase =>
    have gone := isQuiet_iff.mp quiet phase (List.mem_of_getElem? held)
    cases phase with
    | running job => cases gone
    | _ => rfl

/-! ### The stints -/

theorem Stocked.taken_first (stocked : pool.Stocked notes) :
    (stints notes).map Stint.job <+: accepts notes :=
  ⟨losses notes ++ pool.queue, stocked.order.symm⟩

theorem Sound.ended_of_quiet (sound : pool.Sound notes) (quiet : pool.isQuiet = true)
    (stint : Stint J) (member : stint ∈ stints notes) : stint.ending.isSome = true := by
  by_contra going
  -- A stint without an ending is open, so its worker would run a job.
  have opened : stint.isOpenFor stint.worker = true := by
    simpa [Stint.isOpenFor] using going
  have one := List.countP_pos_iff.mpr ⟨stint, member, opened⟩
  rw [sound.tallied.held, idle_of_quiet quiet] at one
  exact absurd one (Nat.lt_irrefl 0)

/-- One worker that was not killed is enough to see every accepted job through. -/
theorem Sound.emptied (sound : pool.Sound notes) (ended : pool.HasEnded)
    (survivor : pool.workers.countP WorkerPhase.isDead < pool.width) :
    pool.queue = [] ∧ losses notes = [] := by
  have quiet := sound.staffed.quiet_of_hasEnded ended
  rw [← sound.staffed.manned_of_hasEnded ended] at survivor
  obtain ⟨phase, member, leaves⟩ := left_of_survivor quiet survivor
  obtain ⟨empty, none, -⟩ := sound.stocked.left phase member leaves
  exact ⟨empty, none⟩

theorem Sound.jobs_of_emptied (sound : pool.Sound notes) (empty : pool.queue = [])
    (none : losses notes = []) : (stints notes).map Stint.job = accepts notes := by
  rw [sound.stocked.order, empty, none, List.append_nil, List.append_nil]

theorem Sound.length_endings (sound : pool.Sound notes) (quiet : pool.isQuiet = true) :
    (endings notes).length = (stints notes).length := by
  have tally := sound.tallied.ended fun _ => true
  rw [List.countP_true] at tally
  rw [tally, List.countP_eq_length]
  intro stint member
  obtain ⟨ending, ended⟩ := Option.isSome_iff_exists.mp (sound.ended_of_quiet quiet stint member)
  simp [Stint.endedAs, ended]

/-! ### When all workers are killed -/

theorem Sound.lethal_of_quiet (sound : pool.Sound notes) (quiet : pool.isQuiet = true) :
    (stints notes).countP (Stint.endedAs (· == .lethal)) =
      pool.workers.countP WorkerPhase.isDead := by
  rw [← sound.tallied.ended]
  refine sound.tallied.killed.trans (List.countP_congr fun phase member => ?_)
  have gone := isQuiet_iff.mp quiet phase member
  cases phase with
  | exited | dead => rfl
  | _ => cases gone

/-- The pool has all its workers, and they are dead. -/
structure Extinct (pool : Pool J) : Prop where
  launched : pool.stage ≠ .launching
  dead : ∀ phase ∈ pool.workers, phase = .dead

theorem Staffed.extinct (staffed : pool.Staffed)
    (killed : pool.workers.countP WorkerPhase.isDead = pool.width) : pool.Extinct := by
  have few := List.countP_le_length (p := WorkerPhase.isDead) (l := pool.workers)
  have manned := staffed.manned
  have all : pool.workers.length = pool.width := by
    cases stage : pool.stage <;> simp only [stage, Manned] at manned <;> omega
  refine ⟨?_, ?_⟩
  · intro launching
    simp only [launching, Manned] at manned
    omega
  · intro phase member
    have dead := List.countP_eq_length.mp (killed.trans all.symm) phase member
    cases phase with
    | dead => rfl
    | _ => cases dead

/-- The dead take no job: nothing is begun any more, and nothing ends. -/
theorem Transition.extinct (extinct : pool.Extinct) (notes : List (PoolNote J))
    (transition : pool.Transition move next told) :
    next.Extinct ∧ stints (notes ++ told) = stints notes := by
  have gone {worker : Nat} {phase : WorkerPhase J} (at_ : pool.workers[worker]? = some phase) :
      phase = .dead := extinct.dead phase (List.mem_of_getElem? at_)
  cases transition with
  | spawned stage | opened stage | refused _ stage => exact absurd stage extinct.launched
  | closed | detached => exact ⟨⟨by simp, extinct.dead⟩, by simp⟩
  | joined | joinedDead | counted | turnedAway | sent | bounced | withdrawn =>
    exact ⟨⟨extinct.launched, extinct.dead⟩, by simp⟩
  | locked _ at_ | took _ _ _ at_ | foundNone _ at_ | reported _ _ _ _ at_ | died _ _ _ at_
  | exited _ _ _ at_ | progressed _ _ _ at_ | finished _ _ _ at_ => cases gone at_

theorem Extinct.replay (extinct : pool.Extinct) (moves : List (PoolMove J)) (last : Pool J)
    (ran : GatedRun.replay step pool moves = some (last, told)) :
    stints (notes ++ told) = stints notes := by
  have kept := replay_preserves
    (fun (state : Pool J) known => state.Extinct ∧ stints known = stints notes)
    pool last moves notes told ?_ ⟨extinct, rfl⟩ ran
  · exact kept.2
  intro state move next known new _ ⟨extinct, same⟩ stepped
  obtain ⟨still, silent⟩ := (step_transition move stepped).extinct extinct known
  exact ⟨still, silent.trans same⟩

/-- The jobs taken are always the first of those accepted, in their order, so none is taken twice.
Once a pool has ended with a worker that was not killed, every accepted job was run to its end,
once; and when all workers are killed, each took down one of the jobs that were run, and no job is
run after them. -/
theorem runs_jobs_once (width : Nat) (config : Config) (fresh : Pool J)
    (created : create width config = .ok fresh) (moves : List (PoolMove J)) (pool : Pool J)
    (notes : List (PoolNote J)) (ran : GatedRun.replay step fresh moves = some (pool, notes)) :
    (stints notes).map Stint.job <+: accepts notes ∧
    (pool.HasEnded → pool.workers.countP WorkerPhase.isDead < width →
      (stints notes).map Stint.job = accepts notes ∧
      (∀ stint ∈ stints notes, stint.ending.isSome = true) ∧
      (endings notes).length = (accepts notes).length) ∧
    (pool.workers.countP WorkerPhase.isDead = width →
      (∀ stint ∈ stints notes, stint.ending.isSome = true) ∧
      (stints notes).countP (Stint.endedAs (· == .lethal)) = width ∧
      ∀ (later : List (PoolMove J)) (last : Pool J) (more : List (PoolNote J)),
        GatedRun.replay step pool later = some (last, more) →
        stints (notes ++ more) = stints notes) := by
  have sound : pool.SoundFor width config notes :=
    (create_soundFor width config created).replay moves ran
  rw [← sound.width]
  refine ⟨sound.stocked.taken_first, ?_, ?_⟩
  · intro ended survivor
    obtain ⟨empty, none⟩ := sound.emptied ended survivor
    have quiet := sound.staffed.quiet_of_hasEnded ended
    have jobs := sound.jobs_of_emptied empty none
    refine ⟨jobs, sound.ended_of_quiet quiet, ?_⟩
    rw [sound.length_endings quiet, ← jobs, List.length_map]
  · intro killed
    have extinct := sound.staffed.extinct killed
    have quiet : pool.isQuiet = true :=
      isQuiet_iff.mpr fun phase member => by rw [extinct.dead phase member]; rfl
    refine ⟨sound.ended_of_quiet quiet, ?_, fun later last more ran =>
      extinct.replay later last ran⟩
    rw [sound.lethal_of_quiet quiet, killed]

/-- Two callers submit to a pool of two, the second one first. The first job to be sent returns, the
next one kills its worker, and a third one unwinds before the pool is shut down. -/
def oneKilled : List (PoolMove Nat) :=
  [.spawn .given, .spawn .given, .count 0 7, .count 1 8, .send 1, .send 0,
    .work 0, .work 0, .work 1, .finish 0 .returned, .work 1, .work 0, .finish 1 .lethal,
    .work 1, .work 1, .count 0 9, .send 0, .work 0, .work 0, .finish 0 .unwound, .work 0,
    .close, .work 0, .work 0, .work 0, .join, .join]

/-- The only worker of a pool is killed by its first job, with another one in the queue. -/
def allKilled : List (PoolMove Nat) :=
  [.spawn .given, .count 0 7, .send 0, .count 0 8, .send 0,
    .work 0, .work 0, .finish 0 .lethal, .work 0, .work 0]

theorem runs_jobs_once_killed :
    (∃ (pool : Pool Nat) (notes : List (PoolNote Nat)),
      GatedRun.replay step (unstarted {} 2) oneKilled = some (pool, notes) ∧ pool.HasEnded ∧
      pool.workers = [.exited, .dead] ∧ accepts notes = [8, 7, 9] ∧
      (stints notes).map Stint.job = accepts notes ∧
      ∀ stint ∈ stints notes, stint.ending.isSome = true) ∧
    ∃ (pool : Pool Nat) (notes : List (PoolNote Nat)),
      GatedRun.replay step (unstarted {} 1) allKilled = some (pool, notes) ∧
      pool.workers = [.dead] ∧ accepts notes = [7, 8] ∧ stints notes = [⟨0, 7, some .lethal⟩] ∧
      ∀ (later : List (PoolMove Nat)) (last : Pool Nat) (more : List (PoolNote Nat)),
        GatedRun.replay step pool later = some (last, more) →
        stints (notes ++ more) = stints notes := by
  have ranOne : GatedRun.replay step (unstarted {} 2) oneKilled = some (_, _) := rfl
  have ranAll : GatedRun.replay step (unstarted {} 1) allKilled = some (_, _) := rfl
  obtain ⟨jobs, ended, -⟩ := (runs_jobs_once 2 {} _ rfl _ _ _ ranOne).2.1 (.inl ⟨rfl, rfl⟩)
    (by decide)
  obtain ⟨-, -, final⟩ := (runs_jobs_once 1 {} _ rfl _ _ _ ranAll).2.2 rfl
  exact ⟨⟨_, _, ranOne, .inl ⟨rfl, rfl⟩, rfl, rfl, jobs, ended⟩,
    ⟨_, _, ranAll, rfl, rfl, rfl, final⟩⟩

end Pool

end GatedRun
