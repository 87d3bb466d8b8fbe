import GatedRun.Proofs.Config
import GatedRun.Proofs.Pool.Rejection

/-!
# The log of a pool

A worker that leaves says so under its own name; one that was killed says nothing, and whoever joins
it reports it. So the log accounts for every worker of a pool that was shut down, once
(`AccountsFor.either`). The reports are about those that a job has killed, since a job that kills
its worker is counted and logged as unwound before the worker goes down. A pool that is let go logs
that, and nobody joins its workers.

`Accounted` ties the log to the phases of the workers, whatever the steps of the threads are.
-/

namespace GatedRun

variable {J : Type}

/-! ### Entries -/

/-- What the note logs, and who logs it. -/
@[simp] def PoolNote.entry? : PoolNote J → Option (Actor × Event)
  | .logged actor event => some (actor, event)
  | _ => none

/-- The log of a pool, each event with who logs it. -/
def entries (notes : List (PoolNote J)) : List (Actor × Event) :=
  notes.filterMap PoolNote.entry?

@[simp] theorem entries_nil : entries ([] : List (PoolNote J)) = [] := rfl

@[simp] theorem entries_cons (note : PoolNote J) (notes : List (PoolNote J)) :
    entries (note :: notes) = note.entry?.toList ++ entries notes :=
  filterMap_cons_toList _ note notes

@[simp] theorem entries_append (notes more : List (PoolNote J)) :
    entries (notes ++ more) = entries notes ++ entries more :=
  List.filterMap_append

/-- What a worker logs as it exits. -/
def Config.farewell (config : Config) (worker : Nat) : Actor × Event :=
  (.worker worker, .workerExiting (config.workerName worker))

/-- What the owner logs as it joins a worker that died. -/
def Config.obituary (config : Config) (worker : Nat) : Actor × Event :=
  (.owner, .workerDied (config.workerName worker))

theorem Config.count_farewell (config : Config) (worker other : Nat) :
    [(Actor.worker worker, Event.workerExiting (config.workerName worker))].count
      (config.farewell other) = if other = worker then 1 else 0 := by
  rw [List.count_singleton]
  by_cases same : other = worker
  · simp [farewell, same]
  · simp [farewell, same, Ne.symm same]

theorem Config.count_obituary (config : Config) (worker other : Nat) :
    [(Actor.owner, Event.workerDied (config.workerName worker))].count (config.obituary other) =
      if other = worker then 1 else 0 := by
  rw [List.count_singleton]
  by_cases same : other = worker
  · simp [obituary, same]
  · have apart : config.workerName worker ≠ config.workerName other :=
      fun named => same (config.workerName_injective named).symm
    simp [obituary, same, apart]

namespace Event

def isUnwinding : Event → Bool
  | .jobUnwound => true
  | _ => false

def isDetachment : Event → Bool
  | .poolDetached _ _ => true
  | _ => false

/-- Whether the event tells how a job or a worker ended. -/
def tellsEnd : Event → Bool
  | .jobUnwound | .workerExiting _ | .workerDied _ => true
  | _ => false

end Event

/-- What the threads of a pool can log. -/
def Config.Foresees (config : Config) (width : Nat) : Actor × Event → Prop
  | (.owner, .poolStarted workers label) => workers = width ∧ label = config.threadNamePrefix
  | (.owner, .workerDied name) => ∃ worker, name = config.workerName worker
  | (.owner, .poolDetached _ _) => True
  | (.worker worker, .workerExiting name) => name = config.workerName worker
  | (.worker _, .jobUnwound) => True
  | _ => False

/-- Only the owner lets a pool go. -/
theorem Config.Foresees.of_detachment {config : Config} {width : Nat} {entry : Actor × Event}
    (foreseen : config.Foresees width entry) (detaches : entry.2.isDetachment = true) :
    entry.1 = .owner := by
  obtain ⟨actor, event⟩ := entry
  cases actor with
  | owner => rfl
  | worker worker =>
    cases event with
    | poolDetached workers pending => cases foreseen
    | _ => cases detaches

/-! ### Stints by worker -/

namespace Stint

/-- Whether it is a stint of the worker, with such an ending. -/
def endedBy (worker : Nat) (test : JobEnding → Bool) (stint : Stint J) : Bool :=
  stint.worker == worker && stint.endedAs test

theorem countP_endedBy_close (worker other : Nat) (ending : JobEnding)
    (test : JobEnding → Bool) (stints : List (Stint J)) :
    (stints.map (close worker ending)).countP (endedBy other test) =
      stints.countP (endedBy other test) +
        if other = worker ∧ test ending = true then stints.countP (isOpenFor worker) else 0 := by
  induction stints with
  | nil => simp
  | cons stint rest ih =>
    rw [List.map_cons, List.countP_cons, List.countP_cons, List.countP_cons, ih]
    by_cases mine : stint.isOpenFor worker = true
    · rw [eq_of_isOpenFor worker stint mine]
      by_cases same : other = worker
      · subst same
        by_cases passes : test ending = true
        · simp [close, isOpenFor, endedBy, endedAs, passes, Nat.add_assoc]
        · simp [close, isOpenFor, endedBy, endedAs, passes]
      · simp [close, isOpenFor, endedBy, same, Ne.symm same]
    · by_cases counts : other = worker ∧ test ending = true
      · simp [close, mine, counts, Nat.add_right_comm]
      · simp [close, mine, counts]

theorem endedBy_lethal_iff (worker : Nat) (stint : Stint J) :
    stint.endedBy worker (· == .lethal) = true ↔
      stint.worker = worker ∧ stint.ending = some .lethal := by
  obtain ⟨own, job, ending⟩ := stint
  rcases ending with - | ending <;> simp [endedBy, endedAs]

end Stint

namespace WorkerPhase

@[simp] def isExited : WorkerPhase J → Bool
  | .exited => true
  | _ => false

/-- Whether the worker's job has unwound and is not counted yet. -/
@[simp] def isUnwinding : WorkerPhase J → Bool
  | .reporting ending => ending != .returned
  | _ => false

end WorkerPhase

namespace Pool

variable {pool next after : Pool J} {move : PoolMove J} {notes told : List (PoolNote J)}

/-! ### One worker -/

/-- One if the phase of the worker passes the test, and else nothing. -/
def indicator (pool : Pool J) (test : WorkerPhase J → Bool) (worker : Nat) : Nat :=
  if pool.workers[worker]?.any test then 1 else 0

theorem indicator_held {worker : Nat} {phase : WorkerPhase J}
    (held : pool.workers[worker]? = some phase) (test : WorkerPhase J → Bool) :
    pool.indicator test worker = if test phase then 1 else 0 := by
  rw [indicator, held, Option.any_some]

theorem lt_of_indicator_pos {worker : Nat} {test : WorkerPhase J → Bool}
    (positive : 0 < pool.indicator test worker) : worker < pool.workers.length := by
  refine Nat.lt_of_not_le fun above => ?_
  rw [indicator, List.getElem?_eq_none above] at positive
  exact Nat.lt_irrefl 0 positive

theorem indicator_spawn (workers : next.workers = pool.workers ++ [.idle])
    (test : WorkerPhase J → Bool) (idle : test .idle = false) (worker : Nat) :
    next.indicator test worker = pool.indicator test worker := by
  rw [indicator, indicator, workers, List.getElem?_append]
  split
  · rfl
  next above =>
    rw [List.getElem?_eq_none (Nat.not_lt.mp above), List.getElem?_singleton]
    split <;> simp [idle]

theorem WorkerStep.indicator {worker : Nat} {old phase : WorkerPhase J}
    (went : WorkerStep pool after worker old phase) (test : WorkerPhase J → Bool) (other : Nat) :
    after.indicator test other + (if other = worker ∧ test old = true then 1 else 0) =
      pool.indicator test other + (if other = worker ∧ test phase = true then 1 else 0) := by
  rw [Pool.indicator, went.any]
  by_cases same : other = worker
  · subst same
    simp only [if_true, true_and, indicator_held went.held]
    omega
  · simp [same, Pool.indicator]

/-! ### What the log accounts for -/

/-- The log against the workers: who has exited has said so, once; who was joined dead was reported,
once; each job that unwound was logged as it was counted; and a worker is doomed by a job of its
own. -/
structure Accounted (pool : Pool J) (notes : List (PoolNote J)) : Prop where
  farewells : ∀ worker, (entries notes).count (pool.config.farewell worker) =
    pool.indicator WorkerPhase.isExited worker
  obituaries : ∀ worker, (entries notes).count (pool.config.obituary worker) =
    if worker < pool.joined then pool.indicator WorkerPhase.isDead worker else 0
  unwindings : (entries notes).countP (·.2.isUnwinding) = pool.panicked
  panicked : pool.panicked + pool.workers.countP WorkerPhase.isUnwinding =
    (endings notes).countP (· != .returned)
  killed : ∀ worker, (stints notes).countP (Stint.endedBy worker (· == .lethal)) =
    pool.indicator WorkerPhase.isDoomed worker

/-- An entry that does not tell how anything ended is none of those that are counted. -/
private theorem counts_of_silent (config : Config) (silent : ∀ entry ∈ entries told,
    entry.2.tellsEnd = false) : (∀ worker, (entries told).count (config.farewell worker) = 0) ∧
      (∀ worker, (entries told).count (config.obituary worker) = 0) ∧
      (entries told).countP (·.2.isUnwinding) = 0 := by
  refine ⟨?_, ?_, ?_⟩
  · exact fun worker => List.count_eq_zero.mpr fun member => nomatch silent _ member
  · exact fun worker => List.count_eq_zero.mpr fun member => nomatch silent _ member
  · apply List.countP_eq_zero.mpr
    rintro ⟨actor, event⟩ member unwinding
    have ends := silent _ member
    cases event with
    | jobUnwound => cases ends
    | _ => cases unwinding

/-- A step in which no worker ends and no job does. -/
private theorem Accounted.transfer (accounted : pool.Accounted notes)
    (silent : ∀ entry ∈ entries told, entry.2.tellsEnd = false) (ended : endings told = [])
    (record : ∀ worker, (stints (notes ++ told)).countP (Stint.endedBy worker (· == .lethal)) =
      (stints notes).countP (Stint.endedBy worker (· == .lethal)))
    (config : next.config = pool.config) (joined : next.joined = pool.joined)
    (panicked : next.panicked = pool.panicked)
    (indicators : ∀ test ∈ [WorkerPhase.isExited, WorkerPhase.isDead, WorkerPhase.isDoomed],
      ∀ worker, next.indicator test worker = pool.indicator test worker)
    (unwinding : next.workers.countP WorkerPhase.isUnwinding =
      pool.workers.countP WorkerPhase.isUnwinding) : next.Accounted (notes ++ told) := by
  obtain ⟨farewells, obituaries, unwindings⟩ := counts_of_silent pool.config silent
  refine ⟨?_, ?_, ?_, ?_, ?_⟩
  · intro worker
    rw [entries_append, List.count_append, config, farewells, Nat.add_zero,
      indicators _ (by simp), accounted.farewells]
  · intro worker
    rw [entries_append, List.count_append, config, obituaries, Nat.add_zero, joined,
      indicators _ (by simp), accounted.obituaries]
  · rw [entries_append, List.countP_append, unwindings, Nat.add_zero, panicked,
      accounted.unwindings]
  · rw [panicked, unwinding, endings_append, ended, List.append_nil, accounted.panicked]
  · intro worker
    rw [record, indicators _ (by simp), accounted.killed]

private theorem Accounted.spawn (accounted : pool.Accounted notes)
    (silent : ∀ entry ∈ entries told, entry.2.tellsEnd = false) (ended : endings told = [])
    (record : stints (notes ++ told) = stints notes) (config : next.config = pool.config)
    (joined : next.joined = pool.joined) (panicked : next.panicked = pool.panicked)
    (workers : next.workers = pool.workers ++ [.idle]) : next.Accounted (notes ++ told) := by
  refine accounted.transfer silent ended (fun _ => by rw [record]) config joined panicked ?_ ?_
  · intro test member worker
    refine indicator_spawn workers test ?_ worker
    simp only [List.mem_cons, List.not_mem_nil, or_false] at member
    rcases member with rfl | rfl | rfl <;> rfl
  · rw [workers, List.countP_append]
    rfl

/-- The owner joins a worker, and reports it if it is dead. -/
private theorem Accounted.join (accounted : pool.Accounted notes) (phase : WorkerPhase J)
    (held : pool.workers[pool.joined]? = some phase)
    (silent : ∀ worker, (entries told).count (pool.config.farewell worker) = 0)
    (reported : ∀ worker, (entries told).count (pool.config.obituary worker) =
      if worker = pool.joined ∧ phase.isDead = true then 1 else 0)
    (calm : (entries told).countP (·.2.isUnwinding) = 0)
    (record : stints (notes ++ told) = stints notes) (ended : endings told = [])
    (config : next.config = pool.config) (joined : next.joined = pool.joined + 1)
    (panicked : next.panicked = pool.panicked) (workers : next.workers = pool.workers) :
    next.Accounted (notes ++ told) := by
  have same (test : WorkerPhase J → Bool) (worker : Nat) :
      next.indicator test worker = pool.indicator test worker := by
    rw [indicator, indicator, workers]
  refine ⟨?_, ?_, ?_, ?_, ?_⟩
  · intro worker
    rw [entries_append, List.count_append, config, silent, Nat.add_zero, same,
      accounted.farewells]
  · intro worker
    rw [entries_append, List.count_append, config, reported, accounted.obituaries, joined, same]
    rcases Nat.lt_trichotomy worker pool.joined with below | rfl | above
    · simp [below, Nat.lt_succ_of_lt below, Nat.ne_of_lt below]
    · simp [indicator_held held]
    · simp [Nat.not_lt_of_gt above, Nat.ne_of_gt above, Nat.not_lt_of_ge above]
  · rw [entries_append, List.countP_append, calm, Nat.add_zero, panicked, accounted.unwindings]
  · rw [panicked, workers, endings_append, ended, List.append_nil, accounted.panicked]
  · intro worker
    rw [record, same, accounted.killed]

/-- A worker goes on: it logs its farewell if it exits, and that its job has unwound if it counts
one; and it is doomed if its job ends so. -/
private theorem Accounted.workerStep {worker : Nat} {old phase : WorkerPhase J}
    (accounted : pool.Accounted notes) (staffed : pool.Staffed)
    (went : WorkerStep pool next worker old phase) (config : next.config = pool.config)
    (exits : ∀ other, (entries told).count (pool.config.farewell other) =
      if other = worker ∧ phase.isExited = true then 1 else 0)
    (deaths : ∀ other, (entries told).count (pool.config.obituary other) = 0)
    (counted : next.panicked = pool.panicked + (entries told).countP (·.2.isUnwinding))
    (unwinding : (entries told).countP (·.2.isUnwinding) +
        (if phase.isUnwinding = true then 1 else 0) =
      (endings told).countP (· != .returned) + (if old.isUnwinding = true then 1 else 0))
    (killed : ∀ other, (stints (notes ++ told)).countP (Stint.endedBy other (· == .lethal)) +
        (if other = worker ∧ old.isDoomed = true then 1 else 0) =
      (stints notes).countP (Stint.endedBy other (· == .lethal)) +
        (if other = worker ∧ phase.isDoomed = true then 1 else 0)) :
    next.Accounted (notes ++ told) := by
  have stayed : old.isExited = false := by
    cases old with
    | exited => exact went.on
    | _ => rfl
  refine ⟨?_, ?_, ?_, ?_, ?_⟩
  · intro other
    have change := went.indicator WorkerPhase.isExited other
    simp only [stayed, Bool.false_eq_true, and_false, if_false, Nat.add_zero] at change
    rw [entries_append, List.count_append, config, accounted.farewells, exits, change]
  · intro other
    rw [entries_append, List.count_append, config, deaths, Nat.add_zero, went.joined,
      accounted.obituaries]
    split
    next below =>
      have apart : other ≠ worker :=
        Nat.ne_of_lt (Nat.lt_of_lt_of_le below (staffed.joined_le_worker went))
      have change := went.indicator WorkerPhase.isDead other
      simpa [apart] using change.symm
    · rfl
  · rw [entries_append, List.countP_append, accounted.unwindings, counted]
  · have change := went.countP WorkerPhase.isUnwinding
    have before := accounted.panicked
    rw [endings_append, List.countP_append]
    omega
  · intro other
    have change := went.indicator WorkerPhase.isDoomed other
    have before := accounted.killed other
    have after := killed other
    omega

theorem Accounted.step (accounted : pool.Accounted notes) (staffed : pool.Staffed)
    (tallied : pool.Tallied notes) (transition : pool.Transition move next told) :
    next.Accounted (notes ++ told) := by
  cases transition with
  | spawned stage more | opened stage last =>
    exact accounted.spawn (by simp [Event.tellsEnd]) rfl (by simp) rfl rfl rfl rfl
  | refused | closed | detached | counted | turnedAway | sent | bounced | withdrawn =>
    exact accounted.transfer (by simp [Event.tellsEnd]) rfl (by simp) rfl rfl rfl
      (fun _ _ _ => rfl) rfl
  | joined stage held =>
    exact accounted.join .exited held (by simp) (by simp [WorkerPhase.isDead]) rfl (by simp) rfl
      rfl rfl rfl rfl
  | joinedDead stage held =>
    refine accounted.join .dead held (by simp [Config.farewell]) ?_ rfl (by simp) rfl rfl rfl rfl
      rfl
    simpa [WorkerPhase.isDead] using pool.config.count_obituary pool.joined
  | locked worker at_ | foundNone worker at_ | progressed worker old job at_ =>
    exact accounted.workerStep staffed ⟨at_, rfl, rfl, rfl, rfl, rfl, rfl⟩ rfl (by simp) (by simp)
      rfl rfl (by simp)
  | took worker job rest at_ queue =>
    exact accounted.workerStep staffed (took_workerStep worker job rest at_) rfl (by simp)
      (by simp) rfl rfl (by simp [List.countP_append, Stint.endedBy, Stint.endedAs])
  | reported worker ending next told at_ report =>
    cases ending <;> cases report
    all_goals
      exact accounted.workerStep staffed ⟨at_, rfl, rfl, rfl, rfl, rfl, rfl⟩ rfl
        (by simp [Config.farewell]) (by simp [Config.obituary]) rfl rfl (by simp)
  | died worker next told at_ lost =>
    have went := over_workerStep worker _ _ _ at_ rfl lost
    rcases dropQueue_cases _ _ lost with ⟨-, rfl, rfl⟩ | ⟨-, rfl, rfl⟩ <;>
      exact accounted.workerStep staffed went rfl (by simp) (by simp) rfl rfl (by simp)
  | exited worker next told at_ left =>
    have went := over_workerStep worker _ _ _ at_ rfl left
    have own := pool.config.count_farewell worker
    rcases dropQueue_cases _ _ left with ⟨-, rfl, rfl⟩ | ⟨-, rfl, rfl⟩ <;>
      exact accounted.workerStep staffed went rfl (by simpa using own)
        (by simp [Config.obituary]) rfl rfl (by simp)
  | finished worker job ending at_ =>
    have one : (stints notes).countP (Stint.isOpenFor worker) = 1 := by
      rw [tallied.held worker, at_]
      rfl
    refine accounted.workerStep staffed ⟨at_, rfl, rfl, rfl, rfl, rfl, rfl⟩ rfl (by simp) (by simp)
      rfl ?_ ?_
    · cases ending <;> rfl
    · intro other
      rw [stints_append]
      simp only [List.foldl_cons, List.foldl_nil, recordStint, Stint.countP_endedBy_close, one]
      cases ending <;> simp

/-! ### What a worker lets be known -/

/-- A note that a worker can make: of a job that it takes, or of what it logs. -/
def WorkerNote (pool : Pool J) (worker : Nat) : PoolNote J → Prop
  | .logged actor event =>
    actor = .worker worker ∧ pool.config.Foresees pool.width (.worker worker, event)
  | .taken own _ => own = worker
  | _ => True

theorem WorkerNote.entry {worker : Nat} {entry : Actor × Event}
    (own : ∀ note ∈ told, pool.WorkerNote worker note) (member : entry ∈ entries told) :
    entry.1 = .worker worker ∧ pool.config.Foresees pool.width entry := by
  obtain ⟨note, made, logs⟩ := List.mem_filterMap.mp member
  cases note with
  | logged actor event =>
    cases logs
    obtain ⟨rfl, foreseen⟩ := own _ made
    exact ⟨rfl, foreseen⟩
  | _ => cases logs

/-- When a worker goes on, it makes its own notes. -/
theorem Transition.of_work (transition : pool.Transition move next told)
    (working : move.isWork = true) : ∃ worker old phase,
      WorkerStep pool next worker old phase ∧ ∀ note ∈ told, pool.WorkerNote worker note := by
  cases transition with
  | locked worker at_ | foundNone worker at_ | progressed worker old job at_
  | finished worker job ending at_ =>
    exact ⟨worker, _, _, ⟨at_, rfl, rfl, rfl, rfl, rfl, rfl⟩, by simp [WorkerNote]⟩
  | took worker job rest at_ queue =>
    exact ⟨worker, _, _, took_workerStep worker job rest at_, by simp [WorkerNote]⟩
  | reported worker ending next told at_ report =>
    obtain ⟨phase, went⟩ := reported_workerStep worker ending at_ report
    refine ⟨worker, _, phase, went, ?_⟩
    cases ending <;> cases report <;> simp [WorkerNote, Config.Foresees]
  | died worker next told at_ lost =>
    refine ⟨worker, _, _, over_workerStep worker _ _ _ at_ rfl lost, ?_⟩
    rcases dropQueue_cases _ _ lost with ⟨-, -, rfl⟩ | ⟨-, -, rfl⟩ <;> simp [WorkerNote]
  | exited worker next told at_ left =>
    refine ⟨worker, _, _, over_workerStep worker _ _ _ at_ rfl left, ?_⟩
    rcases dropQueue_cases _ _ left with ⟨-, -, rfl⟩ | ⟨-, -, rfl⟩ <;>
      simp [WorkerNote, Config.Foresees]
  | _ => cases working

/-- The threads of a pool log nothing else, and each its own. -/
theorem Transition.foreseen (transition : pool.Transition move next told) :
    ∀ entry ∈ entries told, pool.config.Foresees pool.width entry := by
  by_cases working : move.isWork = true
  · obtain ⟨worker, old, phase, -, own⟩ := transition.of_work working
    exact fun entry member => (WorkerNote.entry own member).2
  cases transition with
  | opened | joinedDead | detached => simp [Config.Foresees]
  | reported | died | exited => exact absurd rfl working
  | _ => simp

/-- What is known of a pool and its log after any moves. -/
structure Chronicled (width : Nat) (config : Config) (pool : Pool J) (notes : List (PoolNote J)) :
    Prop extends SoundFor width config pool notes where
  accounted : pool.Accounted notes
  foreseen : ∀ entry ∈ entries notes, pool.config.Foresees pool.width entry
  unjoined : pool.stage = .launching ∨ pool.stage = .accepting → pool.joined = 0
  undetached : pool.stage ≠ .detached → (entries notes).countP (·.2.isDetachment) = 0

variable {width : Nat} {config : Config}

private theorem Transition.unjoined (transition : pool.Transition move next told)
    (unjoined : pool.stage = .launching ∨ pool.stage = .accepting → pool.joined = 0) :
    next.stage = .launching ∨ next.stage = .accepting → next.joined = 0 := by
  by_cases working : move.isWork = true
  · obtain ⟨worker, old, phase, went, -⟩ := transition.of_work working
    rw [went.stage, went.joined]
    exact unjoined
  cases transition with
  | opened stage => exact fun _ => unjoined (.inl stage)
  | refused | closed | detached => simp
  | joined stage | joinedDead stage => rcases stage with ⟨_, stage⟩ | stage <;> simp [stage]
  | reported | died | exited => exact absurd rfl working
  | _ => exact unjoined

/-- A pool that was let go stays so, and its owner logs nothing more. -/
theorem Transition.of_detached (transition : pool.Transition move next told)
    (stage : pool.stage = .detached) : next.stage = .detached ∧ next.joined = pool.joined ∧
      ∀ entry ∈ entries told, entry.1 ≠ .owner := by
  by_cases working : move.isWork = true
  · obtain ⟨worker, old, phase, went, own⟩ := transition.of_work working
    refine ⟨went.stage.trans stage, went.joined, fun entry member owner => ?_⟩
    cases (WorkerNote.entry own member).1.symm.trans owner
  cases transition with
  | spawned other | opened other | refused _ other | counted _ _ _ other | turnedAway _ _ _ other =>
    simp [stage] at other
  | closed other | joined other | joinedDead other | detached other =>
    simp [stage, PoolStage.Retreats] at other
  | sent | bounced | withdrawn => simp [stage]
  | _ => exact absurd rfl working

private theorem Transition.undetached (transition : pool.Transition move next told)
    (on : next.stage ≠ .detached) : (entries told).countP (·.2.isDetachment) = 0 := by
  by_cases working : move.isWork = true
  · obtain ⟨worker, old, phase, -, own⟩ := transition.of_work working
    refine List.countP_eq_zero.mpr fun entry member detaches => ?_
    obtain ⟨by_worker, foreseen⟩ := WorkerNote.entry own member
    cases by_worker.symm.trans (foreseen.of_detachment detaches)
  cases transition with
  | detached => exact absurd rfl on
  | reported | died | exited => exact absurd rfl working
  | _ => rfl

theorem create_chronicled (created : create width config = .ok pool) :
    Chronicled width config pool [] := by
  have sound := create_soundFor width config created
  obtain ⟨-, -, rfl⟩ := (create_eq_ok_iff width config).mp created
  refine ⟨sound, ⟨?_, ?_, rfl, rfl, ?_⟩, by simp, fun _ => rfl, fun _ => rfl⟩
  · exact fun _ => rfl
  · intro worker
    simp [unstarted]
  · exact fun _ => rfl

theorem Chronicled.step (chronicled : Chronicled width config pool notes)
    (stepped : pool.step move = some (next, told)) :
    Chronicled width config next (notes ++ told) := by
  have transition := step_transition move stepped
  have fixed := transition.fixed
  refine ⟨⟨chronicled.toSound.step stepped, chronicled.positive,
    fixed.width.trans chronicled.width, fixed.config.trans chronicled.config⟩, ?_, ?_, ?_, ?_⟩
  · exact chronicled.accounted.step chronicled.staffed chronicled.tallied transition
  · intro entry member
    rw [entries_append, List.mem_append] at member
    rw [fixed.config, fixed.width]
    exact member.elim (chronicled.foreseen entry) (transition.foreseen entry)
  · exact transition.unjoined chronicled.unjoined
  · intro on
    rw [entries_append, List.countP_append, transition.undetached on, Nat.add_zero]
    exact chronicled.undetached fun stage => on (transition.of_detached stage).1

theorem Chronicled.replay (chronicled : Chronicled width config pool notes)
    (moves : List (PoolMove J)) (ran : GatedRun.replay Pool.step pool moves = some (after, told)) :
    Chronicled width config after (notes ++ told) :=
  replay_preserves (Chronicled width config) pool after moves notes told
    (fun _ _ _ _ _ _ chronicled stepped => chronicled.step stepped) chronicled ran

/-! ### The dead -/

/-- The worker that goes on is not one that died. -/
theorem WorkerStep.dead_kept {worker other : Nat} {old phase : WorkerPhase J}
    (went : WorkerStep pool after worker old phase) (dead : pool.workers[other]? = some .dead) :
    worker ≠ other ∧ after.workers[other]? = some .dead := by
  have apart : worker ≠ other := by
    rintro rfl
    obtain rfl := Option.some.inj (went.held.symm.trans dead)
    cases went.on
  exact ⟨apart, by rw [went.workers, List.getElem?_set_ne apart, dead]⟩

/-- A dead worker stays dead and takes no job. -/
theorem Transition.dead_kept (transition : pool.Transition move next told) (worker : Nat)
    (dead : pool.workers[worker]? = some .dead) :
    next.workers[worker]? = some .dead ∧ ∀ job, .taken worker job ∉ told := by
  by_cases working : move.isWork = true
  · obtain ⟨other, old, phase, went, own⟩ := transition.of_work working
    obtain ⟨apart, still⟩ := went.dead_kept dead
    exact ⟨still, fun job taken => apart (own _ taken).symm⟩
  cases transition with
  | spawned | opened =>
    exact ⟨by rw [List.getElem?_append_left (List.getElem?_eq_some_iff.mp dead).1, dead], by simp⟩
  | locked | took | foundNone | reported | died | exited | progressed | finished =>
    exact absurd rfl working
  | _ => exact ⟨dead, by simp⟩

/-- Whoever takes a job later is not dead now. -/
theorem alive_of_taken (moves : List (PoolMove J))
    (ran : GatedRun.replay step pool moves = some (after, told)) (worker : Nat) (job : J)
    (taken : .taken worker job ∈ told) : pool.workers[worker]? ≠ some .dead := by
  intro dead
  have kept := replay_preserves (fun (state : Pool J) known =>
    state.workers[worker]? = some .dead ∧ ∀ job, .taken worker job ∉ known)
    pool after moves [] told ?_ ⟨dead, fun _ => List.not_mem_nil⟩ ran
  · exact kept.2 job taken
  rintro state move next known new - ⟨dead, none⟩ stepped
  obtain ⟨still, silent⟩ := (step_transition move stepped).dead_kept worker dead
  exact ⟨still, fun job member => (List.mem_append.mp member).elim (none job) (silent job)⟩

/-! ### A pool that was shut down -/

/-- What the log says of a pool that was shut down. -/
structure AccountsFor (config : Config) (width : Nat) (pool : Pool J) (notes : List (PoolNote J)) :
    Prop where
  /-- Each worker has said that it exits, or it was reported dead, and that once. -/
  either : ∀ worker, worker < width →
    (entries notes).count (config.farewell worker) = 1 ∧
      (entries notes).count (config.obituary worker) = 0 ∨
    (entries notes).count (config.farewell worker) = 0 ∧
      (entries notes).count (config.obituary worker) = 1
  /-- Nobody else has, and nobody under another name. -/
  others : ∀ entry ∈ entries notes, entry.2.tellsEnd = true → entry.2 = .jobUnwound ∨
    ∃ worker, worker < width ∧ (entry = config.farewell worker ∨ entry = config.obituary worker)
  /-- Those reported dead are those that a job has killed. -/
  dead : ∀ worker, worker < width → (config.obituary worker ∈ entries notes ↔
    ∃ stint ∈ stints notes, stint.worker = worker ∧ stint.ending = some .lethal)
  /-- Each job that has unwound was logged, those that killed their worker included. -/
  unwound : (entries notes).countP (·.2.isUnwinding) = pool.panicked ∧
    pool.panicked = (stints notes).countP (Stint.endedAs (· != .returned))
  /-- A worker that is left sees to it that every job is run to its end. -/
  survived : pool.workers.countP WorkerPhase.isDead < width →
    (stints notes).map Stint.job = accepts notes ∧
      ∀ stint ∈ stints notes, stint.ending.isSome = true

theorem Staffed.over_of_joined (staffed : pool.Staffed) (joined : pool.isJoined = true)
    (worker : Nat) (below : worker < pool.workers.length) : worker < pool.joined ∧
      (pool.workers[worker]? = some .exited ∨ pool.workers[worker]? = some .dead) := by
  rw [← isJoined_iff.mp joined] at below
  obtain ⟨phase, held, gone⟩ := staffed.joined worker below
  refine ⟨below, ?_⟩
  cases phase with
  | exited => exact .inl held
  | dead => exact .inr held
  | _ => cases gone

/-- What tells the end of a worker is about one of the pool. -/
private theorem Chronicled.end_of_worker (chronicled : Chronicled width config pool notes)
    (manned : pool.workers.length = width) (entry : Actor × Event) (member : entry ∈ entries notes)
    (ends : entry.2.tellsEnd = true) : entry.2 = .jobUnwound ∨
      ∃ worker, worker < width ∧
        (entry = config.farewell worker ∨ entry = config.obituary worker) := by
  have foreseen := chronicled.foreseen entry member
  have farewells := chronicled.accounted.farewells
  have obituaries := chronicled.accounted.obituaries
  rw [chronicled.toSoundFor.config] at foreseen farewells obituaries
  obtain ⟨actor, event⟩ := entry
  cases event with
  | jobUnwound => exact .inl rfl
  | workerExiting name =>
    cases actor with
    | owner => cases foreseen
    | worker worker =>
      obtain rfl : name = config.workerName worker := foreseen
      have positive := List.count_pos_iff.mpr member
      have count := farewells worker
      rw [Config.farewell] at count
      rw [count] at positive
      exact .inr ⟨worker, manned ▸ lt_of_indicator_pos positive, .inl rfl⟩
  | workerDied name =>
    cases actor with
    | worker worker => cases foreseen
    | owner =>
      obtain ⟨worker, rfl⟩ : ∃ worker, name = config.workerName worker := foreseen
      have positive := List.count_pos_iff.mpr member
      have count := obituaries worker
      rw [Config.obituary] at count
      rw [count] at positive
      split at positive
      · exact .inr ⟨worker, manned ▸ lt_of_indicator_pos positive, .inr rfl⟩
      · exact absurd positive (Nat.lt_irrefl 0)
  | _ => cases ends

theorem Chronicled.accountsFor (chronicled : Chronicled width config pool notes)
    (closed : pool.stage = .closed) (joined : pool.isJoined = true) :
    AccountsFor config width pool notes := by
  have manned : pool.workers.length = width := by
    have manned := chronicled.staffed.manned
    rw [closed] at manned
    exact manned.trans chronicled.toSoundFor.width
  have left (worker : Nat) (below : worker < width) :=
    chronicled.staffed.over_of_joined joined worker (manned.symm ▸ below)
  have quiet := chronicled.staffed.quiet_of_joined joined
  have farewells := chronicled.accounted.farewells
  have obituaries := chronicled.accounted.obituaries
  rw [chronicled.toSoundFor.config] at farewells obituaries
  have obituary (worker : Nat) (below : worker < width) :
      (entries notes).count (config.obituary worker) =
        pool.indicator WorkerPhase.isDead worker := by
    rw [obituaries, if_pos (left worker below).1]
  refine ⟨?_, ?_, ?_, ⟨chronicled.accounted.unwindings, ?_⟩, ?_⟩
  · intro worker below
    rw [farewells, obituary worker below]
    rcases (left worker below).2 with held | held
    · exact .inl ⟨indicator_held held _, indicator_held held _⟩
    · exact .inr ⟨indicator_held held _, indicator_held held _⟩
  · exact chronicled.end_of_worker manned
  · intro worker below
    -- Where all are over, the doomed are the dead.
    have doomed : pool.indicator WorkerPhase.isDead worker =
        pool.indicator WorkerPhase.isDoomed worker := by
      rcases (left worker below).2 with held | held <;>
        simp [indicator_held held, WorkerPhase.isDead]
    rw [← List.count_pos_iff, obituary worker below, doomed, ← chronicled.accounted.killed,
      List.countP_pos_iff]
    simp only [Stint.endedBy_lethal_iff]
  · have none : pool.workers.countP WorkerPhase.isUnwinding = 0 := by
      refine countP_of_quiet quiet _ fun phase unwinding => ?_
      cases phase with
      | reporting => rfl
      | _ => cases unwinding
    have panicked := chronicled.accounted.panicked
    rwa [none, Nat.add_zero, chronicled.tallied.ended] at panicked
  · intro survivor
    obtain ⟨empty, none⟩ := chronicled.emptied (.inl ⟨closed, joined⟩)
      (chronicled.toSoundFor.width ▸ survivor)
    exact ⟨chronicled.jobs_of_emptied empty none, chronicled.ended_of_quiet quiet⟩

/-! ### A pool that was let go -/

/-- Nobody is reported before a worker is joined. -/
theorem Chronicled.unreported (chronicled : Chronicled width config pool notes)
    (none : pool.joined = 0) (entry : Actor × Event) (member : entry ∈ entries notes)
    (name : String) : entry.2 ≠ .workerDied name := by
  obtain ⟨actor, event⟩ := entry
  rintro rfl
  have foreseen := chronicled.foreseen _ member
  cases actor with
  | worker worker => cases foreseen
  | owner =>
    obtain ⟨worker, rfl⟩ : ∃ worker, name = pool.config.workerName worker := foreseen
    have reported := chronicled.accounted.obituaries worker
    rw [none, if_neg (Nat.not_lt_zero worker)] at reported
    exact List.count_eq_zero.mp reported member

/-- Once the pool is let go, its owner is heard of no more. -/
theorem silent_of_detached (stage : pool.stage = .detached) (moves : List (PoolMove J))
    (ran : GatedRun.replay step pool moves = some (after, told)) :
    after.joined = pool.joined ∧ ∀ entry ∈ entries told, entry.1 ≠ .owner := by
  have kept := replay_preserves (fun (state : Pool J) known => state.stage = .detached ∧
    state.joined = pool.joined ∧ ∀ entry ∈ entries known, entry.1 ≠ .owner)
    pool after moves [] told ?_ ⟨stage, rfl, by simp⟩ ran
  · exact kept.2
  rintro state move next known new - ⟨stage, joined, silent⟩ stepped
  obtain ⟨still, same, more⟩ := (step_transition move stepped).of_detached stage
  refine ⟨still, same.trans joined, fun entry member => ?_⟩
  rw [entries_append, List.mem_append] at member
  exact member.elim (silent entry) (more entry)

/-- A pool that nobody closed is let go with all its workers, none of them joined. -/
theorem Chronicled.size_of_accepting (chronicled : Chronicled width config pool notes)
    (accepting : pool.stage = .accepting) : pool.joined = 0 ∧ pool.size = width := by
  have none := chronicled.unjoined (.inr accepting)
  have manned := chronicled.staffed.manned
  rw [accepting] at manned
  refine ⟨none, ?_⟩
  simp only [size, accepting, none, Nat.sub_zero]
  exact manned.trans chronicled.toSoundFor.width

/-- What the log says of a pool that was let go, by the time it was and from then on. -/
theorem let_go (width : Nat) (config : Config) (fresh : Pool J)
    (created : create width config = .ok fresh) (early late : List (PoolMove J))
    (ran : GatedRun.replay step fresh (early ++ .detach :: late) = some (pool, notes)) :
    ∃ before first more, GatedRun.replay step fresh early = some (before, first) ∧
      notes = first ++ .logged .owner (.poolDetached before.size before.stats.pending) :: more ∧
      (entries notes).countP (·.2.isDetachment) = 1 ∧
      (∀ entry ∈ entries more, entry.1 ≠ .owner) ∧
      (PoolMove.close ∉ early → before.size = width ∧
        ∀ entry ∈ entries notes, ∀ name, entry.2 ≠ .workerDied name) := by
  have chronicled := (create_chronicled created).replay _ ran
  obtain ⟨before, first, second, begun, rest, rfl⟩ := (replay_append_iff _ _ _ _ _).mp ran
  obtain ⟨after, told, more, stepped, went, rfl⟩ := (replay_cons_iff _ _ _ _ _).mp rest
  have known : Chronicled width config before first := (create_chronicled created).replay _ begun
  cases step_transition .detach stepped with
  | detached stage calls =>
    obtain ⟨joined, silent⟩ := silent_of_detached rfl late went
    refine ⟨before, first, more, begun, rfl, ?_, silent, fun unclosed => ?_⟩
    · have none : (entries more).countP (·.2.isDetachment) = 0 := by
        refine List.countP_eq_zero.mpr fun entry member detaches => silent entry member ?_
        exact (chronicled.foreseen entry (by simp [member])).of_detachment detaches
      have early : (entries first).countP (·.2.isDetachment) = 0 :=
        known.undetached (by rcases stage with stage | stage <;> simp [stage])
      rw [entries_append, entries_append, List.countP_append, List.countP_append, early, none]
      rfl
    · have accepting : before.stage = .accepting := by
        refine stage.resolve_right fun closed => unclosed ?_
        refine close_of_closed fresh ?_ early begun closed
        obtain ⟨-, -, rfl⟩ := (create_eq_ok_iff width config).mp created
        simp [unstarted]
      obtain ⟨unjoined, size⟩ := known.size_of_accepting accepting
      exact ⟨size, fun entry member name =>
        chronicled.unreported (joined.trans unjoined) entry (by simpa using member) name⟩

/-- At the end of a shutdown each worker has said once that it exits, or was reported dead once, and
these were killed by a job of their own. At every time as many unwound jobs are logged as counted.
The dead take no job, and a job that waits can be taken as long as one worker is not about to die. A
pool that is let go says so once, with its workers, and from then on its owner reports nothing. -/
theorem log_accounts_for_workers (width : Nat) (config : Config) (fresh : Pool J)
    (created : create width config = .ok fresh) (moves : List (PoolMove J)) (pool : Pool J)
    (notes : List (PoolNote J)) (ran : GatedRun.replay step fresh moves = some (pool, notes)) :
    (pool.stage = .closed → pool.isJoined = true → AccountsFor config width pool notes) ∧
    (entries notes).countP (·.2.isUnwinding) = pool.panicked ∧
    (∀ (later : List (PoolMove J)) (last : Pool J) (more : List (PoolNote J)),
      GatedRun.replay step pool later = some (last, more) →
      ∀ worker job, .taken worker job ∈ more → pool.workers[worker]? ≠ some .dead) ∧
    ((∃ phase ∈ pool.workers, phase.isDoomed = false) →
      ∀ (place : Nat) (job : J), (accepts notes)[place]? = some job → ∃ later last more,
        GatedRun.replay step pool later = some (last, more) ∧
        TakenAt place job (notes ++ more)) ∧
    ∀ early late, moves = early ++ .detach :: late → ∃ before first more,
      GatedRun.replay step fresh early = some (before, first) ∧
      notes = first ++ .logged .owner (.poolDetached before.size before.stats.pending) :: more ∧
      (entries notes).countP (·.2.isDetachment) = 1 ∧
      (∀ entry ∈ entries more, entry.1 ≠ .owner) ∧
      (PoolMove.close ∉ early → before.size = width ∧
        ∀ entry ∈ entries notes, ∀ name, entry.2 ≠ .workerDied name) := by
  have chronicled : Chronicled width config pool notes :=
    (create_chronicled created).replay moves ran
  refine ⟨chronicled.accountsFor, chronicled.accounted.unwindings, ?_, ?_, ?_⟩
  · exact fun later last more went worker job => alive_of_taken later went worker job
  · exact fun alive place job at_ => chronicled.can_take place job at_ alive
  · rintro early late rfl
    exact let_go width config fresh created early late ran

/-- One worker of two is killed, and the other one takes the job that is submitted after that. Shut
down, the pool reports the one and hears from the other; let go instead, it reports nobody. -/
theorem log_accounts_for_workers_killed :
    (∃ (pool : Pool Nat) (notes : List (PoolNote Nat)),
      GatedRun.replay step (unstarted {} 2) oneKilled = some (pool, notes) ∧
      AccountsFor {} 2 pool notes ∧ pool.panicked = 2 ∧
      entries notes = [(.owner, .poolStarted 2 "lockstep-worker"), (.worker 1, .jobUnwound),
        (.worker 0, .jobUnwound), Config.farewell {} 0, Config.obituary {} 1]) ∧
    ∃ (pool before : Pool Nat) (notes first more : List (PoolNote Nat)),
      GatedRun.replay step (unstarted {} 2) (oneKilled.take 15 ++ [.detach, .work 0, .work 0]) =
        some (pool, notes) ∧
      notes = first ++ .logged .owner (.poolDetached before.size before.stats.pending) :: more ∧
      before.size = 2 ∧ (entries notes).countP (·.2.isDetachment) = 1 ∧
      ∀ entry ∈ entries notes, ∀ name, entry.2 ≠ .workerDied name := by
  have ranShut : GatedRun.replay step (unstarted {} 2) oneKilled = some (_, _) := rfl
  have ranOff : GatedRun.replay step (unstarted {} 2)
      (oneKilled.take 15 ++ [.detach, .work 0, .work 0]) = some (_, _) := rfl
  obtain ⟨accounts, -⟩ := log_accounts_for_workers 2 {} _ rfl _ _ _ ranShut
  obtain ⟨-, -, -, -, off⟩ := log_accounts_for_workers 2 {} _ rfl _ _ _ ranOff
  obtain ⟨before, first, more, -, told, once, -, unclosed⟩ := off _ _ rfl
  obtain ⟨size, none⟩ := unclosed (by simp [oneKilled])
  exact ⟨⟨_, _, ranShut, accounts rfl rfl, rfl, rfl⟩,
    ⟨_, before, _, first, more, ranOff, told, size, once, none⟩⟩

end Pool

end GatedRun
