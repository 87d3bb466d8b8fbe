import GatedRun.Proofs.Pool.Completion
import GatedRun.Proofs.Runner

/-!
# The making of a pool

A pool is made whole or not at all. An unsound configuration or size is refused before anything is
started. After that the system decides, worker by worker, whether there is a thread; the workers
that are there already go on meanwhile, as far as they can. If all threads are granted the pool
opens with all its workers. If one is refused, the queue is closed and the workers started so far
are joined, and as nobody could submit anything, they leave without having run a job.

`Sound.unused` is what is known of a pool that is still being made. From it follow that the making
cannot get stuck (`Sound.can_go`) and has an end (`Transition.launchLeft_lt`), and what the pool is
like by then (`Sound.returned`).
-/

namespace GatedRun

variable {J : Type}

/-! ### The decisions of the system -/

/-- What the system makes of the request for a thread, if the move is one. -/
@[simp] def PoolMove.grant? : PoolMove J → Option Grant
  | .spawn grant => some grant
  | _ => none

/-- What the system has decided, thread by thread. -/
def decisions (moves : List (PoolMove J)) : List Grant := moves.filterMap PoolMove.grant?

/-! ### The start of a pool in the log -/

@[simp] def PoolNote.tellsStart : PoolNote J → Bool
  | .logged _ (.poolStarted _ _) => true
  | _ => false

/-- The notes that tell of the start of a pool. -/
def starts (notes : List (PoolNote J)) : List (PoolNote J) := notes.filter PoolNote.tellsStart

@[simp] theorem starts_append (notes more : List (PoolNote J)) :
    starts (notes ++ more) = starts notes ++ starts more :=
  List.filter_append notes more

/-! ### Unused workers -/

namespace WorkerPhase

/-- Whether the worker has not taken any job. -/
@[simp] def isUnused : WorkerPhase J → Bool
  | .idle | .receiving | .leaving | .exited => true
  | _ => false

@[simp] def isIdle : WorkerPhase J → Bool
  | .idle => true
  | _ => false

/-- Whether the worker is yet to learn that no job will come. -/
@[simp] def isWaiting : WorkerPhase J → Bool
  | .idle | .receiving => true
  | _ => false

end WorkerPhase

namespace Pool

variable {pool next last : Pool J} {move : PoolMove J} {notes told : List (PoolNote J)}

/-- The pool is being made, or was given up. -/
def Nascent (pool : Pool J) : Prop := pool.stage = .launching ∨ pool.stage.Retreats

/-- The names of the threads of a pool. -/
def threadNames (pool : Pool J) : List String :=
  (List.range pool.workers.length).map pool.config.workerName

/-- The steps that are left to make a pool or to give it up: to start each worker, to let it wait,
learn and leave, and to join it. -/
def launchLeft (pool : Pool J) : Nat :=
  (if pool.stage = .launching then 1 + 5 * (pool.width - pool.workers.length) else 0) +
    (pool.workers.length - pool.joined) + pool.workers.countP WorkerPhase.isIdle +
    pool.workers.countP WorkerPhase.isWaiting + pool.workers.countP (!·.isOver)

/-! ### A pool that is being made -/

theorem Nascent.unopened (nascent : pool.Nascent) :
    pool.stage ≠ .accepting ∧ pool.stage ≠ .closed := by
  rcases nascent with stage | ⟨fault, stage⟩ <;> simp [stage]

/-- Nothing was submitted to the pool, and so nothing was done. -/
structure Unused (pool : Pool J) (notes : List (PoolNote J)) : Prop where
  queue : pool.queue = []
  calls : pool.calls = []
  stints : stints notes = []
  counters : pool.submitted = 0 ∧ pool.completed = 0 ∧ pool.panicked = 0
  workers : ∀ phase ∈ pool.workers, phase.isUnused = true

theorem Sound.unused (sound : pool.Sound notes) (nascent : pool.Nascent) : pool.Unused notes := by
  have calls := sound.staffed.calls nascent.unopened.1
  -- The jobs taken and those in the queue are among those accepted, and there are none.
  have none := sound.stocked.unused nascent
  have order := sound.stocked.order
  rw [none] at order
  simp only [List.nil_eq, List.append_eq_nil_iff, List.map_eq_nil_iff] at order
  obtain ⟨begun, -, queue⟩ := order
  have submitted := sound.stocked.submitted
  have counted := sound.tallied.counted
  have ended := sound.tallied.ended fun _ => true
  have killed := sound.tallied.killed
  rw [begun] at counted ended
  rw [List.countP_true, List.countP_nil, List.length_eq_zero_iff] at ended
  rw [ended] at killed
  simp only [none, calls, List.length_nil, List.count_nil] at submitted counted killed
  refine ⟨queue, calls, begun, ⟨submitted, by omega, by omega⟩, ?_⟩
  -- A worker with another phase has a job at hand, or was killed by one.
  intro phase member
  have engaged := List.countP_eq_zero.mp (by omega : pool.workers.countP WorkerPhase.isEngaged = 0)
    phase member
  have doomed := List.countP_eq_zero.mp killed.symm phase member
  cases phase with
  | running | reporting => exact absurd rfl engaged
  | dying | dead => exact absurd rfl doomed
  | idle | receiving | leaving | exited => rfl

/-- As long as workers are being started, all wait for jobs, and none is joined. -/
theorem Sound.all_waiting (sound : pool.Sound notes) (stage : pool.stage = .launching) :
    (∀ phase ∈ pool.workers, phase.isWaiting = true) ∧ pool.joined = 0 := by
  have waiting : ∀ phase ∈ pool.workers, phase.isWaiting = true := by
    intro phase member
    have unused := (sound.unused (.inl stage)).workers phase member
    have stays (left : phase.hasLeft = true) : False :=
      (sound.stocked.left phase member left).2.2.1 stage
    cases phase with
    | idle | receiving => rfl
    | leaving | exited => exact (stays rfl).elim
    | _ => cases unused
  refine ⟨waiting, Nat.eq_zero_of_not_pos fun some => ?_⟩
  -- Whoever is joined is over.
  obtain ⟨phase, held, gone⟩ := sound.staffed.joined 0 some
  have waits := waiting phase (List.mem_of_getElem? held)
  cases phase with
  | idle | receiving => cases gone
  | _ => cases waits

/-- A pool that was given up has only workers that have left, once all are joined. -/
theorem Sound.all_exited (sound : pool.Sound notes) (nascent : pool.Nascent)
    (joined : pool.isJoined = true) :
    pool.workers = List.replicate pool.workers.length .exited := by
  refine List.eq_replicate_of_mem fun phase member => ?_
  have unused := (sound.unused nascent).workers phase member
  have gone := isQuiet_iff.mp (sound.staffed.quiet_of_joined joined) phase member
  cases phase with
  | exited => rfl
  | dead => cases unused
  | _ => cases gone

/-! ### The making comes to an end -/

theorem Sound.can_receive (sound : pool.Sound notes) (retreats : pool.stage.Retreats)
    (worker : Nat) (at_ : pool.workers[worker]? = some .receiving) :
    ∃ next told, pool.step (.work worker) = some (next, told) := by
  have empty := (sound.unused (.inr retreats)).queue
  obtain ⟨fault, stage⟩ := retreats
  exact ⟨_, _, by simp only [Pool.step, work, at_, receive, empty, stage]; rfl⟩

theorem nascent_of_made (made : pool.made? = none) : pool.Nascent := by
  cases stage : pool.stage with
  | launching => exact .inl stage
  | retreating fault => exact .inr ⟨fault, stage⟩
  | _ => simp [made?, stage] at made

/-- A pool that was given up and is not made has a worker to join. -/
theorem Sound.joined_lt (sound : pool.Sound notes) (made : pool.made? = none)
    (retreats : pool.stage.Retreats) : pool.joined < pool.workers.length := by
  obtain ⟨fault, stage⟩ := retreats
  have apart : pool.joined ≠ pool.workers.length := by
    simpa [made?, stage, isJoined] using made
  exact Nat.lt_of_le_of_ne sound.staffed.joined_le apart

/-- The owner of a pool that was given up waits for a worker at most, and that one for the lock. -/
theorem Sound.can_retreat (sound : pool.Sound notes) (made : pool.made? = none)
    (retreats : pool.stage.Retreats) :
    ∃ move next told, pool.step move = some (next, told) ∧ move.grant? = none := by
  have below := sound.joined_lt made retreats
  have at_ := List.getElem?_eq_getElem below
  have unused := (sound.unused (.inr retreats)).workers _ (List.getElem_mem below)
  generalize pool.workers[pool.joined] = phase at at_ unused
  cases phase with
  | idle =>
    cases free : pool.lockIsFree with
    | true => exact ⟨.work pool.joined, _, _, by simp only [Pool.step, work, at_, free]; rfl, rfl⟩
    | false =>
      obtain ⟨holder, held⟩ := exists_receiving free
      obtain ⟨next, told, stepped⟩ := sound.can_receive retreats holder held
      exact ⟨.work holder, next, told, stepped, rfl⟩
  | receiving =>
    obtain ⟨next, told, stepped⟩ := sound.can_receive retreats pool.joined at_
    exact ⟨.work pool.joined, next, told, stepped, rfl⟩
  | leaving => exact ⟨.work pool.joined, _, _, by simp only [Pool.step, work, at_]; rfl, rfl⟩
  | exited =>
    obtain ⟨fault, stage⟩ := retreats
    exact ⟨.join, _, _, by simp only [Pool.step, join, stage, at_]; rfl, rfl⟩
  | _ => cases unused

theorem can_spawn (stage : pool.stage = .launching) (grant : Grant) :
    ∃ next told, pool.step (.spawn grant) = some (next, told) := by
  simp only [step, spawn, stage]
  cases grant with
  | refused fault => exact ⟨_, _, rfl⟩
  | given =>
    simp only
    split <;> exact ⟨_, _, rfl⟩

/-- Until the making has ended somebody can go on, whatever the system decides next. -/
theorem Sound.can_go (sound : pool.Sound notes) (made : pool.made? = none) (grant : Grant) :
    ∃ move next told, pool.step move = some (next, told) ∧
      ∀ decided, move.grant? = some decided → decided = grant := by
  rcases nascent_of_made made with stage | stage
  · obtain ⟨next, told, spawned⟩ := can_spawn stage grant
    exact ⟨.spawn grant, next, told, spawned, fun decided same => (Option.some.inj same).symm⟩
  · obtain ⟨move, next, told, stepped, none⟩ := sound.can_retreat made stage
    refine ⟨move, next, told, stepped, fun decided some => ?_⟩
    rw [none] at some
    cases some

/-- Until the making has ended there is a step left. -/
theorem Sound.launchLeft_pos (sound : pool.Sound notes) (made : pool.made? = none) :
    0 < pool.launchLeft := by
  unfold launchLeft
  rcases nascent_of_made made with stage | stage
  · rw [if_pos stage]
    omega
  · have below := sound.joined_lt made stage
    omega

/-- A worker that goes on takes off what it has left itself. -/
theorem WorkerStep.launchLeft_lt {worker : Nat} {old phase : WorkerPhase J}
    (went : WorkerStep pool next worker old phase)
    (less : (if phase.isIdle then 1 else 0) + (if phase.isWaiting then 1 else 0) +
        (if phase.isOver then 0 else 1) <
      (if old.isIdle then 1 else 0) + (if old.isWaiting then 1 else 0) +
        (if old.isOver then 0 else 1)) : next.launchLeft < pool.launchLeft := by
  have idle := went.countP WorkerPhase.isIdle
  have waiting := went.countP WorkerPhase.isWaiting
  have on := went.countP (!·.isOver)
  have length : next.workers.length = pool.workers.length := by rw [went.workers, List.length_set]
  simp only [Bool.not_eq_true', ← Bool.not_eq_true, ite_not] at on
  unfold launchLeft
  rw [went.stage, went.width, went.joined, length]
  omega

/-- Every step brings the end of the making closer. -/
theorem Transition.launchLeft_lt (sound : pool.Sound notes) (nascent : pool.Nascent)
    (transition : pool.Transition move next told) : next.launchLeft < pool.launchLeft := by
  have unused := sound.unused nascent
  obtain ⟨unopened, unclosed⟩ := nascent.unopened
  have manned := sound.staffed.manned
  cases transition with
  -- A start takes off five steps and adds four: the worker is to wait, learn, leave and be joined.
  | spawned stage more | opened stage last =>
    simp only [stage, Manned] at manned
    simp only [launchLeft, stage, List.length_append, List.length_singleton, List.countP_append,
      List.countP_singleton, WorkerPhase.isIdle, WorkerPhase.isWaiting, WorkerPhase.isOver,
      Bool.not_false, reduceCtorEq, if_true, if_false]
    omega
  | refused fault stage =>
    simp only [launchLeft, stage, reduceCtorEq, if_true, if_false]
    omega
  | joined stage at_ =>
    have below := (List.getElem?_eq_some_iff.mp at_).1
    simp only [launchLeft]
    omega
  | closed stage | detached stage =>
    rcases stage with stage | stage
    · exact absurd stage unopened
    · exact absurd stage unclosed
  | counted _ _ _ stage => exact absurd stage unopened
  | turnedAway _ _ _ stage => exact absurd stage unclosed
  | sent _ _ _ call | bounced _ _ _ call | withdrawn _ _ _ call =>
    exact absurd (sound.staffed.accepting_of_call _ _ call) unopened
  | locked worker at_ =>
    refine WorkerStep.launchLeft_lt ⟨at_, rfl, rfl, rfl, rfl, rfl, rfl⟩ ?_
    simp [WorkerPhase.isOver]
  | took worker job rest at_ queue =>
    rw [unused.queue] at queue
    cases queue
  | foundNone worker at_ =>
    refine WorkerStep.launchLeft_lt ⟨at_, rfl, rfl, rfl, rfl, rfl, rfl⟩ ?_
    simp [WorkerPhase.isOver]
  | exited worker next told at_ left =>
    exact (over_workerStep worker _ _ _ at_ rfl left).launchLeft_lt (by simp [WorkerPhase.isOver])
  -- All others are steps after a job was taken.
  | joinedDead _ at_ | reported _ _ _ _ at_ | died _ _ _ at_ | progressed _ _ _ at_
  | finished _ _ _ at_ => cases unused.workers _ (List.mem_of_getElem? at_)

/-! ### What is decided, and what is logged -/

/-- What the pool was given up for, if it was. -/
def refusal? (pool : Pool J) : Option SpawnFault :=
  match pool.stage with
  | .retreating fault => some fault
  | _ => none

theorem refusal?_eq_none (settled : ¬ pool.stage.Retreats) : pool.refusal? = none := by
  unfold refusal?
  split
  next fault stage => exact absurd ⟨fault, stage⟩ settled
  · rfl

/-- The system granted each worker that was started its thread, and refused another one its own if
the pool was given up. -/
def Decided (pool : Pool J) (seen : List Grant) : Prop :=
  seen = List.replicate pool.workers.length .given ++ (pool.refusal?.map Grant.refused).toList

/-- A step that asks for no thread starts no worker, and neither begins nor ends the making. -/
theorem Transition.of_no_spawn (transition : pool.Transition move next told)
    (other : move.grant? = none) :
    next.workers.length = pool.workers.length ∧ starts told = [] ∧
      (next.stage = pool.stage ∨ ¬ pool.Nascent ∧ ¬ next.Nascent) := by
  cases transition with
  | spawned | opened | refused => cases other
  | closed stage | detached stage =>
    refine ⟨rfl, rfl, .inr ?_⟩
    rcases stage with stage | stage <;> simp [Nascent, PoolStage.Retreats, stage]
  | locked | took | foundNone | progressed | finished =>
    exact ⟨List.length_set, rfl, .inl rfl⟩
  | reported worker ending next told at_ report =>
    cases ending <;> cases report <;> exact ⟨List.length_set, rfl, .inl rfl⟩
  | died worker next told at_ lost =>
    rcases dropQueue_cases _ _ lost with ⟨-, rfl, rfl⟩ | ⟨-, rfl, rfl⟩ <;>
      exact ⟨List.length_set, rfl, .inl rfl⟩
  | exited worker next told at_ left =>
    rcases dropQueue_cases _ _ left with ⟨-, rfl, rfl⟩ | ⟨-, rfl, rfl⟩ <;>
      exact ⟨List.length_set, rfl, .inl rfl⟩
  | _ => exact ⟨rfl, rfl, .inl rfl⟩

theorem Transition.decided {seen : List Grant} (transition : pool.Transition move next told)
    (decided : pool.Decided seen) : next.Decided (seen ++ move.grant?.toList) := by
  cases asked : move.grant? with
  | none =>
    obtain ⟨length, -, stage⟩ := transition.of_no_spawn asked
    have same : next.refusal? = pool.refusal? := by
      rcases stage with stage | ⟨before, after⟩
      · rw [refusal?, refusal?, stage]
      · rw [refusal?_eq_none (after <| .inr ·), refusal?_eq_none (before <| .inr ·)]
    simpa only [Decided, length, same, Option.toList_none, List.append_nil] using decided
  | some grant =>
    unfold Decided at decided
    cases transition with
    | spawned stage | opened stage =>
      cases asked
      simp [Decided, decided, refusal?, stage, List.replicate_succ']
    | refused fault stage =>
      cases asked
      simp [Decided, decided, refusal?, stage]
    | _ => cases asked

/-- A pool that is being made was being made before, and does not tell that it was started. -/
theorem Transition.nascent (transition : pool.Transition move next told)
    (nascent : next.Nascent) : pool.Nascent ∧ starts told = [] := by
  cases asked : move.grant? with
  | none =>
    obtain ⟨-, silent, stage⟩ := transition.of_no_spawn asked
    rcases stage with stage | ⟨-, after⟩
    · exact ⟨by rwa [Nascent, stage] at nascent, silent⟩
    · exact absurd nascent after
  | some grant =>
    cases transition with
    | spawned stage | refused fault stage => exact ⟨.inl stage, rfl⟩
    | opened => rcases nascent with stage | ⟨fault, stage⟩ <;> cases stage
    | _ => cases asked

/-- A pool that is no longer being made was opened by its last worker. -/
theorem Transition.opened_of_nascent (transition : pool.Transition move next told)
    (nascent : pool.Nascent) (made : ¬ next.Nascent) :
    pool.stage = .launching ∧
      next = { pool with workers := pool.workers ++ [.idle], stage := .accepting } ∧
      told = [.logged .owner (.poolStarted pool.width pool.config.threadNamePrefix)] := by
  cases asked : move.grant? with
  | none =>
    rcases (transition.of_no_spawn asked).2.2 with stage | ⟨before, -⟩
    · rw [Nascent, stage] at made
      exact absurd nascent made
    · exact absurd nascent before
  | some grant =>
    cases transition with
    | spawned stage => exact absurd (.inl stage) made
    | refused fault stage => exact absurd (.inr ⟨fault, rfl⟩) made
    | opened stage last => exact ⟨stage, rfl, rfl⟩
    | _ => cases asked

/-! ### Runs -/

/-- While a pool is being made it has not told of its start, and the moves so far were some of those
that it takes. -/
theorem Sound.replay_nascent (sound : pool.Sound notes) (moves : List (PoolMove J))
    (ran : GatedRun.replay Pool.step pool moves = some (last, told)) (nascent : last.Nascent) :
    pool.Nascent ∧ starts told = [] ∧ moves.length + last.launchLeft ≤ pool.launchLeft := by
  induction moves generalizing pool notes told with
  | nil =>
    obtain ⟨rfl, rfl⟩ := (replay_nil_iff pool last told).mp ran
    exact ⟨nascent, rfl, by simp⟩
  | cons move moves ih =>
    obtain ⟨next, first, more, stepped, rest, rfl⟩ :=
      (replay_cons_iff pool last move moves told).mp ran
    -- Since the making goes on at the end, it went on before each step.
    obtain ⟨begun, none, bound⟩ := ih (sound.step stepped) rest
    have transition := step_transition move stepped
    obtain ⟨before, silent⟩ := transition.nascent begun
    have less := transition.launchLeft_lt sound before
    refine ⟨before, by rw [starts_append, silent, none]; rfl, ?_⟩
    rw [List.length_cons]
    omega

theorem decided_replay (moves : List (PoolMove J)) (fresh : pool.workers = [])
    (stage : pool.stage = .launching)
    (ran : GatedRun.replay step pool moves = some (last, notes)) :
    last.Decided (decisions moves) := by
  have kept := observed_preserves (fun _ move => PoolMove.grant? move) Decided pool last moves []
    notes ?_ (by simp [Decided, refusal?, fresh, stage]) ran
  · rwa [observed_eq_filterMap PoolMove.grant? pool last moves notes ran] at kept
  intro state move next seen told _ decided stepped
  exact (step_transition move stepped).decided decided

/-! ### The end of the making -/

/-- A pool that was given up when one of its workers was refused a thread. The workers before it
have left without having run a job, and were joined. -/
structure GivenUp (width worker : Nat) (pool : Pool J) (notes : List (PoolNote J)) : Prop where
  below : worker < width
  workers : pool.workers = List.replicate worker .exited
  joined : pool.joined = worker
  stints : stints notes = []
  silent : starts notes = []

/-- A pool that was just opened, with as many workers as it should have and nothing to do. -/
structure Opened (width : Nat) (config : Config) (pool : Pool J) (notes : List (PoolNote J)) :
    Prop where
  opened : pool.isOpen = true
  size : pool.size = width
  workers : pool.workers.length = width
  waiting : ∀ phase ∈ pool.workers, phase.isWaiting = true
  queue : pool.queue = []
  calls : pool.calls = []
  stats : pool.stats = ⟨width, 0, 0, 0⟩
  told : starts notes = [.logged .owner (.poolStarted width config.threadNamePrefix)]
  names : pool.threadNames = (List.range width).map fun worker =>
    config.threadNamePrefix ++ "-" ++ toString worker
  distinct : pool.threadNames.Nodup

theorem Sound.givenUp (sound : pool.Sound notes) (retreats : pool.stage.Retreats)
    (joined : pool.isJoined = true) (silent : starts notes = []) :
    pool.GivenUp pool.width pool.workers.length notes := by
  have manned := sound.staffed.manned
  have below : pool.workers.length < pool.width := by
    obtain ⟨fault, stage⟩ := retreats
    rwa [stage] at manned
  exact ⟨below, sound.all_exited (.inr retreats) joined, isJoined_iff.mp joined,
    (sound.unused (.inr retreats)).stints, silent⟩

theorem nodup_threadNames (pool : Pool J) : pool.threadNames.Nodup :=
  List.nodup_range.map pool.config.workerName_injective

/-- The last worker opens a pool to which nobody has submitted anything. -/
theorem Sound.opened (sound : pool.Sound notes) (transition : pool.Transition move next told)
    (nascent : pool.Nascent) (made : ¬ next.Nascent) (silent : starts notes = []) :
    next.Opened pool.width pool.config (notes ++ told) := by
  have staffed := sound.staffed.step transition
  obtain ⟨stage, rfl, rfl⟩ := transition.opened_of_nascent nascent made
  obtain ⟨waiting, none⟩ := sound.all_waiting stage
  have unused := sound.unused nascent
  obtain ⟨submitted, completed, panicked⟩ := unused.counters
  have manned := staffed.manned
  simp only [Manned] at manned
  refine ⟨rfl, ?_, manned, ?_, unused.queue, unused.calls, ?_, ?_, ?_, nodup_threadNames _⟩
  · simp only [size, manned, none, Nat.sub_zero]
  · intro phase member
    rcases List.mem_append.mp member with member | last
    · exact waiting phase member
    · rw [List.mem_singleton.mp last]
      rfl
  · simp only [stats, statsAcross, size, manned, none, submitted, completed, panicked, Nat.sub_zero]
  · rw [starts_append, silent]
    rfl
  · rw [threadNames, manned]
    rfl

/-- The making ends with all workers of a pool that was given up joined, or with an open one. -/
theorem made_cases (answer : Except RunError Unit) (made : pool.made? = some answer) :
    (∃ fault, pool.stage = .retreating fault ∧ pool.isJoined = true ∧
      answer = .error (.spawn fault)) ∨ ¬ pool.Nascent ∧ answer = .ok () := by
  cases stage : pool.stage with
  | launching => simp [made?, stage] at made
  | retreating fault =>
    cases joined : pool.isJoined with
    | false => simp [made?, stage, joined] at made
    | true => exact .inl ⟨fault, rfl, rfl, by simpa [made?, stage, joined, eq_comm] using made⟩
  | _ =>
    refine .inr ⟨by simp [Nascent, PoolStage.Retreats, stage], ?_⟩
    simpa [made?, stage, eq_comm] using made

/-- What whoever makes a pool gets is what the system has decided. -/
theorem Sound.returned (sound : pool.Sound notes) (stepped : pool.step move = some (next, told))
    (making : pool.Nascent) (silent : starts notes = []) (seen : List Grant)
    (decided : next.Decided seen) (answer : Except RunError Unit)
    (made : next.made? = some answer) :
    (∃ fault worker, answer = .error (.spawn fault) ∧
      seen = List.replicate worker .given ++ [.refused fault] ∧
      next.GivenUp next.width worker (notes ++ told)) ∨
    answer = .ok () ∧ seen = List.replicate next.width .given ∧
      next.Opened next.width next.config (notes ++ told) := by
  have transition := step_transition move stepped
  have after := sound.step stepped
  rcases made_cases answer made with ⟨fault, stage, joined, rfl⟩ | ⟨nascent, rfl⟩
  · refine .inl ⟨fault, next.workers.length, rfl, ?_, ?_⟩
    · rw [decided, refusal?, stage]
      rfl
    · refine after.givenUp ⟨fault, stage⟩ joined ?_
      rw [starts_append, silent, (transition.nascent (.inr ⟨fault, stage⟩)).2]
      rfl
  · have opened := sound.opened transition making nascent silent
    rw [← transition.fixed.width, ← transition.fixed.config] at opened
    refine .inr ⟨rfl, ?_, opened⟩
    rw [decided, refusal?_eq_none (nascent <| .inr ·), opened.workers]
    simp

theorem create_eq_error_iff (width : Nat) (config : Config) (fault : ArgumentFault) :
    create (J := J) width config = .error fault ↔
      config.check = .error fault ∨ config.check = .ok () ∧ width = 0 ∧ fault = .poolSize := by
  unfold create
  cases checked : config.check with
  | error first => simp
  | ok => by_cases zero : width = 0 <;> simp [zero, eq_comm]

/-- A pool is made whole or not at all. An unsound configuration, then a size of zero, is refused
before there is a pool. Otherwise, however the system decides and whoever goes on first, the making
goes on until it has ended, and ends. If a worker was refused its thread, whoever makes the pool is
told of the fault, and by then the workers before it have left without having run a job and the
start of the pool was not logged. If none was, the pool is open with all its workers. -/
theorem construction_is_atomic (width : Nat) (config : Config) :
    (∀ fault, create (J := J) width config = .error fault ↔
      config.check = .error fault ∨ config.check = .ok () ∧ width = 0 ∧ fault = .poolSize) ∧
    ∀ fresh : Pool J, create width config = .ok fresh →
      fresh.workers = [] ∧ fresh.made? = none ∧
      ∀ (moves : List (PoolMove J)) (pool : Pool J) (notes : List (PoolNote J)),
        GatedRun.replay step fresh moves = some (pool, notes) → pool.made? = none →
        moves.length ≤ 5 * width ∧
        (∀ grant, ∃ move next told, pool.step move = some (next, told) ∧
          ∀ decided, move.grant? = some decided → decided = grant) ∧
        ∀ move next told answer, pool.step move = some (next, told) → next.made? = some answer →
          (∃ fault worker, answer = .error (.spawn fault) ∧
            decisions (moves ++ [move]) = List.replicate worker .given ++ [.refused fault] ∧
            next.GivenUp width worker (notes ++ told)) ∨
          answer = .ok () ∧ decisions (moves ++ [move]) = List.replicate width .given ∧
            next.Opened width config (notes ++ told) := by
  refine ⟨create_eq_error_iff width config, ?_⟩
  intro fresh created
  have fair := create_soundFor width config created
  obtain ⟨-, -, rfl⟩ := (create_eq_ok_iff width config).mp created
  refine ⟨rfl, rfl, ?_⟩
  intro moves pool notes ran going
  have sound : pool.SoundFor width config notes := fair.replay moves ran
  have nascent := nascent_of_made going
  obtain ⟨-, silent, bound⟩ := fair.toSound.replay_nascent moves ran nascent
  have left := sound.toSound.launchLeft_pos going
  refine ⟨?_, sound.toSound.can_go going, ?_⟩
  · have budget : (unstarted (J := J) config width).launchLeft = 1 + 5 * width := by
      simp [launchLeft, unstarted]
    omega
  -- The making is over with this step, and what the system decided is told by all the moves.
  · intro move next told answer stepped made
    have after := decided_replay (moves ++ [move]) rfl rfl
      ((replay_append_iff _ next moves [move] _).mpr ⟨pool, notes, told, ran,
        (replay_cons_iff pool next move [] told).mpr ⟨next, told, [], stepped, rfl, by simp⟩, rfl⟩)
    have fixed := (step_transition move stepped).fixed
    have returned := sound.toSound.returned stepped nascent silent _ after answer made
    rwa [fixed.width, fixed.config, sound.width, sound.config] at returned

/-- The third worker of a pool is refused its thread while the first one waits for a job and the
second one has not begun to. -/
def oneRefused : List (PoolMove Nat) :=
  [.spawn .given, .work 0, .spawn .given, .spawn (.refused (.reported "none left")), .work 0,
    .work 1, .work 0, .join, .work 1, .work 1]

/-- With a faulty configuration and no workers it is the configuration that is refused; of three
threads the last one is refused; and two threads are granted, with the first worker at its wait. -/
theorem construction_is_atomic_refused :
    create (J := Nat) 0 { threadCount := some 1 } = .error (.threadCount 1) ∧
    (∃ pool next notes told,
      GatedRun.replay step (unstarted (J := Nat) {} 3) oneRefused = some (pool, notes) ∧
      pool.made? = none ∧ pool.step .join = some (next, told) ∧
      next.made? = some (.error (.spawn (.reported "none left"))) ∧
      ∃ fault worker, decisions (oneRefused ++ [.join]) =
          List.replicate worker .given ++ [.refused fault] ∧
        next.GivenUp 3 worker (notes ++ told)) ∧
    ∃ pool next notes told,
      GatedRun.replay step (unstarted (J := Nat) {} 2) [.spawn .given, .work 0] =
        some (pool, notes) ∧
      pool.made? = none ∧ pool.step (.spawn .given) = some (next, told) ∧
      next.made? = some (.ok ()) ∧ next.Opened 2 {} (notes ++ told) := by
  have ranThree : GatedRun.replay step (unstarted {} 3) oneRefused = some (_, _) := rfl
  have ranTwo : GatedRun.replay step (unstarted (J := Nat) {} 2) [.spawn .given, .work 0] =
    some (_, _) := rfl
  have faulty := (construction_is_atomic (J := Nat) 0 { threadCount := some 1 }).1 (.threadCount 1)
  have three := ((construction_is_atomic (J := Nat) 3 {}).2 _ rfl).2.2 _ _ _ ranThree rfl
  have two := ((construction_is_atomic (J := Nat) 2 {}).2 _ rfl).2.2 _ _ _ ranTwo rfl
  refine ⟨faulty.mpr (.inl rfl), ?_, ?_⟩
  · rcases three.2.2 .join _ _ _ rfl rfl with ⟨fault, worker, -, refused⟩ | ⟨answer, -⟩
    · exact ⟨_, _, _, _, ranThree, rfl, rfl, rfl, fault, worker, refused⟩
    · cases answer
  · rcases two.2.2 (.spawn .given) _ _ _ rfl rfl with ⟨_, _, answer, -⟩ | ⟨-, -, opened⟩
    · cases answer
    · exact ⟨_, _, _, _, ranTwo, rfl, rfl, rfl, opened⟩

end Pool

end GatedRun
