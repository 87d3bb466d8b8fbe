import GatedRun.Proofs.Pool.Ledger
import Mathlib.Data.List.Nodup

/-!
# Every pool is sound

What holds in every state of a pool, as one structure for each concern.

* `Staffed`: how many workers there are, who was joined, and who is submitting.
* `Stocked`: the jobs accepted are those taken, those lost with the queue and those in it, in the
  order in which they were sent; a worker leaves only an empty queue.
* `Tallied`: each worker that runs a job has one stint open, and the counters tell how the stints
  ended.

Every transition keeps all three (`Sound.step`), so they hold after any moves of a pool that was
created (`SoundFor.replay`).
-/

namespace GatedRun

variable {J : Type}

/-! ### What a worker has at hand -/

namespace WorkerPhase

@[simp] def isRunning : WorkerPhase J → Bool
  | .running _ => true
  | _ => false

/-- Whether the worker has taken a job that it has not counted. -/
@[simp] def isEngaged : WorkerPhase J → Bool
  | .running _ | .reporting _ => true
  | _ => false

/-- Whether the worker's last job takes it down, or has done so. -/
@[simp] def isDoomed : WorkerPhase J → Bool
  | .reporting .lethal | .dying | .dead => true
  | _ => false

/-- Whether the worker has learnt that no job will come. -/
@[simp] def hasLeft : WorkerPhase J → Bool
  | .leaving | .exited => true
  | _ => false

end WorkerPhase

namespace Pool

/-! ### Sound pools -/

def Manned (pool : Pool J) : PoolStage → Prop
  | .launching | .retreating _ => pool.workers.length < pool.width
  | _ => pool.workers.length = pool.width

structure Staffed (pool : Pool J) : Prop where
  manned : pool.Manned pool.stage
  joined : ∀ worker, worker < pool.joined → ∃ phase, pool.workers[worker]? = some phase ∧
    phase.isOver = true
  calls : pool.stage ≠ .accepting → pool.calls = []
  callers : (pool.calls.map SubmitCall.caller).Nodup

structure Stocked (pool : Pool J) (notes : List (PoolNote J)) : Prop where
  order : accepts notes = (stints notes).map Stint.job ++ (losses notes ++ pool.queue)
  submitted : pool.submitted = (accepts notes).length + pool.calls.length
  unused : pool.stage = .launching ∨ pool.stage.Retreats → accepts notes = []
  kept : pool.hasReceiver = true → losses notes = []
  left : ∀ phase ∈ pool.workers, phase.hasLeft = true → pool.queue = [] ∧ losses notes = [] ∧
    pool.stage ≠ .launching ∧ pool.stage ≠ .accepting

structure Tallied (pool : Pool J) (notes : List (PoolNote J)) : Prop where
  counted : (stints notes).length =
    pool.completed + pool.panicked + pool.workers.countP WorkerPhase.isEngaged
  held : ∀ worker, (stints notes).countP (Stint.isOpenFor worker) =
    if pool.workers[worker]?.any WorkerPhase.isRunning then 1 else 0
  ended : ∀ test, (endings notes).countP test = (stints notes).countP (Stint.endedAs test)
  killed : (endings notes).count .lethal = pool.workers.countP WorkerPhase.isDoomed

structure Sound (pool : Pool J) (notes : List (PoolNote J)) : Prop where
  staffed : pool.Staffed
  stocked : pool.Stocked notes
  tallied : pool.Tallied notes

variable {pool next after : Pool J} {move : PoolMove J} {notes told : List (PoolNote J)}

/-! ### Steps of a worker -/

/-- A worker that was not over has gone on from one phase to another, and nothing else has changed
apart from the queue and the counters. -/
structure WorkerStep (pool after : Pool J) (worker : Nat) (old phase : WorkerPhase J) : Prop where
  held : pool.workers[worker]? = some old
  on : old.isOver = false
  workers : after.workers = pool.workers.set worker phase
  stage : after.stage = pool.stage
  width : after.width = pool.width
  joined : after.joined = pool.joined
  calls : after.calls = pool.calls

namespace WorkerStep

variable {worker : Nat} {old phase : WorkerPhase J}

theorem below (went : WorkerStep pool after worker old phase) : worker < pool.workers.length :=
  (List.getElem?_eq_some_iff.mp went.held).1

theorem receiver (went : WorkerStep pool after worker old phase) : pool.hasReceiver = true :=
  List.any_eq_true.mpr ⟨old, List.mem_of_getElem? went.held, by rw [went.on]; rfl⟩

theorem countP (went : WorkerStep pool after worker old phase) (test : WorkerPhase J → Bool) :
    after.workers.countP test + (if test old then 1 else 0) =
      pool.workers.countP test + (if test phase then 1 else 0) := by
  rw [went.workers]
  exact countP_set_add test pool.workers worker old phase went.held

theorem any (went : WorkerStep pool after worker old phase) (other : Nat)
    (test : WorkerPhase J → Bool) : after.workers[other]?.any test =
      if other = worker then test phase else pool.workers[other]?.any test := by
  rw [went.workers]
  by_cases same : other = worker
  · subst same
    simp [went.below]
  · simp [List.getElem?_set_ne (Ne.symm same), same]

theorem mem (went : WorkerStep pool after worker old phase) (other : WorkerPhase J)
    (member : other ∈ after.workers) : other = phase ∨ other ∈ pool.workers := by
  rw [went.workers] at member
  exact (List.mem_or_eq_of_mem_set member).symm

end WorkerStep

/-! ### The workers and the callers -/

theorem Staffed.accepting_of_call (staffed : pool.Staffed) (caller : Nat) (call : SubmitCall J)
    (found : pool.calls.find? (·.caller == caller) = some call) : pool.stage = .accepting := by
  by_contra shut
  rw [staffed.calls shut] at found
  cases found

/-- A worker that was joined is over, so it is not the one that goes on. -/
theorem Staffed.joined_le_worker {worker : Nat} {old phase : WorkerPhase J}
    (staffed : pool.Staffed) (went : WorkerStep pool after worker old phase) :
    pool.joined ≤ worker := by
  refine Nat.le_of_not_lt fun below => ?_
  obtain ⟨phase', held, gone⟩ := staffed.joined worker below
  obtain rfl := Option.some.inj (went.held.symm.trans held)
  exact Bool.false_ne_true (went.on.symm.trans gone)

theorem Staffed.workerStep {worker : Nat} {old phase : WorkerPhase J} (staffed : pool.Staffed)
    (went : WorkerStep pool after worker old phase) : after.Staffed := by
  have length : after.workers.length = pool.workers.length := by
    rw [went.workers, List.length_set]
  refine ⟨?_, ?_, ?_, ?_⟩
  · have manned := staffed.manned
    rw [went.stage]
    simpa only [Manned, length, went.width] using manned
  · intro other below
    rw [went.joined] at below
    obtain ⟨phase', held, gone⟩ := staffed.joined other below
    have apart : worker ≠ other :=
      (Nat.ne_of_lt (Nat.lt_of_lt_of_le below (staffed.joined_le_worker went))).symm
    exact ⟨phase', by rw [went.workers, List.getElem?_set_ne apart, held], gone⟩
  · rw [went.stage, went.calls]
    exact staffed.calls
  · rw [went.calls]
    exact staffed.callers

/-- A worker that starts is the next one, and it is not over. -/
private theorem Staffed.joined_spawn (staffed : pool.Staffed) (worker : Nat)
    (below : worker < pool.joined) : ∃ phase,
      (pool.workers ++ [.idle])[worker]? = some phase ∧ phase.isOver = true := by
  obtain ⟨phase, held, gone⟩ := staffed.joined worker below
  exact ⟨phase, by rw [List.getElem?_append_left (List.getElem?_eq_some_iff.mp held).1, held],
    gone⟩

private theorem caller_notMem (calls : List (SubmitCall J)) (caller : Nat)
    (fresh : calls.any (·.caller == caller) = false) : caller ∉ calls.map SubmitCall.caller := by
  intro member
  obtain ⟨call, known, rfl⟩ := List.mem_map.mp member
  have some : calls.any (·.caller == call.caller) = true :=
    List.any_eq_true.mpr ⟨call, known, by simp⟩
  rw [fresh] at some
  cases some

theorem callers_bounce (calls : List (SubmitCall J)) (caller : Nat) :
    (calls.map fun call =>
      if call.caller == caller then { call with bounced := true } else call).map
        SubmitCall.caller = calls.map SubmitCall.caller := by
  rw [List.map_map]
  apply List.map_congr_left
  intro call _
  simp only [Function.comp]
  split <;> rfl

private theorem callers_filter (calls : List (SubmitCall J)) (caller : Nat)
    (nodup : (calls.map SubmitCall.caller).Nodup) :
    ((calls.filter (·.caller != caller)).map SubmitCall.caller).Nodup :=
  nodup.sublist (List.filter_sublist.map _)

theorem took_workerStep (worker : Nat) (job : J) (rest : List J)
    (at_ : pool.workers[worker]? = some .receiving) :
    WorkerStep pool { pool.setWorker worker (.running job) with queue := rest } worker .receiving
      (.running job) :=
  ⟨at_, rfl, rfl, rfl, rfl, rfl, rfl⟩

theorem reported_workerStep (worker : Nat) (ending : JobEnding)
    (at_ : pool.workers[worker]? = some (.reporting ending))
    (report : pool.report worker ending = (next, told)) :
    ∃ phase, WorkerStep pool next worker (.reporting ending) phase := by
  cases ending <;> cases report <;> exact ⟨_, at_, rfl, rfl, rfl, rfl, rfl, rfl⟩

/-- What the end of a worker leaves of the queue is all of it, or nothing, and then all is lost. -/
theorem dropQueue_cases (changed : Pool J) (silent : List (PoolNote J))
    (dropped : changed.dropQueue silent = (next, told)) :
    (changed.hasReceiver = true ∧ next = changed ∧ told = silent) ∨
      (changed.hasReceiver = false ∧ next = { changed with queue := [] } ∧
        told = silent ++ [.discarded changed.queue]) := by
  unfold dropQueue at dropped
  split at dropped
  next receiver =>
    cases dropped
    exact .inl ⟨receiver, rfl, rfl⟩
  next receiver =>
    cases dropped
    exact .inr ⟨by simpa using receiver, rfl, rfl⟩

theorem over_workerStep (worker : Nat) (old phase : WorkerPhase J)
    (silent : List (PoolNote J)) (at_ : pool.workers[worker]? = some old)
    (on : old.isOver = false)
    (dropped : (pool.setWorker worker phase).dropQueue silent = (next, told)) :
    WorkerStep pool next worker old phase := by
  rcases dropQueue_cases _ silent dropped with ⟨-, rfl, -⟩ | ⟨-, rfl, -⟩ <;>
    exact ⟨at_, on, rfl, rfl, rfl, rfl, rfl⟩

theorem Staffed.step (staffed : pool.Staffed) (transition : pool.Transition move next told) :
    next.Staffed := by
  have manned := staffed.manned
  cases transition with
  | spawned stage more =>
    refine ⟨?_, staffed.joined_spawn, staffed.calls, staffed.callers⟩
    simpa [Manned, stage] using more
  | opened stage last =>
    have none := staffed.calls (by simp [stage])
    simp only [Manned, stage] at manned
    refine ⟨?_, staffed.joined_spawn, (absurd rfl ·), staffed.callers⟩
    simp only [Manned, List.length_append, List.length_singleton]
    omega
  | refused fault stage =>
    refine ⟨?_, staffed.joined, fun _ => staffed.calls (by simp [stage]), staffed.callers⟩
    simpa only [Manned, stage] using manned
  | closed stage calls =>
    refine ⟨?_, staffed.joined, fun _ => calls, staffed.callers⟩
    rcases stage with stage | stage <;> simpa only [Manned, stage] using manned
  | joined stage exited =>
    refine ⟨manned, ?_, staffed.calls, staffed.callers⟩
    intro worker below
    rcases Nat.lt_succ_iff_lt_or_eq.mp below with below | rfl
    · exact staffed.joined worker below
    · exact ⟨.exited, exited, rfl⟩
  | joinedDead stage dead =>
    refine ⟨manned, ?_, staffed.calls, staffed.callers⟩
    intro worker below
    rcases Nat.lt_succ_iff_lt_or_eq.mp below with below | rfl
    · exact staffed.joined worker below
    · exact ⟨.dead, dead, rfl⟩
  | detached stage calls =>
    refine ⟨?_, staffed.joined, fun _ => calls, staffed.callers⟩
    rcases stage with stage | stage <;> simpa only [Manned, stage] using manned
  | counted caller job fresh stage =>
    refine ⟨manned, staffed.joined, fun shut => absurd stage shut, ?_⟩
    -- The new caller is none of those that are submitting already.
    have distinct := caller_notMem pool.calls caller fresh
    simp only [List.map_append, List.map_cons, List.map_nil]
    exact List.nodup_append.mpr ⟨staffed.callers, List.nodup_singleton _, by
      rintro other member _ single rfl
      rw [List.mem_singleton] at single
      exact distinct (single ▸ member)⟩
  | turnedAway caller job fresh stage => exact staffed
  | sent caller own job call receiver =>
    refine ⟨manned, staffed.joined, fun shut => ?_, callers_filter _ _ staffed.callers⟩
    simp [staffed.calls shut]
  | bounced caller own job call receiver =>
    refine ⟨manned, staffed.joined, fun shut => ?_, ?_⟩
    · simp [staffed.calls shut]
    · rw [callers_bounce]
      exact staffed.callers
  | withdrawn caller own job call =>
    refine ⟨manned, staffed.joined, fun shut => ?_, callers_filter _ _ staffed.callers⟩
    simp [staffed.calls shut]
  | locked worker at_ | foundNone worker at_ | progressed worker old job at_
  | finished worker job ending at_ =>
    exact staffed.workerStep ⟨at_, rfl, rfl, rfl, rfl, rfl, rfl⟩
  | took worker job rest at_ queue =>
    exact staffed.workerStep (took_workerStep worker job rest at_)
  | reported worker ending next told at_ report =>
    obtain ⟨phase, went⟩ := reported_workerStep worker ending at_ report
    exact staffed.workerStep went
  | died worker next told at_ lost =>
    exact staffed.workerStep (over_workerStep worker _ _ _ at_ rfl lost)
  | exited worker next told at_ left =>
    exact staffed.workerStep (over_workerStep worker _ _ _ at_ rfl left)

/-! ### The queue -/

theorem Stocked.losses_eq (stocked : pool.Stocked notes)
    (unused : pool.stage = .launching ∨ pool.stage.Retreats) : losses notes = [] := by
  have order := stocked.order
  rw [stocked.unused unused] at order
  simp only [List.nil_eq, List.append_eq_nil_iff] at order
  exact order.2.1

/-- A step that neither brings a job to the queue nor takes one from it, though it may lose all. -/
private theorem Stocked.transfer (stocked : pool.Stocked notes)
    (queue : losses told ++ next.queue = pool.queue) (submitted : next.submitted = pool.submitted)
    (calls : next.calls = pool.calls) (accepted : accepts told = [])
    (jobs : (stints (notes ++ told)).map Stint.job = (stints notes).map Stint.job)
    (unused : next.stage = .launching ∨ next.stage.Retreats → accepts notes = [])
    (kept : next.hasReceiver = true → losses (notes ++ told) = [])
    (left : ∀ phase ∈ next.workers, phase.hasLeft = true → pool.queue = [] ∧ losses notes = [] ∧
      next.stage ≠ .launching ∧ next.stage ≠ .accepting) : next.Stocked (notes ++ told) := by
  refine ⟨?_, ?_, ?_, kept, ?_⟩
  · rw [accepts_append, losses_append, accepted, jobs, List.append_nil, List.append_assoc, queue]
    exact stocked.order
  · rw [accepts_append, accepted, List.append_nil, submitted, calls]
    exact stocked.submitted
  · rw [accepts_append, accepted, List.append_nil]
    exact unused
  · intro phase member leaves
    obtain ⟨empty, none, shut⟩ := left phase member leaves
    rw [empty] at queue
    obtain ⟨lost, still⟩ := List.append_eq_nil_iff.mp queue
    exact ⟨still, by rw [losses_append, none, lost]; rfl, shut⟩

/-- A worker that goes on takes no job here, and so leaves the queue alone or takes it along. -/
private theorem Stocked.workerStep {worker : Nat} {old phase : WorkerPhase J}
    (stocked : pool.Stocked notes) (went : WorkerStep pool next worker old phase)
    (queue : losses told ++ next.queue = pool.queue) (submitted : next.submitted = pool.submitted)
    (accepted : accepts told = [])
    (jobs : (stints (notes ++ told)).map Stint.job = (stints notes).map Stint.job)
    (lost : next.hasReceiver = true → losses told = [])
    (own : phase.hasLeft = true → pool.queue = [] ∧ losses notes = [] ∧
      pool.stage ≠ .launching ∧ pool.stage ≠ .accepting) : next.Stocked (notes ++ told) := by
  refine stocked.transfer queue submitted went.calls accepted jobs ?_ ?_ ?_
  · rw [went.stage]
    exact stocked.unused
  -- The worker was there to receive before the step, whether it is after it or not.
  · intro receiver
    rw [losses_append, stocked.kept went.receiver, lost receiver]
    rfl
  · intro other member leaves
    rw [went.stage]
    rcases went.mem other member with rfl | member
    · exact own leaves
    · exact stocked.left other member leaves

/-- A step of a caller who submits changes neither the workers nor the stage. -/
private theorem Stocked.submit (stocked : pool.Stocked notes)
    (workers : next.workers = pool.workers) (stage : next.stage = pool.stage)
    (silent : stints (notes ++ told) = stints notes)
    (queue : next.queue = pool.queue ++ accepts told) (lost : losses told = [])
    (submitted : next.submitted + pool.calls.length =
      pool.submitted + (accepts told).length + next.calls.length)
    (opened : accepts told = [] ∨ pool.stage = .accepting ∧ pool.hasReceiver = true) :
    next.Stocked (notes ++ told) := by
  have losses_same : losses (notes ++ told) = losses notes := by
    rw [losses_append, lost, List.append_nil]
  refine ⟨?_, ?_, ?_, ?_, ?_⟩
  · rw [accepts_append, silent, losses_same, queue, stocked.order]
    simp only [List.append_assoc]
  · have before := stocked.submitted
    rw [accepts_append, List.length_append]
    omega
  · rw [stage]
    intro unused
    rcases opened with none | ⟨accepting, -⟩
    · rw [accepts_append, none, List.append_nil]
      exact stocked.unused unused
    · simp [accepting, PoolStage.Retreats] at unused
  · rw [losses_same, hasReceiver, workers]
    exact stocked.kept
  · rw [losses_same, workers, stage, queue]
    intro phase member leaves
    obtain ⟨empty, none, launched, shut⟩ := stocked.left phase member leaves
    rcases opened with silent | ⟨accepting, -⟩
    · exact ⟨by rw [empty, silent]; rfl, none, launched, shut⟩
    · exact absurd accepting shut

/-- The last worker to end takes the queue with it. -/
private theorem Stocked.gone (stocked : pool.Stocked notes) (worker : Nat)
    (old phase : WorkerPhase J) (silent : List (PoolNote J))
    (at_ : pool.workers[worker]? = some old) (on : old.isOver = false)
    (dropped : (pool.setWorker worker phase).dropQueue silent = (next, told))
    (accepted : accepts silent = []) (kept : losses silent = [])
    (jobs : ∀ record : List (Stint J), silent.foldl recordStint record = record)
    (own : phase.hasLeft = true → pool.queue = [] ∧ losses notes = [] ∧
      pool.stage ≠ .launching ∧ pool.stage ≠ .accepting) : next.Stocked (notes ++ told) := by
  have went : WorkerStep pool next worker old phase := over_workerStep worker _ _ _ at_ on dropped
  rcases dropQueue_cases _ silent dropped with ⟨-, rfl, rfl⟩ | ⟨gone, rfl, rfl⟩
  · exact stocked.workerStep went (by simp [kept, setWorker]) rfl accepted (by simp [jobs])
      (fun _ => kept) own
  · exact stocked.workerStep went (by simp [kept, setWorker]) rfl (by simp [accepted])
      (by simp [jobs]) (fun receiver => absurd (gone.symm.trans receiver) Bool.false_ne_true) own

private theorem length_filter_caller (calls : List (SubmitCall J)) (caller : Nat)
    (call : SubmitCall J) (nodup : (calls.map SubmitCall.caller).Nodup)
    (found : calls.find? (·.caller == caller) = some call) :
    (calls.filter (·.caller != caller)).length + 1 = calls.length := by
  have same : call.caller = caller := by simpa using List.find?_some found
  -- One call is this caller's, since no caller has two.
  have one : calls.countP (·.caller == caller) = 1 := by
    have member := List.mem_of_find?_eq_some found
    have once := List.count_eq_one_of_mem nodup (List.mem_map_of_mem member)
    rw [same, List.count, List.countP_map] at once
    exact once
  have split := List.length_eq_countP_add_countP (·.caller == caller) (l := calls)
  rw [one] at split
  rw [← List.countP_eq_length_filter, split, Nat.add_comm]
  congr 1
  apply List.countP_congr
  intro other _
  simp

theorem Stocked.step (staffed : pool.Staffed) (stocked : pool.Stocked notes)
    (transition : pool.Transition move next told) : next.Stocked (notes ++ told) := by
  have mem_spawn (phase : WorkerPhase J) (member : phase ∈ pool.workers ++ [.idle])
      (leaves : phase.hasLeft = true) : phase ∈ pool.workers := by
    rcases List.mem_append.mp member with member | member
    · exact member
    · rw [List.mem_singleton.mp member] at leaves
      cases leaves
  cases transition with
  -- Nothing was submitted to a pool that has not opened.
  | spawned stage more =>
    refine stocked.transfer rfl rfl rfl rfl (by simp) stocked.unused ?_ ?_
    · exact fun _ => by simp [stocked.losses_eq (.inl stage)]
    · exact fun phase member leaves => stocked.left phase (mem_spawn phase member leaves) leaves
  | opened stage last =>
    refine stocked.transfer rfl rfl rfl rfl (by simp) (by simp [PoolStage.Retreats]) ?_ ?_
    · exact fun _ => by simp [stocked.losses_eq (.inl stage)]
    · intro phase member leaves
      exact absurd stage (stocked.left phase (mem_spawn phase member leaves) leaves).2.2.1
  | refused fault stage =>
    refine stocked.transfer rfl rfl rfl rfl (by simp) (fun _ => stocked.unused (.inl stage)) ?_ ?_
    · exact fun _ => by simp [stocked.losses_eq (.inl stage)]
    · exact fun phase member leaves =>
        absurd stage (stocked.left phase member leaves).2.2.1
  | closed stage calls | detached stage calls =>
    refine stocked.transfer rfl rfl rfl rfl (by simp) (by simp [PoolStage.Retreats]) ?_ ?_
    · exact fun receiver => by simp [stocked.kept receiver]
    · intro phase member leaves
      obtain ⟨empty, none, -⟩ := stocked.left phase member leaves
      exact ⟨empty, none, by simp, by simp⟩
  | joined stage exited | joinedDead stage dead =>
    refine stocked.transfer rfl rfl rfl rfl (by simp) stocked.unused ?_ stocked.left
    exact fun receiver => by simp [stocked.kept receiver]
  -- A job comes to the queue only as long as a worker is there to receive it.
  | counted caller job fresh stage =>
    exact stocked.submit rfl rfl (by simp) (by simp) rfl (by simp; omega) (.inl rfl)
  | turnedAway caller job fresh stage =>
    exact stocked.submit rfl rfl (by simp) (by simp) rfl rfl (.inl rfl)
  | sent caller own job call receiver =>
    have length := length_filter_caller pool.calls caller _ staffed.callers call
    have stage := staffed.accepting_of_call caller _ call
    exact stocked.submit rfl rfl (by simp) rfl rfl (by simp; omega) (.inr ⟨stage, receiver⟩)
  | bounced caller own job call receiver =>
    exact stocked.submit rfl rfl (by simp) (by simp) rfl (by simp) (.inl rfl)
  | withdrawn caller own job call =>
    have length := length_filter_caller pool.calls caller _ staffed.callers call
    have counted := stocked.submitted
    exact stocked.submit rfl rfl (by simp) (by simp) rfl (by simp; omega) (.inl rfl)
  | locked worker at_ free | progressed worker old job at_ =>
    exact stocked.workerStep ⟨at_, rfl, rfl, rfl, rfl, rfl, rfl⟩ rfl rfl rfl (by simp)
      (fun _ => rfl) (by simp)
  | took worker job rest at_ queue =>
    have went := took_workerStep worker job rest at_
    have none := stocked.kept went.receiver
    have order := stocked.order
    rw [none, queue] at order
    refine ⟨?_, ?_, ?_, ?_, ?_⟩
    -- The first job of the queue becomes the last of those taken.
    · simpa [none] using order
    · simpa [setWorker] using stocked.submitted
    · simpa [setWorker] using stocked.unused
    · simp [none]
    · intro phase member leaves
      rcases went.mem phase member with rfl | member
      · cases leaves
      · have empty := (stocked.left phase member leaves).1
        rw [queue] at empty
        cases empty
  | foundNone worker at_ queue launched shut =>
    have went : WorkerStep pool (pool.setWorker worker .leaving) worker .receiving .leaving :=
      ⟨at_, rfl, rfl, rfl, rfl, rfl, rfl⟩
    exact stocked.workerStep went rfl rfl rfl (by simp) (fun _ => rfl) fun _ =>
      ⟨queue, stocked.kept went.receiver, launched, shut⟩
  | reported worker ending next told at_ report =>
    cases ending <;> cases report
    all_goals
      exact stocked.workerStep ⟨at_, rfl, rfl, rfl, rfl, rfl, rfl⟩ rfl rfl rfl (by simp)
        (fun _ => rfl) (by simp)
  | died worker next told at_ lost =>
    exact stocked.gone worker _ _ _ at_ rfl lost rfl rfl (fun _ => rfl) (by simp)
  | exited worker next told at_ left =>
    have own := stocked.left _ (List.mem_of_getElem? at_) rfl
    exact stocked.gone worker _ _ _ at_ rfl left rfl rfl (fun _ => rfl) fun _ => own
  | finished worker job ending at_ =>
    refine stocked.workerStep ⟨at_, rfl, rfl, rfl, rfl, rfl, rfl⟩ rfl rfl rfl ?_ (fun _ => rfl)
      (by simp)
    rw [stints_append]
    exact Stint.map_job_close worker ending (stints notes)

/-! ### The stints -/

/-- A step in which no job is taken and none ends. -/
private theorem Tallied.transfer (tallied : pool.Tallied notes)
    (record : stints (notes ++ told) = stints notes) (ended : endings told = [])
    (counted : next.completed + next.panicked + next.workers.countP WorkerPhase.isEngaged =
      pool.completed + pool.panicked + pool.workers.countP WorkerPhase.isEngaged)
    (running : ∀ worker : Nat, next.workers[worker]?.any WorkerPhase.isRunning =
      pool.workers[worker]?.any WorkerPhase.isRunning)
    (doomed : next.workers.countP WorkerPhase.isDoomed =
      pool.workers.countP WorkerPhase.isDoomed) : next.Tallied (notes ++ told) := by
  refine ⟨?_, ?_, ?_, ?_⟩
  · rw [record, counted]
    exact tallied.counted
  · intro worker
    rw [record, running]
    exact tallied.held worker
  · intro test
    rw [endings_append, ended, List.append_nil, record]
    exact tallied.ended test
  · rw [endings_append, ended, List.append_nil, doomed]
    exact tallied.killed

/-- A worker that starts has nothing at hand. -/
private theorem Tallied.spawn (tallied : pool.Tallied notes)
    (record : stints (notes ++ told) = stints notes) (ended : endings told = [])
    (counters : next.completed = pool.completed ∧ next.panicked = pool.panicked)
    (workers : next.workers = pool.workers ++ [.idle]) : next.Tallied (notes ++ told) := by
  refine tallied.transfer record ended ?_ ?_ ?_
  · rw [workers, counters.1, counters.2, List.countP_append]
    rfl
  · intro worker
    rw [workers, List.getElem?_append]
    split
    · rfl
    next above =>
      rw [List.getElem?_singleton, List.getElem?_eq_none (Nat.not_lt.mp above)]
      split <;> rfl
  · rw [workers, List.countP_append]
    rfl

/-- A worker that goes on without a job, or counts one. -/
private theorem Tallied.workerStep {worker : Nat} {old phase : WorkerPhase J}
    (tallied : pool.Tallied notes) (went : WorkerStep pool next worker old phase)
    (record : stints (notes ++ told) = stints notes) (ended : endings told = [])
    (counted : next.completed + next.panicked + (if phase.isEngaged then 1 else 0) =
      pool.completed + pool.panicked + (if old.isEngaged then 1 else 0))
    (running : phase.isRunning = old.isRunning) (doomed : phase.isDoomed = old.isDoomed) :
    next.Tallied (notes ++ told) := by
  refine tallied.transfer record ended ?_ ?_ ?_
  · have change := went.countP WorkerPhase.isEngaged
    omega
  · intro other
    rw [went.any]
    split
    next same =>
      rw [same, went.held, running]
      rfl
    · rfl
  · have change := went.countP WorkerPhase.isDoomed
    rw [doomed] at change
    exact Nat.add_right_cancel change

private theorem Tallied.take (tallied : pool.Tallied notes) (worker : Nat) (job : J)
    (went : WorkerStep pool next worker .receiving (.running job))
    (counters : next.completed = pool.completed ∧ next.panicked = pool.panicked) :
    next.Tallied (notes ++ [.taken worker job]) := by
  have engaged := went.countP WorkerPhase.isEngaged
  have doomed := went.countP WorkerPhase.isDoomed
  refine ⟨?_, ?_, ?_, ?_⟩
  · have counted := tallied.counted
    simp at engaged ⊢
    omega
  · intro other
    have held := tallied.held other
    rw [went.any, stints_append]
    by_cases same : other = worker
    · subst same
      simp only [went.held] at held
      simp [Stint.isOpenFor, List.countP_append] at held ⊢
      omega
    · simpa [List.countP_append, Stint.isOpenFor, same, Ne.symm same] using held
  · intro test
    simpa [List.countP_append, Stint.endedAs] using tallied.ended test
  · have killed := tallied.killed
    simp at doomed ⊢
    omega

/-- The stint that is closed is the one that the worker has open, and it has no other. -/
private theorem Tallied.finish (tallied : pool.Tallied notes) (worker : Nat) (job : J)
    (ending : JobEnding)
    (went : WorkerStep pool next worker (.running job) (.reporting ending))
    (counters : next.completed = pool.completed ∧ next.panicked = pool.panicked) :
    next.Tallied (notes ++ [.ended worker job ending]) := by
  have engaged := went.countP WorkerPhase.isEngaged
  have doomed := went.countP WorkerPhase.isDoomed
  have one : (stints notes).countP (Stint.isOpenFor worker) = 1 := by
    rw [tallied.held worker, went.held]
    rfl
  refine ⟨?_, ?_, ?_, ?_⟩
  · have counted := tallied.counted
    simp at engaged ⊢
    omega
  · intro other
    rw [went.any, stints_append]
    simp only [List.foldl_cons, List.foldl_nil, recordStint, Stint.countP_isOpenFor_close]
    split
    · rfl
    · exact tallied.held other
  · intro test
    rw [stints_append, endings_append, List.countP_append, tallied.ended test]
    simp only [List.foldl_cons, List.foldl_nil, recordStint, Stint.countP_endedAs_close, one]
    simp [List.countP_cons]
  · have killed := tallied.killed
    rw [endings_append, List.count_append, killed]
    cases ending <;> simp at doomed ⊢ <;> omega

theorem Tallied.step (tallied : pool.Tallied notes)
    (transition : pool.Transition move next told) : next.Tallied (notes ++ told) := by
  cases transition with
  | spawned stage more => exact tallied.spawn (by simp) rfl ⟨rfl, rfl⟩ rfl
  | opened stage last => exact tallied.spawn (by simp) rfl ⟨rfl, rfl⟩ rfl
  | refused | closed | joined | joinedDead | detached | counted | turnedAway | sent | bounced
  | withdrawn => exact tallied.transfer (by simp) rfl rfl (fun _ => rfl) rfl
  | locked worker at_ | foundNone worker at_ | progressed worker old job at_ =>
    exact tallied.workerStep ⟨at_, rfl, rfl, rfl, rfl, rfl, rfl⟩ (by simp) rfl rfl rfl rfl
  | took worker job rest at_ queue =>
    exact tallied.take worker job (took_workerStep worker job rest at_) ⟨rfl, rfl⟩
  | reported worker ending next told at_ report =>
    cases ending <;> cases report
    all_goals
      refine tallied.workerStep ⟨at_, rfl, rfl, rfl, rfl, rfl, rfl⟩ (by simp) rfl ?_ rfl rfl
      simp only [setWorker, WorkerPhase.isEngaged, if_true, Bool.false_eq_true, if_false]
      omega
  | died worker next told at_ lost =>
    have went := over_workerStep worker _ _ _ at_ rfl lost
    rcases dropQueue_cases _ _ lost with ⟨-, rfl, rfl⟩ | ⟨-, rfl, rfl⟩ <;>
      exact tallied.workerStep went (by simp) rfl rfl rfl rfl
  | exited worker next told at_ left =>
    have went := over_workerStep worker _ _ _ at_ rfl left
    rcases dropQueue_cases _ _ left with ⟨-, rfl, rfl⟩ | ⟨-, rfl, rfl⟩ <;>
      exact tallied.workerStep went (by simp) rfl rfl rfl rfl
  | finished worker job ending at_ =>
    exact tallied.finish worker job ending ⟨at_, rfl, rfl, rfl, rfl, rfl, rfl⟩ ⟨rfl, rfl⟩

/-! ### Runs -/

theorem create_eq_ok_iff (width : Nat) (config : Config) :
    create width config = .ok pool ↔
      config.check = .ok () ∧ 0 < width ∧ pool = unstarted config width := by
  unfold create
  cases checked : config.check with
  | error fault => simp
  | ok =>
    by_cases zero : width = 0
    · simp [zero]
    · simp [zero, Nat.pos_of_ne_zero zero, eq_comm]

theorem create_sound (width : Nat) (config : Config) (created : create width config = .ok pool) :
    pool.Sound [] := by
  obtain ⟨-, some, rfl⟩ := (create_eq_ok_iff width config).mp created
  refine ⟨⟨some, ?_, fun _ => rfl, List.nodup_nil⟩, ⟨rfl, rfl, fun _ => rfl, fun _ => rfl, ?_⟩,
    ⟨rfl, ?_, fun _ => rfl, rfl⟩⟩
  · exact fun worker below => absurd below (Nat.not_lt_zero worker)
  · exact fun phase member => absurd member List.not_mem_nil
  · exact fun worker => by simp [unstarted, stints]

theorem Sound.step (sound : pool.Sound notes) (stepped : pool.step move = some (next, told)) :
    next.Sound (notes ++ told) := by
  have transition := step_transition move stepped
  exact ⟨sound.staffed.step transition, sound.stocked.step sound.staffed transition,
    sound.tallied.step transition⟩

/-- The size and the configuration are those that the pool was created with. -/
structure Fixed (pool after : Pool J) : Prop where
  width : after.width = pool.width
  config : after.config = pool.config

theorem Transition.fixed (transition : pool.Transition move next told) : pool.Fixed next := by
  cases transition with
  | reported worker ending next told at_ report =>
    cases ending <;> cases report <;> exact ⟨rfl, rfl⟩
  | died worker next told at_ lost =>
    rcases dropQueue_cases _ _ lost with ⟨-, rfl, -⟩ | ⟨-, rfl, -⟩ <;> exact ⟨rfl, rfl⟩
  | exited worker next told at_ left =>
    rcases dropQueue_cases _ _ left with ⟨-, rfl, -⟩ | ⟨-, rfl, -⟩ <;> exact ⟨rfl, rfl⟩
  | _ => exact ⟨rfl, rfl⟩

/-- The pool was created with the size and the configuration, and is sound. -/
structure SoundFor (width : Nat) (config : Config) (pool : Pool J) (notes : List (PoolNote J)) :
    Prop extends Sound pool notes where
  positive : 0 < width
  width : pool.width = width
  config : pool.config = config

theorem create_soundFor (width : Nat) (config : Config)
    (created : create width config = .ok pool) : pool.SoundFor width config [] := by
  have sound := create_sound width config created
  obtain ⟨-, some, rfl⟩ := (create_eq_ok_iff width config).mp created
  exact ⟨sound, some, rfl, rfl⟩

theorem SoundFor.replay {width : Nat} {config : Config} (sound : pool.SoundFor width config notes)
    (moves : List (PoolMove J))
    (ran : GatedRun.replay Pool.step pool moves = some (after, told)) :
    after.SoundFor width config (notes ++ told) := by
  refine replay_preserves (SoundFor width config) pool after moves notes told ?_ sound ran
  intro state move next known new _ sound stepped
  have fixed := (step_transition move stepped).fixed
  exact ⟨sound.toSound.step stepped, sound.positive, fixed.width.trans sound.width,
    fixed.config.trans sound.config⟩

end Pool

end GatedRun
