import GatedRun.Pool.Step
import GatedRun.Proofs.Lists

/-!
# Transitions of a worker pool

`Pool.Transition` lists all that a step of a pool can do, each with the guard under which it does
it, and `step_transition` is the inversion of the step function. A property of pools is proved from
the list.
-/

namespace GatedRun

/-- The start of the workers was given up, for whatever fault. -/
def PoolStage.Retreats (stage : PoolStage) : Prop := ∃ fault, stage = .retreating fault

namespace Pool

variable {J : Type}

/-- What a step of a pool can do. -/
inductive Transition (pool : Pool J) : PoolMove J → Pool J → List (PoolNote J) → Prop where
  -- The owner starts the workers, and ends the pool.
  | spawned (stage : pool.stage = .launching) (more : pool.workers.length + 1 < pool.width) :
      Transition pool (.spawn .given) { pool with workers := pool.workers ++ [.idle] } []
  | opened (stage : pool.stage = .launching) (last : ¬ pool.workers.length + 1 < pool.width) :
      Transition pool (.spawn .given)
        { pool with workers := pool.workers ++ [.idle], stage := .accepting }
        [.logged .owner (.poolStarted pool.width pool.config.threadNamePrefix)]
  | refused (fault : SpawnFault) (stage : pool.stage = .launching) :
      Transition pool (.spawn (.refused fault)) { pool with stage := .retreating fault } []
  | closed (stage : pool.stage = .accepting ∨ pool.stage = .closed) (calls : pool.calls = []) :
      Transition pool .close { pool with stage := .closed } []
  | joined (stage : pool.stage.Retreats ∨ pool.stage = .closed)
      (next : pool.workers[pool.joined]? = some .exited) :
      Transition pool .join { pool with joined := pool.joined + 1 } []
  | joinedDead (stage : pool.stage.Retreats ∨ pool.stage = .closed)
      (next : pool.workers[pool.joined]? = some .dead) :
      Transition pool .join { pool with joined := pool.joined + 1 }
        [.logged .owner (.workerDied (pool.config.workerName pool.joined))]
  | detached (stage : pool.stage = .accepting ∨ pool.stage = .closed) (calls : pool.calls = []) :
      Transition pool .detach { pool with stage := .detached }
        [.logged .owner (.poolDetached pool.size pool.stats.pending)]
  -- A caller submits a job.
  | counted (caller : Nat) (job : J) (fresh : pool.calls.any (·.caller == caller) = false)
      (stage : pool.stage = .accepting) :
      Transition pool (.count caller job) { pool with
        submitted := pool.submitted + 1, calls := pool.calls ++ [{ caller, job }] } []
  | turnedAway (caller : Nat) (job : J) (fresh : pool.calls.any (·.caller == caller) = false)
      (stage : pool.stage = .closed) :
      Transition pool (.count caller job) pool [.rejected caller job]
  | sent (caller own : Nat) (job : J)
      (call : pool.calls.find? (·.caller == caller) = some ⟨own, job, false⟩)
      (receiver : pool.hasReceiver = true) :
      Transition pool (.send caller) { pool with
        queue := pool.queue ++ [job], calls := pool.calls.filter (·.caller != caller) }
        [.accepted caller job]
  | bounced (caller own : Nat) (job : J)
      (call : pool.calls.find? (·.caller == caller) = some ⟨own, job, false⟩)
      (receiver : pool.hasReceiver = false) :
      Transition pool (.send caller) { pool with
        calls := pool.calls.map fun call =>
          if call.caller == caller then { call with bounced := true } else call } []
  | withdrawn (caller own : Nat) (job : J)
      (call : pool.calls.find? (·.caller == caller) = some ⟨own, job, true⟩) :
      Transition pool (.withdraw caller) { pool with
        submitted := pool.submitted - 1, calls := pool.calls.filter (·.caller != caller) }
        [.rejected caller job]
  -- A worker goes on.
  | locked (worker : Nat) (at_ : pool.workers[worker]? = some .idle)
      (free : pool.lockIsFree = true) :
      Transition pool (.work worker) (pool.setWorker worker .receiving) []
  | took (worker : Nat) (job : J) (rest : List J) (at_ : pool.workers[worker]? = some .receiving)
      (queue : pool.queue = job :: rest) :
      Transition pool (.work worker)
        { pool.setWorker worker (.running job) with queue := rest } [.taken worker job]
  | foundNone (worker : Nat) (at_ : pool.workers[worker]? = some .receiving)
      (queue : pool.queue = []) (launched : pool.stage ≠ .launching)
      (shut : pool.stage ≠ .accepting) :
      Transition pool (.work worker) (pool.setWorker worker .leaving) []
  | reported (worker : Nat) (ending : JobEnding) (next : Pool J) (notes : List (PoolNote J))
      (at_ : pool.workers[worker]? = some (.reporting ending))
      (report : pool.report worker ending = (next, notes)) :
      Transition pool (.work worker) next notes
  | died (worker : Nat) (next : Pool J) (notes : List (PoolNote J))
      (at_ : pool.workers[worker]? = some .dying)
      (lost : (pool.setWorker worker .dead).dropQueue [] = (next, notes)) :
      Transition pool (.work worker) next notes
  | exited (worker : Nat) (next : Pool J) (notes : List (PoolNote J))
      (at_ : pool.workers[worker]? = some .leaving)
      (left : (pool.setWorker worker .exited).dropQueue [.logged (.worker worker)
        (.workerExiting (pool.config.workerName worker))] = (next, notes)) :
      Transition pool (.work worker) next notes
  | progressed (worker : Nat) (old job : J) (at_ : pool.workers[worker]? = some (.running old)) :
      Transition pool (.progress worker job) (pool.setWorker worker (.running job)) []
  | finished (worker : Nat) (job : J) (ending : JobEnding)
      (at_ : pool.workers[worker]? = some (.running job)) :
      Transition pool (.finish worker ending) (pool.setWorker worker (.reporting ending))
        [.ended worker job ending]

variable {pool next : Pool J} {notes : List (PoolNote J)}

private theorem spawn_transition (grant : Grant)
    (stepped : pool.spawn grant = some (next, notes)) :
    pool.Transition (.spawn grant) next notes := by
  unfold spawn at stepped
  split at stepped
  next stage =>
    cases grant with
    | refused fault =>
      cases stepped
      exact .refused fault stage
    | given =>
      simp only at stepped
      split at stepped
      next more =>
        cases stepped
        exact .spawned stage more
      next last =>
        cases stepped
        exact .opened stage last
  · cases stepped

private theorem close_transition (stepped : pool.close = some (next, notes)) :
    pool.Transition .close next notes := by
  unfold close at stepped
  split at stepped
  next stage calls =>
    cases stepped
    exact .closed (.inl stage) calls
  next stage calls =>
    cases stepped
    exact .closed (.inr stage) calls
  · cases stepped

private theorem join_transition (stepped : pool.join = some (next, notes)) :
    pool.Transition .join next notes := by
  unfold join at stepped
  split at stepped
  next stage =>
    split at stepped
    next exited =>
      cases stepped
      exact .joined (.inl ⟨_, stage⟩) exited
    next dead =>
      cases stepped
      exact .joinedDead (.inl ⟨_, stage⟩) dead
    · cases stepped
  next stage =>
    split at stepped
    next exited =>
      cases stepped
      exact .joined (.inr stage) exited
    next dead =>
      cases stepped
      exact .joinedDead (.inr stage) dead
    · cases stepped
  · cases stepped

private theorem detach_transition (stepped : pool.detach = some (next, notes)) :
    pool.Transition .detach next notes := by
  unfold detach at stepped
  split at stepped
  next stage calls =>
    cases stepped
    exact .detached (.inl stage) calls
  next stage calls =>
    cases stepped
    exact .detached (.inr stage) calls
  · cases stepped

private theorem count_transition (caller : Nat) (job : J)
    (stepped : pool.count caller job = some (next, notes)) :
    pool.Transition (.count caller job) next notes := by
  unfold count at stepped
  split at stepped
  · cases stepped
  next fresh =>
    rw [Bool.not_eq_true] at fresh
    split at stepped
    next stage =>
      cases stepped
      exact .counted caller job fresh stage
    next stage =>
      cases stepped
      exact .turnedAway caller job fresh stage
    · cases stepped

private theorem send_transition (caller : Nat) (stepped : pool.send caller = some (next, notes)) :
    pool.Transition (.send caller) next notes := by
  unfold send at stepped
  split at stepped
  next own job call =>
    split at stepped
    next receiver =>
      cases stepped
      exact .sent caller own job call receiver
    next receiver =>
      cases stepped
      exact .bounced caller own job call (by simpa using receiver)
  · cases stepped

private theorem withdraw_transition (caller : Nat)
    (stepped : pool.withdraw caller = some (next, notes)) :
    pool.Transition (.withdraw caller) next notes := by
  unfold withdraw at stepped
  split at stepped
  next own job call =>
    cases stepped
    exact .withdrawn caller own job call
  · cases stepped

private theorem receive_transition (worker : Nat)
    (at_ : pool.workers[worker]? = some .receiving)
    (stepped : pool.receive worker = some (next, notes)) :
    pool.Transition (.work worker) next notes := by
  unfold receive at stepped
  split at stepped
  next job rest queue =>
    cases stepped
    exact .took worker job rest at_ queue
  next queue =>
    split at stepped
    · cases stepped
    · cases stepped
    next launched shut =>
      cases stepped
      exact .foundNone worker at_ queue launched shut

private theorem work_transition (worker : Nat) (stepped : pool.work worker = some (next, notes)) :
    pool.Transition (.work worker) next notes := by
  unfold work at stepped
  split at stepped
  next idle =>
    split at stepped
    next free =>
      cases stepped
      exact .locked worker idle free
    · cases stepped
  next receiving => exact receive_transition worker receiving stepped
  next ending reporting =>
    exact .reported worker ending next notes reporting (Option.some.inj stepped)
  next dying => exact .died worker next notes dying (Option.some.inj stepped)
  next leaving => exact .exited worker next notes leaving (Option.some.inj stepped)
  · cases stepped

private theorem progress_transition (worker : Nat) (job : J)
    (stepped : pool.progress worker job = some (next, notes)) :
    pool.Transition (.progress worker job) next notes := by
  unfold progress at stepped
  split at stepped
  next old running =>
    cases stepped
    exact .progressed worker old job running
  · cases stepped

private theorem finish_transition (worker : Nat) (ending : JobEnding)
    (stepped : pool.finish worker ending = some (next, notes)) :
    pool.Transition (.finish worker ending) next notes := by
  unfold finish at stepped
  split at stepped
  next job running =>
    cases stepped
    exact .finished worker job ending running
  · cases stepped

/-- Every step of a pool is one of the transitions. -/
theorem step_transition (move : PoolMove J) (stepped : pool.step move = some (next, notes)) :
    pool.Transition move next notes := by
  cases move with
  | spawn grant => exact spawn_transition grant stepped
  | close => exact close_transition stepped
  | join => exact join_transition stepped
  | detach => exact detach_transition stepped
  | count caller job => exact count_transition caller job stepped
  | send caller => exact send_transition caller stepped
  | withdraw caller => exact withdraw_transition caller stepped
  | work worker => exact work_transition worker stepped
  | progress worker job => exact progress_transition worker job stepped
  | finish worker ending => exact finish_transition worker ending stepped

end Pool

end GatedRun
