import GatedRun.Pool.Basic

/-!
# Steps of a worker pool

`Pool.step` is one step of one thread: of the pool's owner, who starts the workers and in the end
shuts the pool down or lets it go; of a caller who submits a job; or of a worker. A run of steps is
therefore an interleaving of all these threads.

A job is submitted in two steps: it is counted, and then it is sent. If the last worker is gone by
then, nobody can receive it, and the count is taken back in a third step. A worker takes a job while
it holds the lock of the queue, and runs it without the lock.
-/

namespace GatedRun

namespace Pool

variable {J : Type}

/-! ### Steps of the owner -/

/-- The next worker starts, or the pool retreats. The last one opens the pool. -/
def spawn (pool : Pool J) (grant : Grant) : Option (Pool J × List (PoolNote J)) :=
  match pool.stage with
  | .launching =>
    match grant with
    | .given =>
      if pool.workers.length + 1 < pool.width then
        some ({ pool with workers := pool.workers ++ [.idle] }, [])
      else
        some ({ pool with workers := pool.workers ++ [.idle], stage := .accepting },
          [.logged .owner (.poolStarted pool.width pool.config.threadNamePrefix)])
    | .refused fault => some ({ pool with stage := .retreating fault }, [])
  | _ => none

/-- The queue takes no more jobs, now or as before. This needs the pool for oneself, so no
submission is under way. -/
def close (pool : Pool J) : Option (Pool J × List (PoolNote J)) :=
  match pool.stage, pool.calls with
  | .accepting, [] | .closed, [] => some ({ pool with stage := .closed }, [])
  | _, _ => none

/-- The owner joins the next worker, which is over; one that died is reported. -/
def join (pool : Pool J) : Option (Pool J × List (PoolNote J)) :=
  match pool.stage with
  | .retreating _ | .closed =>
    match pool.workers[pool.joined]? with
    | some .exited => some ({ pool with joined := pool.joined + 1 }, [])
    | some .dead => some ({ pool with joined := pool.joined + 1 },
        [.logged .owner (.workerDied (pool.config.workerName pool.joined))])
    | _ => none
  | _ => none

/-- The owner lets the pool go. -/
def detach (pool : Pool J) : Option (Pool J × List (PoolNote J)) :=
  match pool.stage, pool.calls with
  | .accepting, [] | .closed, [] => some ({ pool with stage := .detached },
      [.logged .owner (.poolDetached pool.size pool.stats.pending)])
  | _, _ => none

/-! ### Steps of a caller who submits -/

/-- The job is counted, or it is turned away by a pool that was shut down. -/
def count (pool : Pool J) (caller : Nat) (job : J) : Option (Pool J × List (PoolNote J)) :=
  if pool.calls.any (·.caller == caller) then none
  else
    match pool.stage with
    | .accepting => some ({ pool with
        submitted := pool.submitted + 1
        calls := pool.calls ++ [{ caller, job }] }, [])
    -- A job that is turned away was never counted.
    | .closed => some (pool, [.rejected caller job])
    | _ => none

/-- The job goes to the end of the queue, unless nobody is left to receive it. -/
def send (pool : Pool J) (caller : Nat) : Option (Pool J × List (PoolNote J)) :=
  match pool.calls.find? (·.caller == caller) with
  | some ⟨_, job, false⟩ =>
    if pool.hasReceiver then
      some ({ pool with
        queue := pool.queue ++ [job]
        calls := pool.calls.filter (·.caller != caller) }, [.accepted caller job])
    else
      some ({ pool with
        calls := pool.calls.map fun call =>
          if call.caller == caller then { call with bounced := true } else call }, [])
  | _ => none

/-- The count of a job that could not be sent is taken back. -/
def withdraw (pool : Pool J) (caller : Nat) : Option (Pool J × List (PoolNote J)) :=
  match pool.calls.find? (·.caller == caller) with
  | some ⟨_, job, true⟩ => some ({ pool with
      submitted := pool.submitted - 1
      calls := pool.calls.filter (·.caller != caller) }, [.rejected caller job])
  | _ => none

/-! ### Steps of a worker -/

def setWorker (pool : Pool J) (worker : Nat) (phase : WorkerPhase J) : Pool J :=
  { pool with workers := pool.workers.set worker phase }

def dropQueue (pool : Pool J) (notes : List (PoolNote J)) : Pool J × List (PoolNote J) :=
  if pool.hasReceiver then (pool, notes)
  -- The queue goes with its last receiver.
  else ({ pool with queue := [] }, notes ++ [.discarded pool.queue])

/-- A worker takes the first job of the queue, or learns that there will be no more. -/
def receive (pool : Pool J) (worker : Nat) : Option (Pool J × List (PoolNote J)) :=
  match pool.queue with
  | job :: rest => some ({ pool.setWorker worker (.running job) with queue := rest },
      [.taken worker job])
  | [] =>
    match pool.stage with
    -- As long as the queue takes jobs, an empty one says nothing.
    | .launching | .accepting => none
    | _ => some (pool.setWorker worker .leaving, [])

/-- A worker counts the job that is over. -/
def report (pool : Pool J) (worker : Nat) : JobEnding → Pool J × List (PoolNote J)
  | .returned => ({ pool.setWorker worker .idle with completed := pool.completed + 1 }, [])
  | .unwound => ({ pool.setWorker worker .idle with panicked := pool.panicked + 1 },
      [.logged (.worker worker) .jobUnwound])
  -- The job is counted all the same, before the disposal takes the thread down.
  | .lethal => ({ pool.setWorker worker .dying with panicked := pool.panicked + 1 },
      [.logged (.worker worker) .jobUnwound])

/-- A worker goes on with its loop. It cannot while another one holds the lock, while it waits for a
job, and while it runs one. -/
def work (pool : Pool J) (worker : Nat) : Option (Pool J × List (PoolNote J)) :=
  match pool.workers[worker]? with
  | some .idle => if pool.lockIsFree then some (pool.setWorker worker .receiving, []) else none
  | some .receiving => pool.receive worker
  | some (.reporting ending) => some (pool.report worker ending)
  | some .dying => some ((pool.setWorker worker .dead).dropQueue [])
  | some .leaving => some ((pool.setWorker worker .exited).dropQueue
      [.logged (.worker worker) (.workerExiting (pool.config.workerName worker))])
  | _ => none

/-- A running job goes on to another state of its own. -/
def progress (pool : Pool J) (worker : Nat) (job : J) : Option (Pool J × List (PoolNote J)) :=
  match pool.workers[worker]? with
  | some (.running _) => some (pool.setWorker worker (.running job), [])
  | _ => none

/-- A running job is over. -/
def finish (pool : Pool J) (worker : Nat) (ending : JobEnding) :
    Option (Pool J × List (PoolNote J)) :=
  match pool.workers[worker]? with
  | some (.running job) =>
    some (pool.setWorker worker (.reporting ending), [.ended worker job ending])
  | _ => none

/-- The pool after a step, and what the step lets others know, if the step is possible. -/
def step (pool : Pool J) : PoolMove J → Option (Pool J × List (PoolNote J))
  | .spawn grant => pool.spawn grant
  | .close => pool.close
  | .join => pool.join
  | .detach => pool.detach
  | .count caller job => pool.count caller job
  | .send caller => pool.send caller
  | .withdraw caller => pool.withdraw caller
  | .work worker => pool.work worker
  | .progress worker job => pool.progress worker job
  | .finish worker ending => pool.finish worker ending

end Pool

end GatedRun
