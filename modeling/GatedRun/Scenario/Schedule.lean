import GatedRun.Scenario.Step

/-!
# A schedule

Any order of steps is a run of a scenario. Here is one of them: the threads take turns, and a thread
whose turn it is goes on until it cannot. What a user can ask of a scenario does not hang on the
order, so this one is as good as any other.
-/

namespace GatedRun.Scenario.State

/-- The threads that are not over. -/
def threads (state : State) : List Thread :=
  let runWorkers := state.workshop.sessions.zipIdx.flatMap fun (session, s) =>
    session.calls.zipIdx.flatMap fun (execution, c) =>
      if execution.isQuiet then []
      else (List.range execution.pool.workers.length).map (Thread.runWorker s c)
  let poolWorkers := state.pools.zipIdx.flatMap fun (pool, p) =>
    if pool.isQuiet then []
    else (List.range pool.workers.length).map (Thread.poolWorker p)
  .main :: (List.range state.helpers).map Thread.helper ++ runWorkers ++ poolWorkers

/-- A thread goes on until it cannot, or until its patience is at its end. Says whether it did
anything. -/
def goOn (thread : Thread) : Nat → State → Bool → State × Bool
  | 0, state, moved => (state, moved)
  | patience + 1, state, moved =>
    match state.step thread with
    | none => (state, moved)
    | some after => goOn thread patience after true

def round (patience : Nat) (state : State) : State × Bool :=
  state.threads.foldl (fun (current, moved) thread =>
    goOn thread patience current moved) (state, false)

/-- The threads take turns until the goal is reached or no thread can go on. -/
def rounds (goal : State → Bool) (patience : Nat) : Nat → State → State
  | 0, state => state
  | rest + 1, state =>
    if goal state then state
    else
      match round patience state with
      | (after, true) => rounds goal patience rest after
      -- Nobody could go on, so nobody ever will.
      | (after, false) => after

def patience : Nat := Nat.pow 2 60

def drive (state : State) (goal : State → Bool) : State :=
  rounds goal patience patience state

end GatedRun.Scenario.State
