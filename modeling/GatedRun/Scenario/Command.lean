import GatedRun.Concurrently
import GatedRun.Scenario.Schedule

/-!
# Commands

What a user can ask of a scenario. A command is done by the main thread; where it has to wait, the
other threads go on until it can continue. A command that would wait for ever has no answer.

Most commands are about the runner on the bench or about the pool at hand. A new runner or pool
takes the place of the one before it, and a runner that is refused something leaves the bench empty.
-/

namespace GatedRun.Scenario

open Sync (Latch)

abbrev Command (α : Type) := StateT State Option α

/-- A task that goes into a runner. -/
inductive TaskSpec where
  | made (body : Body)
  | named (name : String)

namespace TaskSpec

def source : TaskSpec → TaskSource
  | .made _ => .fresh
  | .named name => .copy name

def newBody? : TaskSpec → Option Body
  | .made body => some body
  | .named _ => none

def withoutInterrupt : TaskSpec → TaskSpec
  | .made body => .made { body with hasInterrupt := false }
  | .named name => .named name

end TaskSpec

namespace Command

def await (goal : State → Bool) : Command Unit := fun state =>
  let after := state.drive goal
  if goal after then some ((), after) else none

/-- Does a step of a thread's own that cannot block; a step that is not possible does nothing. -/
def attempt (step : State → Option State) : Command Unit :=
  modify fun state => (step state).getD state

/-! ### The runner on the bench -/

def runner? : Command (Option (Runner Nat)) := do
  let state ← get
  return state.bench.bind state.workshop.runner?

/-- Lets the runner on the bench go; whether there was one. -/
def dropRunner : Command Bool := do
  let state ← get
  match state.bench with
  | none => return false
  | some session =>
    set { state.dropRunner .main session with bench := none }
    return true

/-- Opens a runner, not yet on the bench. -/
def openRunner (opening : Opening TaskSpec) : Command (Except RunError Nat) := do
  let state ← get
  let bodies := opening.handles.filterMap TaskSpec.newBody?
  match (state.withBodies bodies).openRunner .main (opening.map TaskSpec.source) with
  | none => failure
  | some (after, answer) =>
    set after
    return answer

def startRunner (opening : Opening TaskSpec) : Command (Except RunError Unit) := do
  let _ ← dropRunner
  let answer ← openRunner opening
  modify fun state => { state with bench := answer.toOption }
  return answer.map fun _ => ()

/-- Extends the runner on the bench, if there is one. -/
def extendRunner (extension : Extension TaskSpec) : Command (Option (Except RunError Unit)) := do
  let state ← get
  match state.bench with
  | none => return none
  | some session =>
    let bodies := extension.handles.filterMap TaskSpec.newBody?
    match (state.withBodies bodies).inWorkshop .main
        (.extend session (extension.map TaskSpec.source)) with
    | none => failure
    | some (after, some error) =>
      set { after with bench := none }
      return some (.error error)
    | some (after, none) =>
      set after
      return some (.ok ())

/-- Whether the interrupt of the runner on the bench is up, if there is a runner. -/
def isRaised? : Command (Option Bool) := do
  let state ← get
  return state.bench.bind fun session => state.workshop.sessions[session]?.map (·.raised)

def raise : Command Unit :=
  attempt fun state => state.benchInterrupt?.bind fun handle =>
    (state.inWorkshop .main (.raise handle)).map (·.1)

def take : Command Unit :=
  attempt fun state => state.benchInterrupt?.bind fun handle =>
    (state.inWorkshop .main (.take handle)).map (·.1)

/-- Executes the runner of a session. -/
def execute (session : Nat) : Command (Except RunError (ResultSet Value)) := do
  let (begun, call) := (← get).begin .main session
  set { begun with errand := .execution session call }
  await fun state => (state.result? session call).isSome
  modify fun state => { state with errand := .idle }
  match (← get).result? session call with
  | some result => return result
  | none => failure

/-- Executes the runner on the bench, if there is one. If a latch is given, a helper raises the
interrupt as soon as the latch opens. -/
def executeRunner (raiseWhen : Option String) :
    Command (Option (Except RunError (ResultSet Value))) := do
  match (← get).bench with
  | none => return none
  | some session =>
    match raiseWhen with
    | none => pure ()
    | some latch =>
      -- The helper is a thread of its own, so it may raise at any time of the run.
      let body : Body := { script := [.waitFor latch, .interrupt] }
      modify fun state =>
        let activity := Activity.ofBody body (state.interrupt? session)
        { state.enter (.helper state.helpers) activity with helpers := state.helpers + 1 }
    return some (← execute session)

/-! ### Named tasks -/

def defineTask (name : String) (body : Body) : Command Unit :=
  attempt fun state => ((state.withBodies [body]).inWorkshop .main (.define name)).map (·.1)

def copyTask (name copy : String) : Command Unit :=
  attempt fun state => (state.inWorkshop .main (.copyTask name copy)).map (·.1)

def dropTask (name : String) : Command Bool := do
  let known := ((← get).workshop.task? name).isSome
  attempt fun state => (state.inWorkshop .main (.dropTask name)).map (·.1)
  return known

def inspectTask? (name : String) : Command (Option Text.Inspection) := do
  return (← get).workshop.inspectTask? name

/-- Runs the body of a named task on the main thread, as the task at an index. -/
def runTask (name : String) (index : Nat) : Command (Option (Outcome Value)) := do
  let state ← get
  match (state.workshop.task? name).bind fun body => state.bodies[body]? with
  | none => return none
  | some body =>
    set { state.enter .main (.ofBody body state.benchInterrupt?) with ownResult := none }
    await fun state => state.ownResult.isSome
    return (← get).ownResult.map (Outcome.capture index)

/-! ### Runs in one go -/

/-- A runner made for one purpose is run once, and whatever went wrong is raised. Nobody has the
handle of its interrupt. -/
def runOnce (opening : Opening TaskSpec) : Command (Except Payload Unit) :=
  runConcurrently (openRunner (opening.map TaskSpec.withoutInterrupt)) execute

/-- That many tasks that do nothing are run that many times, and the spreads are summed up. -/
def measure (tasks runs : Nat) : Command (Except RunError (Option SpreadSummary)) :=
  measureStartSpread (openRunner (.repeated (.made { script := [], discards := true }) tasks))
    execute runs

/-! ### Latches and the end of work -/

def countDown (latch : String) (times : Nat) : Command Nat := do
  modify fun state => { state with
    shared := state.shared.onLatch latch fun latch => latch.countDownTimes times }
  return ((← get).shared.latch latch).count

def awaitLatch (latch : String) : Command Unit :=
  await fun state => (state.shared.latch latch).isOpen

def awaitQuiet : Command Unit :=
  await fun state => state.workshop.sessions.all (·.isQuiet) && state.pools.all (·.isQuiet)

/-- Waits until all is quiet and takes the lines of the events so far: those of the main thread in
order, and those of all other threads sorted. -/
def takeEvents : Command (List String × List String) := do
  awaitQuiet
  let state ← get
  set { state with mainEvents := [], otherEvents := [] }
  return (state.mainEvents.reverse.map Event.line,
    (state.otherEvents.map Event.line).mergeSort fun a b => decide (a ≤ b))

/-! ### The pool at hand -/

def pool? : Command (Option (Pool Nat)) := do
  let state ← get
  return state.pool.bind fun pool => state.pools[pool]?

/-- Shuts the pool at hand down and joins its workers. -/
def shutdownPool : Command Unit := do
  match (← get).pool with
  | none => pure ()
  | some pool =>
    modify fun state => { state with errand := .shutdown pool }
    await (·.poolHas pool Pool.isShut)
    modify fun state => { state with errand := .idle }

/-- Shuts the pool at hand down and lets it go; whether there was one. -/
def dropPool : Command Bool := do
  let known := (← get).pool.isSome
  shutdownPool
  modify fun state => { state with pool := none }
  return known

/-- Makes a new pool, after dropping the one at hand. -/
def newPool (width : Nat) (config : Config) : Command (Except RunError Unit) := do
  let _ ← dropPool
  match Pool.create width config with
  | .error fault => return .error (.invalidArgument fault)
  | .ok pool =>
    let state ← get
    let index := state.pools.length
    set { state with pools := state.pools ++ [pool], errand := .launch index }
    await (·.poolHas index Pool.isLaunched)
    let made := ((← get).pools[index]?.bind Pool.made?).getD (.ok ())
    modify fun (state : State) => { state with
      errand := .idle
      pool := if made.isOk then some index else none }
    return made

/-- Submits a job to the pool at hand. -/
def submitJob (job : Nat) : Command (Option (Except RunError Unit)) := do
  match (← get).pool with
  | none => return none
  | some pool =>
    let underWay := fun (state : State) => !state.poolHas pool fun pool => pool.calls.isEmpty
    attempt (·.inPool .main pool (.count 0 job))
    if underWay (← get) then
      -- A call that is still under way after the sending has come back.
      attempt (·.inPool .main pool (.send 0))
      if underWay (← get) then
        attempt (·.inPool .main pool (.withdraw 0))
        return some (.error .poolClosed)
      else return some (.ok ())
    else return some (.error .poolClosed)

def submitJobs (job : Nat) : Nat → Command (List (Except RunError Unit))
  | 0 => return []
  | times + 1 => do
    let first ← submitJob job
    let rest ← submitJobs job times
    return first.toList ++ rest

def submit (body : Body) (times : Nat) : Command (List (Except RunError Unit)) := do
  let job := (← get).jobs.size
  modify fun state => { state with jobs := state.jobs.push body }
  submitJobs job times

def awaitFinished (jobs : Nat) : Command Unit :=
  await fun state => (state.pool.map fun pool => state.poolHas pool fun pool =>
    decide (jobs ≤ pool.completed + pool.panicked)).getD true

def awaitDead (workers : Nat) : Command Unit :=
  await fun state => decide (workers ≤ state.deadWorkers)

/-- Lets the pool at hand go without waiting for its workers; whether there was one. -/
def detachPool : Command Bool := do
  match (← get).pool with
  | none => return false
  | some pool =>
    attempt (·.inPool .main pool .detach)
    modify fun state => { state with pool := none }
    return true

/-! ### The end -/

/-- Opens every latch, drops the pool at hand, and waits until all is quiet; whether all latches
were open before. -/
def finish : Command Bool := do
  let latches := (← get).shared.latches
  modify fun state => { state with shared := { state.shared with
    latches := state.shared.latches.map fun (name, _) => (name, Latch.new 0) } }
  let _ ← dropPool
  awaitQuiet
  return latches.all fun (_, latch) => latch.isOpen

end Command

end GatedRun.Scenario
