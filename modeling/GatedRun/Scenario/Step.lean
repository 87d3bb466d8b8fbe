import GatedRun.Scenario.Basic

/-!
# Steps of a scenario

`State.step` is one step of one thread: of the body that it is inside, or else of the worker's loop,
the caller's side of a run, or the owner's side of a pool. Workshops and pools are changed by their
own steps alone.
-/

namespace GatedRun.Scenario

open Sync (Latch)

namespace State

/-! ### Steps of workshops and pools -/

/-- What a step of a workshop, done by a thread, means for the scenario: its events are recorded,
and the thread goes into the body that it called. -/
def absorb (thread : Thread) (state : State) : WorkshopNote Value → State
  | .ofCall _ _ (.logged _ event) => state.record thread event
  | .ofCall session _ (.bodyCalled _ _ body) =>
    match state.bodies[body]? with
    | some script => state.enter thread (.ofBody script (state.interrupt? session))
    | none => state
  | _ => state

/-- A thread does a step of the workshop. -/
def inWorkshop (state : State) (thread : Thread) (move : WorkshopMove Value) :
    Option (State × Option RunError) :=
  match state.workshop.step move with
  | none => none
  | some (workshop, notes) =>
    -- A step is refused once at most, so the first refusal is the only one.
    let refusal := notes.findSome? fun
      | .refused error => some error
      | _ => none
    some (notes.foldl (absorb thread) { state with workshop, clock := state.clock + 1 }, refusal)

def inRun (state : State) (thread : Thread) (session call : Nat) (move : RunMove Value) :
    Option State :=
  (state.inWorkshop thread (.run session call state.clock move)).map (·.1)

def callOn (state : State) (thread : Thread) (session call : Nat) : Option State :=
  match state.execution? session call with
  | none => none
  | some execution => state.inRun thread session call (.call (systemGrant execution.config))

/-- What a step of a pool, done by a thread, means for the scenario. -/
def absorbPool (thread : Thread) (state : State) : PoolNote Nat → State
  | .logged _ event => state.record thread event
  | .taken _ job =>
    match state.jobs[job]? with
    | some body => state.enter thread (.ofBody body none)
    | none => state
  | _ => state

/-- A thread does a step of a pool. -/
def inPool (state : State) (thread : Thread) (pool : Nat) (move : PoolMove Nat) : Option State :=
  match state.pools[pool]? with
  | none => none
  | some current =>
    match current.step move with
    | none => none
    | some (after, notes) =>
      some (notes.foldl (absorbPool thread) { state with pools := state.pools.set pool after })

/-! ### Runs inside a body -/

def withBodies (state : State) (bodies : List Body) : State :=
  { state with bodies := state.bodies ++ bodies.toArray }

def openRunner (state : State) (thread : Thread) (opening : Opening TaskSource) :
    Option (State × Except RunError Nat) :=
  match state.inWorkshop thread (.openRunner opening) with
  | none => none
  | some (after, some error) => some (after, .error error)
  | some (after, none) => some (after, .ok state.workshop.sessions.length)

/-- A thread extends a runner as often as the list asks for, up to the first refusal. -/
def extendAll (state : State) (thread : Thread) (session : Nat) :
    List (Extension TaskSource) → State × Except RunError Nat
  | [] => (state, .ok session)
  | extension :: rest =>
    match state.inWorkshop thread (.extend session extension) with
    | none => (state, .ok session)
    | some (after, some error) => (after, .error error)
    | some (after, none) => after.extendAll thread session rest

def begin (state : State) (thread : Thread) (session : Nat) : State × Nat :=
  let call := (state.workshop.sessions[session]?.map (·.calls.length)).getD 0
  match state.inWorkshop thread (.begin session state.clock) with
  | none => (state, call)
  | some (after, _) => (after, call)

def dropRunner (state : State) (thread : Thread) (session : Nat) : State :=
  ((state.inWorkshop thread (.dropRunner session)).map (·.1)).getD state

/-- A script prepares a runner of its own from further scripts. -/
def openNested (state : State) (thread : Thread) (tasks : List Script)
    (extensions : List (Extension TaskSource)) : State × Except RunError Nat :=
  let opening := Opening.tasks (tasks.map fun _ => TaskSource.fresh)
  let bodies := tasks.map fun script => ({ script, fallible := true } : Body)
  match (state.withBodies bodies).openRunner thread opening with
  | none => (state, .error .noTasks)
  | some (after, .error error) => (after, .error error)
  | some (after, .ok session) => after.extendAll thread session extensions

/-! ### Bodies -/

/-- What one step of a body leads to. -/
inductive BodyStep where
  | blocked
  | going (state : State) (activity : Activity)
  | ended (state : State) (ending : BodyEnding)

def conclude (state : State) (activity : Activity) (frame : Frame) (below : List Frame) :
    BodyResult Value → BodyStep
  | .returned value =>
    .going state { activity with frames := { frame with value } :: below, nested := none }
  | result => .ended state (.result result)

/-- A body does the first action of its innermost script. -/
def act (state : State) (thread : Thread) (activity : Activity) (frame : Frame)
    (below : List Frame) : Action → BodyStep
  | .yield value => state.conclude activity frame below (.returned value)
  | .fail error => .ended state (.result (.failed error))
  | .unwind payload => .ended state (.result (.panicked payload))
  | .kill => .ended state .killed
  | .raiseFailure failure => .ended state (.result (.panicked failure.raise))
  | .shared action =>
    let (shared, value) := state.shared.perform action
    conclude { state with shared } activity frame below (.returned (value.getD frame.value))
  | .waitFor name =>
    let latch := state.shared.latch name
    if latch.isAsleep thread then .blocked
    else
      match latch.visit thread with
      | (true, _) => state.conclude activity frame below (.returned frame.value)
      -- The action is still to be done when the thread wakes up.
      | (false, after) =>
        .going { state with shared := state.shared.onLatch name fun _ => after } activity
  | .interrupt =>
    match activity.interrupt.bind fun handle => state.inWorkshop thread (.raise handle) with
    | some (after, _) => after.conclude activity frame below (.returned frame.value)
    | none => state.conclude activity frame below (.returned frame.value)
  | .threadName => state.conclude activity frame below (.returned (.text (state.threadName thread)))
  | .nth key scripts =>
    -- The scripts take turns over all calls with one key, whoever makes them.
    let (shared, script) := state.shared.turn key scripts
    .going { state with shared }
      { activity with frames := { rest := script } :: frame :: below }
  | .nested tasks threadCount config consumption =>
    let extensions := (threadCount.map Extension.threadCount).toList
      ++ (config.map Extension.config).toList
    match state.openNested thread tasks extensions with
    | (after, .error error) => .ended after (.result (.failed (.run error)))
    | (after, .ok session) =>
      let (begun, call) := after.begin thread session
      .going begun { activity with
        frames := frame :: below
        nested := some { session, call, consumption } }

/-- A body goes on by one step. -/
def bodyStep (state : State) (thread : Thread) (activity : Activity) : BodyStep :=
  match activity.frames with
  | [] => .ended state (.result (.returned .null))
  | frame :: below =>
    match activity.nested with
    -- Inside a nested run the body is the caller of that run.
    | some nested =>
      match state.result? nested.session nested.call with
      | some result => (state.dropRunner thread nested.session).conclude activity frame below
          (nested.consumption.conclude result)
      | none =>
        match state.callOn thread nested.session nested.call with
        | none => .blocked
        | some after => .going after activity
    | none =>
      match frame.rest, below with
      | action :: rest, _ => state.act thread activity { frame with rest } below action
      | [], [] => .ended state (.result (.returned frame.value))
      -- The value of an inner script goes to the script around it.
      | [], outer :: further =>
        state.conclude activity outer further (.returned frame.value)

def jobEnding : BodyResult Value → JobEnding
  | .returned _ => .returned
  | .failed _ | .panicked _ => .unwound

/-- A thread comes out of a body with the body's result. -/
def bodyEnds (state : State) (result : BodyResult Value) : Thread → Option State
  | .main => some { state with ownResult := some result }
  | .helper _ => some state
  | .runWorker session call worker =>
    state.inRun (.runWorker session call worker) session call (.bodyEnds worker result)
  | .poolWorker pool worker =>
    state.inPool (.poolWorker pool worker) pool (.finish worker (jobEnding result))

/-- A thread comes out of a body that takes its worker down. -/
def bodyKilled (state : State) : Thread → Option State
  | .poolWorker pool worker =>
    state.inPool (.poolWorker pool worker) pool (.finish worker .lethal)
  | _ => none

/-! ### Threads -/

/-- The main thread goes on with its errand. -/
def onErrand (state : State) : Option State :=
  match state.errand with
  | .idle => none
  | .execution session call => state.callOn .main session call
  | .launch index =>
    match state.pools[index]? with
    | none => none
    | some pool =>
      match pool.stage with
      | .launching => state.inPool .main index (.spawn (systemGrant pool.config))
      | .retreating _ => state.inPool .main index .join
      | _ => none
  | .shutdown index =>
    match state.pools[index]? with
    | none => none
    | some pool => state.inPool .main index (if pool.isOpen then .close else .join)

/-- A thread goes on by one step, if it can. -/
def step (state : State) (thread : Thread) : Option State :=
  match state.activities[thread]? with
  | some activity =>
    match state.bodyStep thread activity with
    | .blocked => none
    | .going after onward => some (after.enter thread onward)
    | .ended after (.result result) =>
      (after.leave thread).bodyEnds (activity.body.conclude result) thread
    | .ended after .killed => (after.leave thread).bodyKilled thread
  | none =>
    match thread with
    | .main => state.onErrand
    | .helper _ => none
    | .runWorker session call worker => state.inRun thread session call (.work worker)
    | .poolWorker pool worker => state.inPool thread pool (.work worker)

end State

end GatedRun.Scenario
