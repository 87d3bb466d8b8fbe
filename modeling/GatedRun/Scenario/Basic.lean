import GatedRun.Scenario.Action
import GatedRun.Workshop
import Std.Data.HashMap

/-!
# Scenarios

A scenario is a workshop and some pools at work, together with what the scripts of their bodies
share: counters, a log, gauges and latches. One thread, the main one, does the user's commands; the
others are workers, and helpers that raise an interrupt when a latch opens. A thread that is inside
a body has an `Activity`, which says how far the body's script is.
-/

namespace GatedRun.Scenario

open Sync (Latch)

/-- The bytes at which a stack no longer fits into a program's address space. -/
def addressSpace : Nat := Nat.pow 2 47

/-- What the operating system makes of the request for a thread with the configured stack. -/
def systemGrant (config : Config) : Grant :=
  match config.stackSize with
  | none => .given
  | some bytes =>
    if bytes < addressSpace then .given
    else .refused (.system 11 "WouldBlock" "Resource temporarily unavailable")

/-- A thread of a scenario. -/
inductive Thread where
  | main
  | helper (helper : Nat)
  | runWorker (session call worker : Nat)
  | poolWorker (pool worker : Nat)
  deriving DecidableEq, Hashable, Repr

/-- How many threads are inside something, and the most that ever were. -/
structure Gauge where
  inside : Int := 0
  peak : Int := 0
  deriving Repr

/-- What all scripts share, each thing known by its name. -/
structure Shared where
  counters : List (String × Int64) := []
  log : List String := []
  gauges : List (String × Gauge) := []
  latches : List (String × Latch Thread) := []
  /-- How often the scripts that take turns were called, by key. -/
  turns : List (String × Nat) := []

/-- The table with the entry of a name changed; a name without an entry begins with a fresh one. -/
def update {β : Type} (table : List (String × β)) (name : String) (fresh : β) (change : β → β) :
    List (String × β) :=
  match table with
  | [] => [(name, change fresh)]
  | (other, entry) :: rest =>
    if other == name then (other, change entry) :: rest
    else (other, entry) :: update rest name fresh change

namespace Shared

def counter (shared : Shared) (name : String) : Int64 := (shared.counters.lookup name).getD 0

def onCounter (shared : Shared) (name : String) (change : Int64 → Int64) : Shared :=
  { shared with counters := update shared.counters name 0 change }

def onLatch (shared : Shared) (name : String) (change : Latch Thread → Latch Thread) : Shared :=
  { shared with latches := update shared.latches name (Latch.new 0) change }

def latch (shared : Shared) (name : String) : Latch Thread :=
  (shared.latches.lookup name).getD (Latch.new 0)

def onGauge (shared : Shared) (name : String) (change : Gauge → Gauge) : Shared :=
  { shared with gauges := update shared.gauges name {} change }

/-- What an action does to the things that are shared, and the value that it gives. -/
def perform (shared : Shared) : SharedAction → Shared × Option Value
  | .add name amount => (shared.onCounter name (· + amount), none)
  | .fetchAdd name amount =>
    (shared.onCounter name (· + amount), some (.int (shared.counter name).toInt))
  | .max name bound => (shared.onCounter name fun n => if n < bound then bound else n, none)
  | .min name bound => (shared.onCounter name fun n => if bound < n then bound else n, none)
  | .get name => (shared.onCounter name id, some (.int (shared.counter name).toInt))
  | .log entry => ({ shared with log := entry :: shared.log }, none)
  | .countDown name => (shared.onLatch name (·.countDown), none)
  | .enter name => (shared.onGauge name fun gauge =>
      ⟨gauge.inside + 1, Max.max gauge.peak (gauge.inside + 1)⟩, none)
  | .leave name => (shared.onGauge name fun gauge =>
      { gauge with inside := gauge.inside - 1 }, none)

def turn (shared : Shared) (key : String) (scripts : List Script) : Shared × Script :=
  let earlier := (shared.turns.lookup key).getD 0
  ({ shared with turns := update shared.turns key 0 (· + 1) },
    -- The last script has all further turns.
    scripts.getD (Nat.min earlier (scripts.length - 1)) [])

end Shared

/-- A script under way, and the value that it has so far. -/
structure Frame where
  rest : Script
  value : Value := .null

/-- A run that a script waits for. -/
structure NestedRun where
  session : Nat
  call : Nat
  consumption : Consumption

/-- A body under way. -/
structure Activity where
  body : Body
  frames : List Frame
  /-- The handle that the body has on the interrupt of the runner that it is run by. -/
  interrupt : Option Interrupt := none
  nested : Option NestedRun := none

/-- A body at its beginning, run by a runner with that interrupt, or by none. -/
def Activity.ofBody (body : Body) (interrupt : Option Interrupt) : Activity :=
  { body
    frames := [{ rest := body.script }]
    interrupt := if body.hasInterrupt then interrupt else none }

/-- What the main thread is at, apart from bodies of its own. -/
inductive Errand where
  | idle
  | execution (session call : Nat)
  | launch (pool : Nat)
  | shutdown (pool : Nat)
  deriving Repr

/-- A workshop and pools at work, and what their scripts share. -/
structure State where
  workshop : Workshop Value := {}
  pools : List (Pool Nat) := []
  /-- The bodies of tasks, at the positions at which the workshop knows them. -/
  bodies : Array Body := #[]
  jobs : Array Body := #[]
  shared : Shared := {}
  activities : Std.HashMap Thread Activity := {}
  helpers : Nat := 0
  errand : Errand := .idle
  /-- How the last body that the main thread ran by itself ended. -/
  ownResult : Option (BodyResult Value) := none
  /-- The session of the runner that the user's commands are about. -/
  bench : Option Nat := none
  pool : Option Nat := none
  /-- The events of the main thread and those of all others, the newest first. -/
  mainEvents : List Event := []
  otherEvents : List Event := []
  clock : Instant := 0

namespace State

def interrupt? (state : State) (session : Nat) : Option Interrupt :=
  state.workshop.sessions[session]?.map (·.interrupt)

/-- The interrupt of the runner on the bench. -/
def benchInterrupt? (state : State) : Option Interrupt := state.bench.bind state.interrupt?

def execution? (state : State) (session call : Nat) : Option (Execution Nat Value) :=
  state.workshop.sessions[session]?.bind (·.calls[call]?)

def result? (state : State) (session call : Nat) :
    Option (Except RunError (ResultSet Value)) :=
  (state.execution? session call).bind (·.result?)

def poolHas (state : State) (index : Nat) (property : Pool Nat → Bool) : Bool :=
  (state.pools[index]?.map property).getD true

def deadWorkers (state : State) : Nat :=
  (state.pools.flatMap (·.workers)).countP (·.isDead)

def threadName (state : State) : Thread → String
  | .main => "main"
  | .helper _ => "helper"
  | .runWorker session call worker =>
    ((state.execution? session call).map (·.config.workerName worker)).getD ""
  | .poolWorker pool worker => (state.pools[pool]?.map (·.config.workerName worker)).getD ""

def record (state : State) (thread : Thread) (event : Event) : State :=
  match thread with
  | .main => { state with mainEvents := event :: state.mainEvents }
  | _ => { state with otherEvents := event :: state.otherEvents }

def enter (state : State) (thread : Thread) (activity : Activity) : State :=
  { state with activities := state.activities.insert thread activity }

def leave (state : State) (thread : Thread) : State :=
  { state with activities := state.activities.erase thread }

end State

end GatedRun.Scenario
