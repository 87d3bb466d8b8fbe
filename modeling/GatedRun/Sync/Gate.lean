import GatedRun.Text.Inspection

/-!
# Start gates

A gate holds threads back until it is settled, once and for good: opened, or abandoned. A thread
that comes to a closed gate falls asleep at it in the same step. Settling wakes every sleeper, and
each thread that passes learns whether the gate was opened.
-/

namespace GatedRun.Sync

open Text (Inspection)

/-- Where a gate stands. -/
inductive GateState where
  | closed
  | opened
  | abandoned
  deriving DecidableEq, Repr, Inhabited

/-- The state's name. -/
def GateState.label : GateState → String
  | .closed => "Closed"
  | .opened => "Open"
  | .abandoned => "Abandoned"

/-- A gate and the threads asleep at it. -/
structure Gate (θ : Type) where
  state : GateState := .closed
  asleep : List θ := []
  deriving DecidableEq, Repr

namespace Gate

variable {θ : Type} [DecidableEq θ]

def isSettled (gate : Gate θ) : Bool := gate.state != .closed

/-- Brings a closed gate into a state and wakes all sleepers; a settled gate stays as it is. -/
def settle (gate : Gate θ) (state : GateState) : Gate θ :=
  if gate.isSettled then gate else { state, asleep := [] }

def openUp (gate : Gate θ) : Gate θ := gate.settle .opened

def abandon (gate : Gate θ) : Gate θ := gate.settle .abandoned

/-- A thread at the gate learns whether it was opened, or falls asleep at a closed one. -/
def visit (gate : Gate θ) (thread : θ) : Option Bool × Gate θ :=
  match gate.state with
  | .closed => (none, { gate with asleep := thread :: gate.asleep })
  | .opened => (some true, gate)
  | .abandoned => (some false, gate)

def wake (gate : Gate θ) (thread : θ) : Gate θ :=
  { gate with asleep := gate.asleep.filter (· ≠ thread) }

def isAsleep (gate : Gate θ) (thread : θ) : Bool := gate.asleep.contains thread

omit [DecidableEq θ] in
def inspect (gate : Gate θ) : Inspection :=
  .record "StartGate" [.labelled "state" (.atom gate.state.label)] false

end Gate

end GatedRun.Sync
