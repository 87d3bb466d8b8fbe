import GatedRun.Text.Inspection

/-!
# Figures of a run and of a pool

`RunStats` holds when the tasks of a run started; their spread is the distance from the earliest
start to the latest. `PoolStats` holds the job counters of a pool; the jobs still pending are those
submitted and not yet finished.
-/

namespace GatedRun

open Text (Inspection)

abbrev Instant := Nat

/-- What happened in one run. -/
structure RunStats where
  poolSize : Nat
  taskCount : Nat
  /-- When each task passed the gate, in the order of submission. -/
  startedAt : List (Option Instant)
  elapsed : Nat
  deriving DecidableEq, Repr

namespace RunStats

def extremes (first : Instant) (rest : List Instant) : Instant × Instant :=
  rest.foldl (fun range instant => (min range.1 instant, max range.2 instant)) (first, first)

/-- The distance from the earliest to the latest start; tasks without a start do not count. -/
def startSpread (stats : RunStats) : Nat :=
  match stats.startedAt.filterMap id with
  | [] => 0
  | first :: rest => (extremes first rest).2 - (extremes first rest).1

def startedCount (stats : RunStats) : Nat :=
  stats.startedAt.countP Option.isSome

end RunStats

/-- The counters of a pool. -/
structure PoolStats where
  workers : Nat
  submitted : Nat
  completed : Nat
  panicked : Nat
  deriving DecidableEq, Repr

namespace PoolStats

/-- The jobs not yet finished; counters that contradict each other leave none. -/
def pending (stats : PoolStats) : Nat :=
  stats.submitted - stats.completed - stats.panicked

def inspect (stats : PoolStats) : Inspection :=
  .record "PoolStats" [
    .labelled "workers" (.number stats.workers),
    .labelled "submitted" (.number stats.submitted),
    .labelled "completed" (.number stats.completed),
    .labelled "panicked" (.number stats.panicked)] false

end PoolStats

end GatedRun
