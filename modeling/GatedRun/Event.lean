import GatedRun.Failure

/-!
# Log events

What runs and pools report about themselves. An event is written as its level, its message and its
fields. The number of jobs that a detached pool leaves behind is part of its event, but it hangs on
the moment at which it was read, so the written form leaves it out.
-/

namespace GatedRun

/-- How much an event matters. -/
inductive Level where
  | trace
  | debug
  | warn
  deriving DecidableEq, Repr

def Level.label : Level → String
  | .trace => "TRACE"
  | .debug => "DEBUG"
  | .warn => "WARN"

/-- Something that a run or a pool reports. -/
inductive Event where
  | runStarting (tasks threads : Nat)
  | poolStarted (workers : Nat) (threadNamePrefix : String)
  | parked (task : Nat)
  | skipped (task : Nat)
  | gateOpened (threads : Nat)
  | taskFailed (task : Nat) (failure : TaskFailure)
  | jobUnwound
  | workerExiting (name : String)
  | workerDied (name : String)
  | poolDetached (workers pending : Nat)
  | runInterrupted (phase : WaitPhase)
  | runFinished (successes failures jobs : Nat)
  deriving DecidableEq, Repr

namespace Event

def level : Event → Level
  | .parked _ | .skipped _ | .workerExiting _ => .trace
  | .runStarting _ _ | .poolStarted _ _ | .gateOpened _ | .taskFailed _ _
  | .runFinished _ _ _ => .debug
  | .jobUnwound | .workerDied _ | .poolDetached _ _ | .runInterrupted _ => .warn

/-- What happened, in words. -/
def message : Event → String
  | .runStarting _ _ => "starting concurrent run"
  | .poolStarted _ _ => "worker pool started"
  | .parked _ => "parked at start gate"
  | .skipped _ => "run abandoned, skipping task"
  | .gateOpened _ => "start gate opened"
  | .taskFailed _ _ => "task failed"
  | .jobUnwound => "job unwound out of its worker"
  | .workerExiting _ => "worker exiting"
  | .workerDied _ => "worker thread exited abnormally"
  | .poolDetached _ _ => "worker pool detached without joining"
  | .runInterrupted _ => "concurrent run interrupted"
  | .runFinished _ _ _ => "concurrent run finished"

/-- The fields that do not hang on the moment at which they were read. -/
def fields : Event → List (String × String)
  | .runStarting tasks threads => [("tasks", toString tasks), ("threads", toString threads)]
  | .poolStarted workers threadNamePrefix =>
    [("workers", toString workers), ("prefix", threadNamePrefix)]
  | .parked task => [("task", toString task)]
  | .skipped task => [("task", toString task)]
  | .gateOpened threads => [("threads", toString threads)]
  | .taskFailed task failure => [("task", toString task),
      ("checked", if failure.isChecked then "true" else "false"), ("failure", failure.describe)]
  | .jobUnwound => []
  | .workerExiting name => [("worker", "Some(" ++ Text.quoted name ++ ")")]
  | .workerDied name => [("worker", name)]
  | .poolDetached workers _ => [("workers", toString workers)]
  | .runInterrupted phase => [("phase", phase.describe)]
  | .runFinished successes failures jobs => [("successes", toString successes),
      ("failures", toString failures), ("jobs", toString jobs)]

def line (event : Event) : String :=
  " ".intercalate (event.level.label :: event.message ::
    event.fields.map fun field => field.1 ++ "=" ++ field.2)

end Event

end GatedRun
