import GatedRun.Text.Inspection

/-!
# Errors of a run as a whole

A run can fail before or beside its tasks: an argument is refused, there is nothing to run, the
wait for the workers or for the tasks is interrupted, a thread cannot be started, or the pool takes
no more jobs. Each is a cause; `RunError.message` holds all the wording.
-/

namespace GatedRun

open Text (Inspection)

/-- What the caller of a run waits for, first and then. -/
inductive WaitPhase where
  | readiness
  | completion
  deriving DecidableEq, Repr, Inhabited

namespace WaitPhase

def describe : WaitPhase → String
  | .readiness => "workers to become ready"
  | .completion => "tasks to complete"

def label : WaitPhase → String
  | .readiness => "Readiness"
  | .completion => "Completion"

end WaitPhase

/-- Why an argument was refused. -/
inductive ArgumentFault where
  /-- Fewer threads than a concurrent run makes sense with. -/
  | threadCount (count : Nat)
  /-- A thread's name cannot hold the NUL character, found that many bytes into the text. -/
  | threadNamePrefix (offset : Nat)
  /-- Nothing to repeat. -/
  | repeatCount
  | poolSize
  /-- A fault that someone else found and put into words. -/
  | reported (name reason : String)
  deriving DecidableEq, Repr

namespace ArgumentFault

def name : ArgumentFault → String
  | .threadCount _ => "thread_count"
  | .threadNamePrefix _ => "thread_name_prefix"
  | .repeatCount => "repeat_count"
  | .poolSize => "pool_size"
  | .reported name _ => name

/-- What is wrong with it. -/
def reason : ArgumentFault → String
  | .threadCount count => "must be at least 2, got " ++ toString count
  | .threadNamePrefix offset =>
    "must not contain a NUL byte, found one at offset " ++ toString offset
  | .repeatCount => "must be at least 1, got 0"
  | .poolSize => "a worker pool needs at least one thread"
  | .reported _ reason => reason

end ArgumentFault

/-- Why a thread could not be started. -/
inductive SpawnFault where
  /-- An error of the operating system: its number, the kind that it is taken for, and its text. -/
  | system (code : Nat) (kind text : String)
  /-- A fault that someone else found and put into words. -/
  | reported (text : String)
  deriving DecidableEq, Repr

namespace SpawnFault

def message : SpawnFault → String
  | .system code _ text => text ++ " (os error " ++ toString code ++ ")"
  | .reported text => text

def inspect : SpawnFault → Inspection
  | .system code kind text => .record "Os" [.labelled "code" (.number code),
      .labelled "kind" (.atom kind), .labelled "message" (.text text)] false
  | .reported text => .record "Custom" [.labelled "kind" (.atom "Other"),
      .labelled "error" (.text text)] false

end SpawnFault

/-- Why a run, or the preparation of one, failed as a whole. -/
inductive RunError where
  | invalidArgument (fault : ArgumentFault)
  | noTasks
  | interrupted (phase : WaitPhase)
  | spawn (fault : SpawnFault)
  | poolClosed
  deriving DecidableEq, Repr

namespace RunError

def message : RunError → String
  | .invalidArgument fault => "invalid argument `" ++ fault.name ++ "`: " ++ fault.reason
  | .noTasks => "a concurrent run needs at least one task"
  | .interrupted phase => "concurrent run interrupted while waiting for " ++ phase.describe
  | .spawn fault => "failed to spawn worker thread: " ++ fault.message
  | .poolClosed => "worker pool is shut down"

def causes : RunError → List String
  | .spawn fault => [fault.message]
  | _ => []

def isInterrupted : RunError → Bool
  | .interrupted _ => true
  | _ => false

/-- What the error shows to a developer. -/
def inspect : RunError → Inspection
  | .invalidArgument fault => .record "InvalidArgument" [.labelled "name" (.text fault.name),
      .labelled "reason" (.text fault.reason)] false
  | .noTasks => .atom "NoTasks"
  | .interrupted phase =>
    .record "Interrupted" [.labelled "phase" (.atom phase.label)] false
  | .spawn fault => .tuple "Spawn" [fault.inspect]
  | .poolClosed => .atom "PoolClosed"

end RunError

end GatedRun
