import GatedRun.RunError

/-!
# Configuration of a run

How many threads a run may use, how they are named, and how large their stacks are. A configuration
is sound when its thread count, if it has one, is at least two and its names hold no NUL character.
`Config.check` finds the first fault, the thread count before the names.
-/

namespace GatedRun

open Text (Inspection)

def minThreadCount : Nat := 2

/-- The position of the first NUL character of the text, in bytes of its UTF-8 form. -/
def nulOffset? : List Char → Option Nat
  | [] => none
  | c :: rest => if c = '\x00' then some 0 else (nulOffset? rest).map (c.utf8Size + ·)

def checkThreadCount (count : Nat) : Except ArgumentFault Unit :=
  if count < minThreadCount then .error (.threadCount count) else .ok ()

/-- Refuses a name that holds a NUL character. -/
def checkThreadNamePrefix (label : String) : Except ArgumentFault Unit :=
  match nulOffset? label.toList with
  | some offset => .error (.threadNamePrefix offset)
  | none => .ok ()

def checkRepeatCount (count : Nat) : Except ArgumentFault Unit :=
  if count = 0 then .error .repeatCount else .ok ()

/-- How a run uses threads. -/
structure Config where
  /-- The most threads a run may start; without a bound every task has its own. -/
  threadCount : Option Nat := none
  /-- The part of a thread's name in front of its number. -/
  threadNamePrefix : String := "lockstep-worker"
  /-- The size of a thread's stack in bytes; absent, the system decides. -/
  stackSize : Option Nat := none
  deriving DecidableEq, Repr, Inhabited

namespace Config

/-- Bounds the number of threads. -/
def withThreadCount (config : Config) (count : Nat) : Except ArgumentFault Config :=
  match checkThreadCount count with
  | .error fault => .error fault
  | .ok () => .ok { config with threadCount := some count }

def withThreadNamePrefix (config : Config) (label : String) : Config :=
  { config with threadNamePrefix := label }

def withStackSize (config : Config) (bytes : Nat) : Config :=
  { config with stackSize := some bytes }

/-- Finds the first fault, the thread count before the names. -/
def check (config : Config) : Except ArgumentFault Unit :=
  match config.threadCount.map checkThreadCount with
  | some (.error fault) => .error fault
  | _ => checkThreadNamePrefix config.threadNamePrefix

/-- The threads that a run of that many tasks starts. -/
def poolSize (config : Config) (taskCount : Nat) : Nat :=
  match config.threadCount with
  | some count => min count taskCount
  | none => taskCount

def workerName (config : Config) (worker : Nat) : String :=
  config.threadNamePrefix ++ "-" ++ toString worker

/-- What the configuration shows to a developer. -/
def inspect (config : Config) : Inspection :=
  .record "RunConfig" [
    .labelled "thread_count" (.optional (config.threadCount.map .number)),
    .labelled "thread_name_prefix" (.text config.threadNamePrefix),
    .labelled "stack_size" (.optional (config.stackSize.map .number))] false

end Config

end GatedRun
