import GatedRun.RunError

/-!
# Failures of tasks

A task fails in one of two ways: it returns an error (`TaskError`), or it unwinds with a payload
(`Payload`). A `TaskFailure` records which, and the task's index. Raising a failure unwinds again: a
panicked failure with its own payload, a returned one wrapped into a payload that carries the
failure, so that a run inside a task passes its failure on unchanged.

A task may also take the failure of another run for its own error. So errors, payloads and failures
nest in one another to any depth.

An error's text can always be had, and tasks, values, errors and payloads can be let go of at any
time: neither a task nor what it returns or unwinds with has code of its own that unwinds when it is
put into words or disposed of. Tasks of which this does not hold are outside of this development.
Only for the jobs of a pool, whose payloads nobody keeps, is a disposal that unwinds taken into
account (`JobEnding.lethal`).
-/

namespace GatedRun

open Text (Inspection)

mutual

/-- An error that a task may return. -/
inductive TaskError where
  | text (message : String)
  | labelled (message : String)
  | wrapping (message : String) (cause : TaskError)
  /-- An error of the operating system's files and streams. -/
  | stream (message : String)
  | run (error : RunError)
  /-- The failure of a task of another run. -/
  | failure (failure : TaskFailure)
  /-- A failure that was raised in another run, and caught. -/
  | raised (failure : ReturnedError)
  deriving DecidableEq, Repr

/-- The record of a task that returned an error. -/
structure ReturnedError where
  index : Nat
  source : TaskError
  deriving DecidableEq, Repr

/-- What an unwinding thread carries. Whoever catches it can let go of it at any time, and that does
not unwind again. -/
inductive Payload where
  /-- A fixed text. -/
  | str (text : String)
  /-- A text made for the occasion. -/
  | string (text : String)
  | int (n : Int64)
  | raised (failure : ReturnedError)
  | unit
  /-- Anything else that has no text, of some kind. -/
  | other (kind : String)
  deriving DecidableEq, Repr

/-- Why one task failed. -/
inductive TaskFailure where
  | returned (failure : ReturnedError)
  | panicked (index : Nat) (payload : Payload)
  deriving DecidableEq, Repr

end

/-! ### Payloads as texts -/

namespace Payload

def text? : Payload → Option String
  | .str text => some text
  | .string text => some text
  | _ => none

/-- The text of a payload that has one, and a fixed stand-in for all others. -/
def message (payload : Payload) : String :=
  payload.text?.getD "Box<dyn Any>"

def inspect (payload : Payload) : Inspection :=
  .tuple "PanicPayload" [.text payload.message]

end Payload

/-! ### Errors and failures as texts -/

mutual

def TaskError.message : TaskError → String
  | .text message => message
  | .labelled message => message
  | .wrapping message _ => message
  | .stream message => message
  | .run error => error.message
  | .failure inner => inner.describe
  | .raised inner => inner.describe

def ReturnedError.describe : ReturnedError → String
  | ⟨index, source⟩ => "task #" ++ toString index ++ " failed: " ++ source.message

def TaskFailure.describe : TaskFailure → String
  | .returned failure => failure.describe
  | .panicked index payload => "task #" ++ toString index ++ " panicked: " ++ payload.message

end

mutual

/-- The texts of the errors behind an error, each the cause of the one before it. -/
def TaskError.causes : TaskError → List String
  | .wrapping _ cause => cause.message :: cause.causes
  | .run error => error.causes
  | .failure inner => inner.causes
  | .raised ⟨index, source⟩ =>
    ReturnedError.describe ⟨index, source⟩ :: source.message :: source.causes
  | _ => []

def TaskFailure.causes : TaskFailure → List String
  | .returned ⟨_, source⟩ => source.message :: source.causes
  | .panicked _ _ => []

end

mutual

def TaskError.inspect : TaskError → Inspection
  | .text message => .text message
  | .labelled message => .tuple "Chain" [.text message]
  | .wrapping message _ => .tuple "Chain" [.text message]
  | .stream message => (SpawnFault.reported message).inspect
  | .run error => error.inspect
  | .failure inner => inner.inspect
  | .raised inner => .tuple "RaisedFailure" [inner.inspectReturned]

def ReturnedError.inspectReturned : ReturnedError → Inspection
  | ⟨index, source⟩ => .record "Returned" [.labelled "index" (.number index),
      .labelled "source" source.inspect] false

def TaskFailure.inspect : TaskFailure → Inspection
  | .returned failure => failure.inspectReturned
  | .panicked index payload => .record "Panicked" [.labelled "index" (.number index),
      .labelled "payload" payload.inspect] false

end

namespace TaskFailure

def index : TaskFailure → Nat
  | .returned failure => failure.index
  | .panicked index _ => index

/-- What went wrong, without the task's index. -/
def message : TaskFailure → String
  | .returned failure => failure.source.message
  | .panicked _ payload => payload.message

/-- Whether the task returned an error in place of unwinding. -/
def isChecked : TaskFailure → Bool
  | .returned _ => true
  | .panicked _ _ => false

def payload? : TaskFailure → Option Payload
  | .returned _ => none
  | .panicked _ payload => some payload

def raise : TaskFailure → Payload
  | .returned failure => .raised failure
  | .panicked _ payload => payload

end TaskFailure

/-! ### Raised failures -/

namespace ReturnedError

def failure (raised : ReturnedError) : TaskFailure := .returned raised

def causes (raised : ReturnedError) : List String :=
  raised.failure.describe :: raised.failure.causes

def inspect (raised : ReturnedError) : Inspection :=
  .tuple "RaisedFailure" [raised.failure.inspect]

end ReturnedError

namespace Payload

def raised? : Payload → Option ReturnedError
  | .raised failure => some failure
  | _ => none

/-- What a payload says to whoever caught it, who knows raised failures too. -/
def describe : Payload → String
  | .raised failure => failure.describe
  | .str text => text
  | .string text => text
  | _ => "Box<dyn Any>"

end Payload

end GatedRun
