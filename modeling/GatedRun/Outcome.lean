import GatedRun.Failure

/-!
# Outcomes of tasks

What a task's body did (`BodyResult`), and what a run keeps of it (`Outcome`): the value, or the
failure with the task's index.
-/

namespace GatedRun

open Text (Inspection)

/-- How the body of a task ended. -/
inductive BodyResult (α : Type) where
  | returned (value : α)
  | failed (error : TaskError)
  | panicked (payload : Payload)
  deriving DecidableEq, Repr

/-- What becomes of a body that takes values out of something: it goes on with the values, and what
is raised unwinds through it. -/
def BodyResult.ofTaken {α β : Type} (goOn : List α → BodyResult β) :
    Except Payload (List α) → BodyResult β
  | .ok values => goOn values
  | .error payload => .panicked payload

/-- What a run keeps of one task. -/
inductive Outcome (α : Type) where
  | success (value : α)
  | failure (failure : TaskFailure)
  deriving DecidableEq, Repr

namespace Outcome

variable {α : Type}

def capture (index : Nat) : BodyResult α → Outcome α
  | .returned value => .success value
  | .failed error => .failure (.returned ⟨index, error⟩)
  | .panicked payload => .failure (.panicked index payload)

def value? : Outcome α → Option α
  | .success value => some value
  | .failure _ => none

def failure? : Outcome α → Option TaskFailure
  | .success _ => none
  | .failure cause => some cause

def isSuccess (outcome : Outcome α) : Bool := outcome.value?.isSome

def isFailure (outcome : Outcome α) : Bool := outcome.failure?.isSome

def parts (outcome : Outcome α) : Option α × Option TaskFailure :=
  (outcome.value?, outcome.failure?)

def toExcept : Outcome α → Except TaskFailure α
  | .success value => .ok value
  | .failure cause => .error cause

def ofExcept : Except TaskFailure α → Outcome α
  | .ok value => .success value
  | .error cause => .failure cause

def valueOrRaise : Outcome α → Except Payload α
  | .success value => .ok value
  | .failure cause => .error cause.raise

def inspect (inspectValue : α → Inspection) : Outcome α → Inspection
  | .success value => .tuple "Success" [inspectValue value]
  | .failure cause => .tuple "Failure" [cause.inspect]

end Outcome

end GatedRun
