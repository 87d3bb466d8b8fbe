import GatedRun.Outcome
import GatedRun.ResultSet.Items
import GatedRun.Stats

/-!
# Results of a run

The outcomes of a run's tasks in the order of submission, with the ways to take them out. Some ways
keep every outcome apart (`intoOutcomes`, `handle`, `failures`), some stop at the first failure, by
returning it (`tryCollect`) or by raising it (`collect`, `requireSuccess`). The outcomes after that
failure are let go of, which never unwinds (see `Payload`).
-/

namespace GatedRun

open Text (Inspection)

/-- What a finished run hands over. -/
structure ResultSet (α : Type) where
  /-- One outcome for each task, in the order of submission. -/
  outcomes : List (Outcome α)
  stats : RunStats
  deriving Repr

namespace ResultSet

variable {α : Type}

def size (results : ResultSet α) : Nat := results.outcomes.length

def isEmpty (results : ResultSet α) : Bool := results.outcomes.isEmpty

/-- The outcomes one by one, from either end; the result set is left as it is. -/
def iter (results : ResultSet α) : Items (Outcome α) := ⟨results.outcomes⟩

/-- The outcomes, with which the result set is given up. -/
def intoOutcomes (results : ResultSet α) : List (Outcome α) := results.outcomes

/-- The outcomes one by one, from either end, with which the result set is given up. -/
def intoIter (results : ResultSet α) : Items (Outcome α) := ⟨results.intoOutcomes⟩

def failures (results : ResultSet α) : List TaskFailure :=
  results.outcomes.filterMap Outcome.failure?

def firstFailure (results : ResultSet α) : Option TaskFailure :=
  results.failures.head?

def successCount (results : ResultSet α) : Nat :=
  results.outcomes.countP Outcome.isSuccess

def failureCount (results : ResultSet α) : Nat :=
  results.size - results.successCount

def hasFailures (results : ResultSet α) : Bool :=
  results.outcomes.any Outcome.isFailure

def valuesOf : List (Outcome α) → Except TaskFailure (List α)
  | [] => .ok []
  | .failure failure :: _ => .error failure
  | .success value :: rest => (valuesOf rest).map (value :: ·)

def tryCollect (results : ResultSet α) : Except TaskFailure (List α) :=
  valuesOf results.outcomes

def collect (results : ResultSet α) : Except Payload (List α) :=
  results.tryCollect.mapError TaskFailure.raise

/-- Nothing when every task succeeded; else the first failure is raised. -/
def requireSuccess (results : ResultSet α) : Except Payload Unit :=
  match results.outcomes.findSome? Outcome.failure? with
  | some failure => .error failure.raise
  | none => .ok ()

/-- Passes each outcome on as value and failure, exactly one of them present, in the order of
submission, and keeps what comes back. -/
def handleM {m : Type → Type} [Monad m] {γ : Type} (combine : Option α → Option TaskFailure → m γ)
    (results : ResultSet α) : m (List γ) :=
  results.outcomes.mapM fun outcome => combine outcome.parts.1 outcome.parts.2

/-- What a function of value and failure says of each outcome. -/
def handle {γ : Type} (combine : Option α → Option TaskFailure → γ) (results : ResultSet α) :
    List γ :=
  Id.run (results.handleM fun value failure => pure (combine value failure))

end ResultSet

end GatedRun
