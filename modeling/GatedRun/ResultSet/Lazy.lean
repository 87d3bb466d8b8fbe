import GatedRun.ResultSet

/-!
# Values one at a time

`LazyValues` hands out the values of a result set one by one. The step that reaches a failure raises
it and passes over it, so that the steps after it go on with the next outcome.
-/

namespace GatedRun

open Text (Inspection)

/-- The outcomes not yet handed out. -/
structure LazyValues (α : Type) where
  remaining : List (Outcome α)

namespace LazyValues

variable {α : Type}

/-- A step takes the next outcome off; it is over when none is left, and raises a failure. -/
def next : LazyValues α → Option (Except Payload α) × LazyValues α
  | ⟨[]⟩ => (none, ⟨[]⟩)
  | ⟨outcome :: rest⟩ => (some outcome.valueOrRaise, ⟨rest⟩)

def sizeHint (values : LazyValues α) : Nat × Nat :=
  (values.remaining.length, values.remaining.length)

def steps : Nat → LazyValues α → List ((Nat × Nat) × Option (Except Payload α))
  | 0, _ => []
  | n + 1, values => (values.sizeHint, values.next.1) :: steps n values.next.2

theorem next_of_some {values rest : LazyValues α} {step : Except Payload α}
    (stepped : values.next = (some step, rest)) :
    rest.remaining.length < values.remaining.length := by
  obtain ⟨outcomes⟩ := values
  cases outcomes with
  | nil => simp [next] at stepped
  | cons outcome tail =>
    simp only [next, Prod.mk.injEq] at stepped
    simp [← stepped.2]

/-- Every value up to the end; the first failure is raised, and the outcomes after it are let go of,
which never unwinds. -/
def collect (values : LazyValues α) : Except Payload (List α) :=
  -- The equation is there for the proof that fewer outcomes remain.
  match _stepped : values.next with
  | (none, _) => .ok []
  | (some (.error payload), _) => .error payload
  | (some (.ok value), rest) => (collect rest).map (value :: ·)
  termination_by values.remaining.length
  decreasing_by exact next_of_some (by assumption)

def inspect (inspectValue : α → Inspection) (values : LazyValues α) : Inspection :=
  .record "LazyValues" [.labelled "inner"
    (.tuple "IntoIter" [.list (values.remaining.map (Outcome.inspect inspectValue))])] false

end LazyValues

namespace ResultSet

def lazyValues {α : Type} (results : ResultSet α) : LazyValues α := ⟨results.outcomes⟩

end ResultSet

end GatedRun
