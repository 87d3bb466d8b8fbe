import GatedRun.Proofs.Replay

/-!
# The ledger of an execution

The notes of an execution, read as a ledger: which worker took the job of which task, and what
became of each task's body. An execution finds the interrupt flag and the time as others leave
them, so its turns take both along; a statement about all turns covers whatever the rest of a
session does.
-/

namespace GatedRun

/-- One move of an execution, with the flag and the time that it finds. -/
structure Turn (α : Type) where
  raised : Bool
  now : Instant
  move : RunMove α

/-- What can be told of the body of a task. -/
inductive BodyEvent (τ α : Type) where
  | called (worker : Nat) (task : τ)
  | ended (worker : Nat) (result : BodyResult α)
  deriving DecidableEq, Repr

variable {τ α : Type}

namespace RunNote

@[simp] def take? : RunNote τ α → Option (Nat × Nat)
  | .jobTaken worker index => some (worker, index)
  | _ => none

/-- The job that a worker let go at the abandoned gate, with the worker. -/
@[simp] def skip? : RunNote τ α → Option (Nat × Nat)
  | .logged (.worker worker) (.skipped index) => some (worker, index)
  | _ => none

/-- What the note tells of the body of the task at an index. -/
@[simp] def bodyEvent? (index : Nat) : RunNote τ α → Option (BodyEvent τ α)
  | .bodyCalled worker other task => if other = index then some (.called worker task) else none
  | .bodyEnded worker other result => if other = index then some (.ended worker result) else none
  | _ => none

end RunNote

/-- The jobs taken, in order, each with the worker that took it. -/
def takes (notes : List (RunNote τ α)) : List (Nat × Nat) := notes.filterMap RunNote.take?

/-- The jobs that were let go at the abandoned gate, in order, each with its worker. -/
def skips (notes : List (RunNote τ α)) : List (Nat × Nat) := notes.filterMap RunNote.skip?

/-- All that happened to the body of the task at an index, in order. -/
def bodyEvents (index : Nat) (notes : List (RunNote τ α)) : List (BodyEvent τ α) :=
  notes.filterMap (RunNote.bodyEvent? index)

@[simp] theorem takes_nil : takes ([] : List (RunNote τ α)) = [] := rfl

@[simp] theorem takes_cons (note : RunNote τ α) (notes : List (RunNote τ α)) :
    takes (note :: notes) = note.take?.toList ++ takes notes :=
  filterMap_cons_toList _ note notes

@[simp] theorem takes_append (notes more : List (RunNote τ α)) :
    takes (notes ++ more) = takes notes ++ takes more :=
  List.filterMap_append

@[simp] theorem skips_nil : skips ([] : List (RunNote τ α)) = [] := rfl

@[simp] theorem skips_cons (note : RunNote τ α) (notes : List (RunNote τ α)) :
    skips (note :: notes) = note.skip?.toList ++ skips notes :=
  filterMap_cons_toList _ note notes

@[simp] theorem skips_append (notes more : List (RunNote τ α)) :
    skips (notes ++ more) = skips notes ++ skips more :=
  List.filterMap_append

@[simp] theorem bodyEvents_nil (index : Nat) :
    bodyEvents index ([] : List (RunNote τ α)) = [] := rfl

@[simp] theorem bodyEvents_cons (index : Nat) (note : RunNote τ α) (notes : List (RunNote τ α)) :
    bodyEvents index (note :: notes) = (note.bodyEvent? index).toList ++ bodyEvents index notes :=
  filterMap_cons_toList _ note notes

@[simp] theorem bodyEvents_append (index : Nat) (notes more : List (RunNote τ α)) :
    bodyEvents index (notes ++ more) = bodyEvents index notes ++ bodyEvents index more :=
  List.filterMap_append

theorem called_mem_bodyEvents (notes : List (RunNote τ α)) (worker index : Nat) (task : τ) :
    BodyEvent.called worker task ∈ bodyEvents index notes ↔
      RunNote.bodyCalled worker index task ∈ notes := by
  simp only [bodyEvents, List.mem_filterMap]
  constructor
  · rintro ⟨note, member, told⟩
    cases note <;> simp only [RunNote.bodyEvent?, reduceCtorEq] at told
    all_goals split at told <;> simp_all
  · intro member
    exact ⟨_, member, by simp [RunNote.bodyEvent?]⟩

theorem ended_mem_bodyEvents (notes : List (RunNote τ α)) (worker index : Nat)
    (result : BodyResult α) : BodyEvent.ended worker result ∈ bodyEvents index notes ↔
      RunNote.bodyEnded worker index result ∈ notes := by
  simp only [bodyEvents, List.mem_filterMap]
  constructor
  · rintro ⟨note, member, told⟩
    cases note <;> simp only [RunNote.bodyEvent?, reduceCtorEq] at told
    all_goals split at told <;> simp_all
  · intro member
    exact ⟨_, member, by simp [RunNote.bodyEvent?]⟩

namespace Execution

def advance (execution : Execution τ α) (turn : Turn α) :
    Option (Execution τ α × List (RunNote τ α)) :=
  (execution.step turn.raised turn.now turn.move).map fun stepped =>
    (stepped.execution, stepped.notes)

/-- An execution of the tasks, after some turns, with all that it let others know since it began. -/
def Reaches (tasks : List τ) (config : Config) (execution : Execution τ α)
    (notes : List (RunNote τ α)) : Prop :=
  ∃ now turns more, replay advance (start tasks config now).1 turns = some (execution, more) ∧
    notes = (start (α := α) tasks config now).2 ++ more

end Execution

end GatedRun
