import GatedRun.Proofs.Pool.Transition
import GatedRun.Proofs.Replay

/-!
# The ledger of a pool

The notes of a pool, read as a ledger: the jobs that it accepted, in the order in which they were
sent; the jobs that were lost with the queue; and the stints of its workers, that is, which worker
took which job and how the job ended. A job may change while it runs, so a stint keeps it as it was
taken, and an ending belongs to the stint that its worker has open.
-/

namespace GatedRun

variable {J : Type}

/-! ### Accepted, lost, and ended jobs -/

namespace PoolNote

@[simp] def accepted? : PoolNote J → Option J
  | .accepted _ job => some job
  | _ => none

@[simp] def lost : PoolNote J → List J
  | .discarded jobs => jobs
  | _ => []

@[simp] def ending? : PoolNote J → Option JobEnding
  | .ended _ _ ending => some ending
  | _ => none

end PoolNote

/-- The jobs that a pool accepted, in the order in which they came to its queue. -/
def accepts (notes : List (PoolNote J)) : List J := notes.filterMap PoolNote.accepted?

/-- The jobs that were in the queue when it went with its last receiver. -/
def losses (notes : List (PoolNote J)) : List J := notes.flatMap PoolNote.lost

def endings (notes : List (PoolNote J)) : List JobEnding := notes.filterMap PoolNote.ending?

@[simp] theorem accepts_nil : accepts ([] : List (PoolNote J)) = [] := rfl

@[simp] theorem accepts_cons (note : PoolNote J) (notes : List (PoolNote J)) :
    accepts (note :: notes) = note.accepted?.toList ++ accepts notes :=
  filterMap_cons_toList _ note notes

@[simp] theorem accepts_append (notes more : List (PoolNote J)) :
    accepts (notes ++ more) = accepts notes ++ accepts more :=
  List.filterMap_append

@[simp] theorem losses_nil : losses ([] : List (PoolNote J)) = [] := rfl

@[simp] theorem losses_cons (note : PoolNote J) (notes : List (PoolNote J)) :
    losses (note :: notes) = note.lost ++ losses notes := rfl

@[simp] theorem losses_append (notes more : List (PoolNote J)) :
    losses (notes ++ more) = losses notes ++ losses more :=
  List.flatMap_append

@[simp] theorem endings_nil : endings ([] : List (PoolNote J)) = [] := rfl

@[simp] theorem endings_cons (note : PoolNote J) (notes : List (PoolNote J)) :
    endings (note :: notes) = note.ending?.toList ++ endings notes :=
  filterMap_cons_toList _ note notes

@[simp] theorem endings_append (notes more : List (PoolNote J)) :
    endings (notes ++ more) = endings notes ++ endings more :=
  List.filterMap_append

/-! ### Stints -/

/-- A worker's work on one job, and how it ended. -/
structure Stint (J : Type) where
  worker : Nat
  /-- The job as the worker took it. -/
  job : J
  ending : Option JobEnding := none
  deriving DecidableEq, Repr

namespace Stint

def isOpenFor (worker : Nat) (stint : Stint J) : Bool :=
  stint.worker == worker && stint.ending.isNone

def endedAs (test : JobEnding → Bool) (stint : Stint J) : Bool := stint.ending.any test

/-- The stint after its worker's job has ended, if it is the one that the worker has open. -/
def close (worker : Nat) (ending : JobEnding) (stint : Stint J) : Stint J :=
  if stint.isOpenFor worker then { stint with ending := some ending } else stint

variable (worker other : Nat) (ending : JobEnding) (stints : List (Stint J))

theorem map_job_close : (stints.map (close worker ending)).map job = stints.map job := by
  rw [List.map_map]
  apply List.map_congr_left
  intro stint _
  simp only [Function.comp, close]
  split <;> rfl

theorem eq_of_isOpenFor (stint : Stint J) (mine : stint.isOpenFor worker = true) :
    stint = ⟨worker, stint.job, none⟩ := by
  obtain ⟨own, job, ended⟩ := stint
  simpa [isOpenFor] using mine

theorem countP_isOpenFor_close : (stints.map (close worker ending)).countP (isOpenFor other) =
    if other = worker then 0 else stints.countP (isOpenFor other) := by
  induction stints with
  | nil => simp
  | cons stint rest ih =>
    rw [List.map_cons, List.countP_cons, List.countP_cons, ih]
    by_cases mine : stint.isOpenFor worker = true
    · rw [eq_of_isOpenFor worker stint mine]
      by_cases same : other = worker
      · simp [close, isOpenFor, same]
      · simp [close, isOpenFor, same, Ne.symm same]
    · by_cases same : other = worker
      · simp [close, mine, same]
      · simp [close, mine, same]

/-- Each stint that is closed adds one to those with its ending. -/
theorem countP_endedAs_close (test : JobEnding → Bool) :
    (stints.map (close worker ending)).countP (endedAs test) =
      stints.countP (endedAs test) +
        if test ending then stints.countP (isOpenFor worker) else 0 := by
  induction stints with
  | nil => simp
  | cons stint rest ih =>
    rw [List.map_cons, List.countP_cons, List.countP_cons, List.countP_cons, ih]
    by_cases mine : stint.isOpenFor worker = true
    · rw [eq_of_isOpenFor worker stint mine]
      by_cases passes : test ending = true
      · simp [close, isOpenFor, endedAs, passes, Nat.add_assoc]
      · simp [close, isOpenFor, endedAs, passes]
    · by_cases passes : test ending = true
      · simp only [close, mine, passes]
        simp [Nat.add_right_comm]
      · simp [close, mine, passes]

end Stint

/-- The stints after one more note. -/
@[simp] def recordStint (stints : List (Stint J)) : PoolNote J → List (Stint J)
  | .taken worker job => stints ++ [{ worker, job }]
  | .ended worker _ ending => stints.map (Stint.close worker ending)
  | _ => stints

/-- The stints of all workers, in the order in which they were begun. -/
def stints (notes : List (PoolNote J)) : List (Stint J) := notes.foldl recordStint []

@[simp] theorem stints_append (notes more : List (PoolNote J)) :
    stints (notes ++ more) = more.foldl recordStint (stints notes) :=
  List.foldl_append

end GatedRun
