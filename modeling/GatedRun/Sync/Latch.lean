import GatedRun.Text.Inspection

/-!
# Latches and interrupts

A latch counts down to zero, where it opens for good and wakes every thread that sleeps at it. Each
operation below is one critical section of the latch's lock. A thread that waits visits the latch,
and at a closed latch it falls asleep in the same step; whatever wakes it, it visits again.

An interrupt is a flag. A thread that can be interrupted takes the flag down and then looks at the
count, and it holds the lock over both: a raise that comes before the count reaches zero is seen
before the zero is.
-/

namespace GatedRun.Sync

open Text (Inspection)

/-- A count on its way to zero, and the threads asleep until it gets there. -/
structure Latch (θ : Type) where
  count : Nat
  asleep : List θ := []
  deriving DecidableEq, Repr

/-- How an interruptible wait ends. -/
inductive WaitEnd where
  | opened
  | interrupted
  deriving DecidableEq, Repr

def WaitEnd.interruptedMessage : String := "wait interrupted"

namespace Latch

variable {θ : Type} [DecidableEq θ]

def new (count : Nat) : Latch θ := { count }

def isOpen (latch : Latch θ) : Bool := latch.count == 0

/-- Takes one off the count; reaching zero wakes all sleepers, at zero nothing happens. -/
def countDown (latch : Latch θ) : Latch θ :=
  match latch.count with
  | 0 => latch
  | 1 => { count := 0 }
  | n + 2 => { latch with count := n + 1 }

omit [DecidableEq θ] in
theorem count_countDown (latch : Latch θ) : latch.countDown.count = latch.count - 1 := by
  unfold countDown
  split
  next zero => rw [zero]
  next one => rw [one]
  next n more => rw [more]; rfl

def countDownTimes (latch : Latch θ) : Nat → Latch θ
  | 0 => latch
  | n + 1 => countDownTimes latch.countDown n

def visit (latch : Latch θ) (thread : θ) : Bool × Latch θ :=
  if latch.isOpen then (true, latch)
  else (false, { latch with asleep := thread :: latch.asleep })

/-- What a look at flag and count tells: a raised flag first, then an open latch. -/
def poll (latch : Latch θ) (raised : Bool) : Option WaitEnd :=
  if raised then some .interrupted
  else if latch.isOpen then some .opened
  else none

def wake (latch : Latch θ) (thread : θ) : Latch θ :=
  { latch with asleep := latch.asleep.filter (· ≠ thread) }

def isAsleep (latch : Latch θ) (thread : θ) : Bool := latch.asleep.contains thread

omit [DecidableEq θ] in
def inspect (latch : Latch θ) : Inspection :=
  .record "CountDownLatch" [.labelled "count" (.number latch.count)] false

end Latch

def inspectInterrupt (raised : Bool) : Inspection :=
  .record "Interrupt" [.labelled "raised" (.flag raised)] false

end GatedRun.Sync
