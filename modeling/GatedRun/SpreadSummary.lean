/-!
# Summary of start spreads

The least, the middle and the greatest of a series of spreads. The middle one is the element at half
the length of the sorted series, the upper of two.
-/

namespace GatedRun

/-- The figures of a series of spreads. -/
structure SpreadSummary where
  samples : Nat
  min : Nat
  median : Nat
  max : Nat
  deriving DecidableEq, Repr

namespace SpreadSummary

def sorted (spreads : List Nat) : List Nat :=
  spreads.mergeSort (fun a b => decide (a ≤ b))

/-- The summary of a series, if it holds anything. -/
def ofSpreads (spreads : List Nat) : Option SpreadSummary :=
  match sorted spreads with
  | [] => none
  | least :: rest => some {
      samples := spreads.length
      min := least
      median := (least :: rest).getD (spreads.length / 2) least
      max := (least :: rest).getLast (by simp) }

def isOrdered (summary : SpreadSummary) : Bool :=
  summary.min ≤ summary.median && summary.median ≤ summary.max

end SpreadSummary

end GatedRun
