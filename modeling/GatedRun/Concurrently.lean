import GatedRun.ResultSet
import GatedRun.SpreadSummary

/-!
# Runs in one go

Ready-made uses of a runner, for anyone who can prepare one and execute it: `runConcurrently` runs
once and raises whatever went wrong, and `measureStartSpread` runs repeatedly and sums up how close
together the tasks started.
-/

namespace GatedRun

def escalate (error : RunError) : Payload :=
  .string ("concurrent run failed: " ++ error.message)

/-- What `runConcurrently` makes of how a run ended: the error of the run, or its first failure, is
raised. -/
def settleRun {α : Type} : Except RunError (ResultSet α) → Except Payload Unit
  | .error error => .error (escalate error)
  | .ok results => results.requireSuccess

variable {m : Type → Type} [Monad m] {ρ α : Type}

def runConcurrently (prepare : m (Except RunError ρ))
    (execute : ρ → m (Except RunError (ResultSet α))) : m (Except Payload Unit) := do
  match ← prepare with
  | .error error => return .error (escalate error)
  | .ok runner => return settleRun (← execute runner)

/-- The spreads of that many runs, the first run that fails ending the series. There is room for all
of them; counts for which no memory could be had are left out. -/
def startSpreads (execute : m (Except RunError (ResultSet α))) :
    Nat → m (Except RunError (List Nat))
  | 0 => return .ok []
  | runs + 1 => do
    match ← execute with
    | .error error => return .error error
    | .ok results =>
      return (← startSpreads execute runs).map (results.stats.startSpread :: ·)

/-- Prepares a runner, runs it that many times, and sums up the spreads. -/
def measureStartSpread (prepare : m (Except RunError ρ))
    (execute : ρ → m (Except RunError (ResultSet α))) (runs : Nat) :
    m (Except RunError (Option SpreadSummary)) := do
  match ← prepare with
  | .error error => return .error error
  | .ok runner => return (← startSpreads (execute runner) runs).map SpreadSummary.ofSpreads

def minSamples : Nat := 10

end GatedRun
