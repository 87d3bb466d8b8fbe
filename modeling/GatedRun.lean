import GatedRun.Concurrently
import GatedRun.Config
import GatedRun.Event
import GatedRun.Execution.Basic
import GatedRun.Execution.Step
import GatedRun.Failure
import GatedRun.Number.Binary64
import GatedRun.Number.Literal
import GatedRun.Number.Shortest
import GatedRun.Outcome
import GatedRun.Pool.Basic
import GatedRun.Pool.Step
import GatedRun.Proofs.Concurrently
import GatedRun.Proofs.Config
import GatedRun.Proofs.Execution.Answer
import GatedRun.Proofs.Execution.Barrier
import GatedRun.Proofs.Execution.Completion
import GatedRun.Proofs.Execution.Counting
import GatedRun.Proofs.Execution.Effort
import GatedRun.Proofs.Execution.Handles
import GatedRun.Proofs.Execution.InFlight
import GatedRun.Proofs.Execution.Invariant
import GatedRun.Proofs.Execution.Journal
import GatedRun.Proofs.Execution.Ledger
import GatedRun.Proofs.Execution.Log
import GatedRun.Proofs.Execution.Nesting
import GatedRun.Proofs.Execution.Progress
import GatedRun.Proofs.Execution.Recording
import GatedRun.Proofs.Execution.Sleepers
import GatedRun.Proofs.Execution.Slots
import GatedRun.Proofs.Execution.Sound
import GatedRun.Proofs.Execution.Staging
import GatedRun.Proofs.Execution.Transition
import GatedRun.Proofs.Execution.Withdrawal
import GatedRun.Proofs.Failure
import GatedRun.Proofs.Lists
import GatedRun.Proofs.Measurement
import GatedRun.Proofs.Pool.Admission
import GatedRun.Proofs.Pool.Completion
import GatedRun.Proofs.Pool.Conservation
import GatedRun.Proofs.Pool.Construction
import GatedRun.Proofs.Pool.Invariant
import GatedRun.Proofs.Pool.Ledger
import GatedRun.Proofs.Pool.Log
import GatedRun.Proofs.Pool.Rejection
import GatedRun.Proofs.Pool.Snapshot
import GatedRun.Proofs.Pool.Transition
import GatedRun.Proofs.Replay
import GatedRun.Proofs.ResultSet.Consumption
import GatedRun.Proofs.ResultSet.Stepping
import GatedRun.Proofs.Runner
import GatedRun.Proofs.Runner.Chain
import GatedRun.Proofs.Session.Calls
import GatedRun.Proofs.Session.Delivery
import GatedRun.Proofs.Session.Flag
import GatedRun.Proofs.Session.Handles
import GatedRun.Proofs.Session.Interruption
import GatedRun.Proofs.Session.Isolation
import GatedRun.Proofs.Session.Single
import GatedRun.Proofs.SpreadSummary
import GatedRun.Proofs.Stats
import GatedRun.Proofs.Sync.Agreement
import GatedRun.Proofs.Sync.Countdown
import GatedRun.Proofs.Sync.Flags
import GatedRun.Proofs.Sync.Interrupt
import GatedRun.Proofs.Sync.Looks
import GatedRun.Proofs.Sync.Transition
import GatedRun.Proofs.Sync.Waiters
import GatedRun.Proofs.Workshop.Handles
import GatedRun.Proofs.Workshop.Interrupts
import GatedRun.Proofs.Workshop.Raises
import GatedRun.Proofs.Workshop.Sessions
import GatedRun.Proofs.Workshop.Sharing
import GatedRun.ResultSet
import GatedRun.ResultSet.Items
import GatedRun.ResultSet.Lazy
import GatedRun.RunError
import GatedRun.Runner
import GatedRun.Scenario.Action
import GatedRun.Scenario.Basic
import GatedRun.Scenario.Command
import GatedRun.Scenario.Schedule
import GatedRun.Scenario.Step
import GatedRun.Session
import GatedRun.SpreadSummary
import GatedRun.Stats
import GatedRun.Sync.Gate
import GatedRun.Sync.Latch
import GatedRun.Sync.Room
import GatedRun.Text.Inspection
import GatedRun.Text.Quoted
import GatedRun.Value
import GatedRun.Value.Reader
import GatedRun.Workshop
