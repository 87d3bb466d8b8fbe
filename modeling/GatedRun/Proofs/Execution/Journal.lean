import GatedRun.Proofs.Execution.Withdrawal
import GatedRun.Proofs.Pool.Completion

/-!
# The journal of an execution

What an execution logs, sorted by who logs it and why. The caller logs where it is: its part of the
journal can be read off its place, the pool's stage and the gate (`callerLog`). A worker logs four
kinds of events: that a job is parked, once it has counted the ready latch down; that a job was let
go at the abandoned gate; that a body has failed, as it ends; and that it exits. So the journal as a
whole is known up to order, and the order is the schedule's (`events_perm`).
-/

namespace GatedRun

variable {τ α : Type}

namespace RunNote

/-- What the note logs. -/
@[simp] def event? : RunNote τ α → Option Event
  | .logged _ event => some event
  | _ => none

@[simp] def callerEvent? : RunNote τ α → Option Event
  | .logged .owner event => some event
  | _ => none

/-- The index of the task whose job is parked. -/
@[simp] def park? : RunNote τ α → Option Nat
  | .logged (.worker _) (.parked index) => some index
  | _ => none

@[simp] def failure? : RunNote τ α → Option (Nat × TaskFailure)
  | .logged (.worker _) (.taskFailed index failure) => some (index, failure)
  | _ => none

@[simp] def exit? : RunNote τ α → Option (Nat × String)
  | .logged (.worker worker) (.workerExiting name) => some (worker, name)
  | _ => none

/-- The index of the task whose body has ended, and how. -/
@[simp] def bodyEnd? : RunNote τ α → Option (Nat × BodyResult α)
  | .bodyEnded _ index result => some (index, result)
  | _ => none

/-- Whether the note logs nothing that the workers of an execution never log. -/
@[simp] def isExpected : RunNote τ α → Bool
  | .logged (.worker _) (.parked _) | .logged (.worker _) (.skipped _)
  | .logged (.worker _) (.taskFailed _ _) | .logged (.worker _) (.workerExiting _) => true
  | .logged (.worker _) _ => false
  | _ => true

end RunNote

/-- All that the notes log, in order. -/
def events (notes : List (RunNote τ α)) : List Event := notes.filterMap RunNote.event?

/-- The journal, sorted. -/
theorem events_perm (notes : List (RunNote τ α))
    (expected : ∀ note ∈ notes, note.isExpected = true) :
    (events notes).Perm (notes.filterMap RunNote.callerEvent? ++
      ((notes.filterMap RunNote.park?).map Event.parked ++
      ((skips notes).map (fun skip => Event.skipped skip.2) ++
      ((notes.filterMap RunNote.failure?).map (fun failed => Event.taskFailed failed.1 failed.2) ++
      (notes.filterMap RunNote.exit?).map (fun exit => Event.workerExiting exit.2))))) := by
  induction notes with
  | nil => exact .nil
  | cons note notes ih =>
    have rest := ih fun other member => expected other (List.mem_cons_of_mem _ member)
    rw [List.perm_iff_count] at rest ⊢
    intro event
    have same := rest event
    have own := expected note List.mem_cons_self
    simp only [List.count_append, events, skips] at same ⊢
    cases note with
    | logged actor logged =>
      cases actor with
      | owner =>
        simp only [List.filterMap_cons, RunNote.event?, RunNote.callerEvent?, RunNote.park?,
          RunNote.skip?, RunNote.failure?, RunNote.exit?, List.count_cons]
        omega
      | worker worker =>
        cases logged with
        | parked | skipped | taskFailed | workerExiting =>
          simp only [List.filterMap_cons, RunNote.event?, RunNote.callerEvent?, RunNote.park?,
            RunNote.skip?, RunNote.failure?, RunNote.exit?, List.map_cons, List.count_cons]
          omega
        | _ => cases own
    | _ => exact same

/-! ### What the steps log -/

def WorkerPhase.isArrivingAt (index : Nat) : WorkerPhase (RunJob τ α) → Bool
  | .running ⟨own, _, .arriving⟩ => own == index
  | _ => false

/-- The pool has all its workers. -/
def PoolStage.hasOpened : PoolStage → Bool
  | .launching | .retreating _ => false
  | _ => true

/-- What the caller logs last, by the way in which the run ends. -/
def CallerPhase.closing (poolSize taskCount pending : Nat) : CallerPhase α → List Event
  | .returned (.ok results) => [.runFinished results.successCount results.failureCount taskCount]
  | .returned (.error (.interrupted .readiness)) => [.runInterrupted .readiness]
  | .returned (.error (.interrupted .completion)) =>
    [.poolDetached poolSize pending, .runInterrupted .completion]
  | _ => []

namespace Execution

variable {execution : Execution τ α} {notes : List (RunNote τ α)} {raised : Bool} {now : Instant}
  {move : RunMove α} {next : Stepped τ α}

theorem Transition.expected (transition : execution.Transition raised now move next) :
    ∀ note ∈ next.notes, note.isExpected = true := by
  rw [← List.all_eq_true]
  cases transition with
  | bodyEnded worker index task since result => cases result <;> rfl
  | withdrawn grant cause => cases cause <;> rfl
  | _ => rfl

/-- What the steps of the workers log of failures are the failures of the bodies that ended. -/
theorem Transition.failures (transition : execution.Transition raised now move next) :
    next.notes.filterMap RunNote.failure? =
      (next.notes.filterMap RunNote.bodyEnd?).filterMap fun ended =>
        (Outcome.capture ended.1 ended.2).failure?.map (ended.1, ·) := by
  cases transition with
  | bodyEnded worker index task since result => cases result <;> rfl
  | withdrawn grant cause => cases cause <;> rfl
  | _ => rfl

/-- A job is parked as soon as it is taken and no longer on its way to the ready latch. -/
def Parked (execution : Execution τ α) (notes : List (RunNote τ α)) : Prop :=
  ∀ index, (notes.filterMap RunNote.park?).count index +
    execution.pool.workers.countP (WorkerPhase.isArrivingAt index) =
      ((takes notes).map Prod.snd).count index

/-- A job is completed as soon as it is taken and no worker has it any more. -/
def Completed (execution : Execution τ α) (notes : List (RunNote τ α)) : Prop :=
  execution.pool.completed + execution.pool.workers.countP WorkerPhase.isEngaged =
    (takes notes).length

theorem Parked.step (queued : execution.Queued (takes notes)) (parked : execution.Parked notes)
    (transition : execution.Transition raised now move next) :
    next.execution.Parked (notes ++ next.notes) := by
  have balanced : Balanced RunNote.park? WorkerPhase.isArrivingAt execution notes := parked
  cases transition with
  | spawned | poolOpened =>
    exact balanced.transfer _ _ rfl rfl fun index => by
      simp [List.countP_append, WorkerPhase.isArrivingAt]
  | took worker job rest at_ queue =>
    obtain ⟨arriving, -⟩ := queued.fresh job (by simp [queue])
    obtain ⟨own, task, phase⟩ := job
    subst arriving
    refine balanced.set _ _ worker _ _ at_ rfl fun index => ?_
    change 0 + (if own == index then 1 else 0) = [own].count index + 0
    rw [List.count_singleton, Nat.zero_add, Nat.add_zero]
  | arrived worker own task at_ =>
    refine balanced.set _ _ worker _ _ at_ rfl fun index => ?_
    change [own].count index + 0 = 0 + (if own == index then 1 else 0)
    rw [List.count_singleton, Nat.zero_add, Nat.add_zero]
  | locked worker at_ | foundNone worker at_ | exited worker at_ | reported worker at_
  | called worker _ _ at_ | skipped worker _ _ at_ | filed worker _ _ _ _ at_
  | countedDone worker _ _ at_ | finished worker _ _ at_ =>
    exact balanced.set _ _ worker _ _ at_ rfl fun _ => rfl
  | bodyEnded worker own task since result at_ =>
    cases result <;> exact balanced.set _ _ worker _ _ at_ rfl fun _ => rfl
  | withdrawn grant cause => cases cause <;> exact balanced.transfer _ _ rfl rfl fun _ => rfl
  | _ => exact balanced.transfer _ _ rfl rfl fun _ => rfl

private theorem Completed.set (after : Execution τ α) (more : List (RunNote τ α)) (worker : Nat)
    (old phase : WorkerPhase (RunJob τ α)) (completed : execution.Completed notes)
    (at_ : execution.pool.workers[worker]? = some old)
    (workers : after.pool.workers = execution.pool.workers.set worker phase)
    (tally : after.pool.completed + (if phase.isEngaged then 1 else 0) =
      execution.pool.completed + (takes more).length + (if old.isEngaged then 1 else 0)) :
    after.Completed (notes ++ more) := by
  have before := completed
  have change := countP_set_add WorkerPhase.isEngaged _ worker old phase at_
  unfold Completed at before ⊢
  rw [takes_append, List.length_append, workers]
  omega

private theorem Completed.transfer (after : Execution τ α) (more : List (RunNote τ α))
    (completed : execution.Completed notes) (none : takes more = [])
    (same : after.pool.completed = execution.pool.completed)
    (workers : after.pool.workers.countP WorkerPhase.isEngaged =
      execution.pool.workers.countP WorkerPhase.isEngaged) : after.Completed (notes ++ more) := by
  rw [Completed, takes_append, none, List.append_nil, same, workers]
  exact completed

theorem Completed.step (completed : execution.Completed notes)
    (transition : execution.Transition raised now move next) :
    next.execution.Completed (notes ++ next.notes) := by
  cases transition with
  | spawned | poolOpened =>
    exact completed.transfer _ _ rfl rfl (by simp [List.countP_append, WorkerPhase.isEngaged])
  | locked worker at_ | took worker _ _ at_ | foundNone worker at_ | exited worker at_
  | reported worker at_ | arrived worker _ _ at_ | called worker _ _ at_ | skipped worker _ _ at_
  | filed worker _ _ _ _ at_ | countedDone worker _ _ at_ | finished worker _ _ at_ =>
    exact completed.set _ _ worker _ _ at_ rfl rfl
  | bodyEnded worker own task since result at_ =>
    cases result <;> exact completed.set _ _ worker _ _ at_ rfl rfl
  | withdrawn grant cause => cases cause <;> exact completed.transfer _ _ rfl rfl rfl
  | _ => exact completed.transfer _ _ rfl rfl rfl

/-- Nobody is let go at a gate that was not abandoned. -/
theorem Transition.unskipped (transition : execution.Transition raised now move next)
    (going : next.execution.gate.state ≠ .abandoned) : skips next.notes = [] := by
  cases transition with
  | skipped worker index task at_ awake gate => exact absurd gate going
  | bodyEnded worker index task since result => cases result <;> rfl
  | withdrawn grant cause => cases cause <;> rfl
  | _ => rfl

/-! ### The workers that have left -/

/-- Each worker that has exited has logged it, once and by its name. -/
structure Departed (execution : Execution τ α) (notes : List (RunNote τ α)) : Prop where
  nodup : (notes.filterMap RunNote.exit?).Nodup
  named : ∀ worker name, (worker, name) ∈ notes.filterMap RunNote.exit? ↔
    execution.pool.workers[worker]? = some .exited ∧ name = execution.config.workerName worker

private theorem Departed.transfer (after : Execution τ α) (more : List (RunNote τ α))
    (departed : execution.Departed notes) (silent : more.filterMap RunNote.exit? = [])
    (fixed : Fixed execution after) (workers : ∀ worker : Nat,
      after.pool.workers[worker]? = some .exited ↔
        execution.pool.workers[worker]? = some .exited) : after.Departed (notes ++ more) := by
  refine ⟨?_, ?_⟩
  · rw [List.filterMap_append, silent, List.append_nil]
    exact departed.nodup
  · intro worker name
    rw [List.filterMap_append, silent, List.append_nil, departed.named, workers, fixed.config]

/-- A worker that goes on had not left, and has not left afterwards. -/
private theorem exited_set (worker : Nat) (old phase : WorkerPhase (RunJob τ α))
    (at_ : execution.pool.workers[worker]? = some old) (before : old ≠ .exited)
    (after : phase ≠ .exited) (other : Nat) :
    (execution.pool.workers.set worker phase)[other]? = some .exited ↔
      execution.pool.workers[other]? = some .exited := by
  by_cases same : worker = other
  · subst same
    rw [List.getElem?_set_self (List.getElem?_eq_some_iff.mp at_).1, at_]
    simp [before, after]
  · rw [List.getElem?_set_ne same]

theorem Departed.step (staged : execution.Staged) (departed : execution.Departed notes)
    (transition : execution.Transition raised now move next) :
    next.execution.Departed (notes ++ next.notes) := by
  have fixed := transition.fixed
  cases transition with
  | spawned at_ | poolOpened at_ =>
    refine departed.transfer _ _ rfl fixed fun worker => ?_
    rw [List.getElem?_append]
    split
    · rfl
    next above =>
      rw [List.getElem?_eq_none (Nat.not_lt.mp above)]
      cases worker - execution.pool.workers.length <;> simp
  | exited worker at_ =>
    have below := (List.getElem?_eq_some_iff.mp at_).1
    have fresh : (worker, execution.pool.config.workerName worker) ∉
        notes.filterMap RunNote.exit? := by
      rw [departed.named, at_]
      simp
    refine ⟨?_, ?_⟩
    · rw [List.filterMap_append]
      exact List.nodup_append.mpr ⟨departed.nodup, List.nodup_singleton _, by
        rintro exit member _ own rfl
        exact fresh (List.mem_singleton.mp own ▸ member)⟩
    · intro other named
      rw [List.filterMap_append, List.mem_append, departed.named]
      change _ ∨ (other, named) ∈ [(worker, execution.pool.config.workerName worker)] ↔
        (execution.pool.workers.set worker .exited)[other]? = _ ∧
          named = execution.config.workerName other
      by_cases same : worker = other
      · subst same
        rw [List.getElem?_set_self below, staged.named]
        simp [at_]
      · rw [List.getElem?_set_ne same]
        simp [Ne.symm same]
  | locked worker at_ | took worker _ _ at_ | foundNone worker at_
  | reported worker at_ | arrived worker _ _ at_ | called worker _ _ at_ | skipped worker _ _ at_
  | filed worker _ _ _ _ at_ | countedDone worker _ _ at_ | finished worker _ _ at_ =>
    exact departed.transfer _ _ rfl fixed (exited_set worker _ _ at_ nofun nofun)
  | bodyEnded worker own task since result at_ =>
    cases result <;>
      exact departed.transfer _ _ rfl fixed (exited_set worker _ _ at_ nofun nofun)
  | withdrawn grant cause => cases cause <;> exact departed.transfer _ _ rfl fixed fun _ => .rfl
  | _ => exact departed.transfer _ _ rfl fixed fun _ => .rfl

/-! ### The caller -/

/-- What the caller has logged by now. How many jobs were pending when it let the pool go depends on
that moment, and on nothing that is seen later. -/
def callerLog (execution : Execution τ α) (pending : Nat) : List Event :=
  [.runStarting execution.taskCount execution.poolSize] ++
    ((if execution.pool.stage.hasOpened then
        [.poolStarted execution.poolSize execution.config.threadNamePrefix] else []) ++
      ((if execution.gate.state = .opened then [.gateOpened execution.poolSize] else []) ++
        execution.caller.closing execution.poolSize execution.taskCount pending))

def Chronicled (execution : Execution τ α) (notes : List (RunNote τ α)) : Prop :=
  ∃ pending, pending ≤ execution.taskCount ∧
    notes.filterMap RunNote.callerEvent? = execution.callerLog pending

private theorem Chronicled.transfer (after : Execution τ α) (more : List (RunNote τ α))
    (chronicled : execution.Chronicled notes)
    (silent : more.filterMap RunNote.callerEvent? = []) (fixed : Fixed execution after)
    (stage : after.pool.stage.hasOpened = execution.pool.stage.hasOpened)
    (gate : after.gate.state = .opened ↔ execution.gate.state = .opened)
    (closing : ∀ poolSize taskCount pending, after.caller.closing poolSize taskCount pending =
      execution.caller.closing poolSize taskCount pending) : after.Chronicled (notes ++ more) := by
  obtain ⟨pending, few, logged⟩ := chronicled
  refine ⟨pending, fixed.taskCount ▸ few, ?_⟩
  rw [List.filterMap_append, silent, List.append_nil, logged]
  simp only [callerLog, fixed.taskCount, fixed.poolSize, fixed.config, stage, gate, closing]

/-- Once no worker has a job, all jobs that were taken are completed. -/
theorem Completed.of_quiet (completed : execution.Completed notes)
    (quiet : execution.pool.isQuiet = true) : execution.pool.completed = (takes notes).length := by
  have idle := Pool.countP_of_quiet quiet WorkerPhase.isEngaged fun phase engaged => by
    cases phase with
    | exited | dead => cases engaged
    | _ => rfl
  have all := completed
  rw [Completed, idle] at all
  exact all

/-- When all workers are joined, each task's job is counted as completed, though the done latch was
open before that. -/
theorem Completed.of_gathering (completed : execution.Completed notes)
    (sound : execution.Sound notes) (at_ : execution.caller = .gathering)
    (stage : execution.pool.stage = .closed)
    (joined : execution.pool.joined = execution.pool.workers.length) :
    execution.pool.completed = execution.taskCount := by
  have quiet := sound.staged.quiet_of_joined joined
  have manned := sound.staged.manned
  simp only [stage, Manned] at manned
  have empty := sound.crewed.queue_empty quiet (manned ▸ sound.staged.positive)
  exact (completed.of_quiet quiet).trans
    (sound.queued.all_taken (sound.staged.placedAt at_).submitted empty)

/-- Nobody is joined while the pool accepts jobs. -/
theorem Sound.size_of_accepting (sound : execution.Sound notes)
    (stage : execution.pool.stage = .accepting) : execution.pool.size = execution.poolSize := by
  have manned := sound.staged.manned
  simp only [stage, Manned] at manned
  have none : execution.pool.joined = 0 := by
    apply Nat.eq_zero_of_not_pos
    intro some
    have exited := sound.staged.joined 0 some
    exact absurd stage (sound.crewed 0 _ exited).2.2
  rw [Pool.size, stage, none, manned]
  rfl

theorem Chronicled.step (sound : execution.Sound notes) (completed : execution.Completed notes)
    (chronicled : execution.Chronicled notes)
    (transition : execution.Transition raised now move next) :
    next.execution.Chronicled (notes ++ next.notes) := by
  have fixed := transition.fixed
  obtain ⟨pending, few, logged⟩ := id chronicled
  cases transition with
  | poolOpened at_ stage last =>
    have gate := (sound.staged.placedAt at_).gate
    refine ⟨pending, few, ?_⟩
    rw [List.filterMap_append, logged, sound.staged.width, sound.staged.named]
    simp [callerLog, stage, gate, at_, PoolStage.hasOpened, CallerPhase.closing, CallerPhase.gate,
      taskCount, poolSize]
  | openedGate grant at_ =>
    have gate := (sound.staged.placedAt at_).gate
    refine ⟨pending, few, ?_⟩
    rw [List.filterMap_append, logged]
    simp [callerLog, gate, at_, CallerPhase.closing, CallerPhase.gate, taskCount, poolSize]
  | withdrawn grant cause at_ stage joined =>
    have placed := sound.staged.placedAt at_
    have gate := placed.gate
    obtain rfl : cause = .interrupted .readiness := placed.foreseen
    refine ⟨pending, few, ?_⟩
    rw [List.filterMap_append, logged]
    simp [callerLog, at_, stage, gate, PoolStage.hasOpened, CallerPhase.closing, CallerPhase.gate,
      failureNotes, toCaller, taskCount, poolSize]
  | detached grant at_ =>
    have placed := sound.staged.placedAt at_
    have stage : execution.pool.stage = .accepting := by
      simpa [CallerPhase.Admits] using placed.stage
    have left : execution.pool.stats.pending ≤ execution.taskCount := by
      rw [← placed.submitted.1]
      exact Nat.le_trans (Nat.sub_le _ _) (Nat.sub_le _ _)
    refine ⟨execution.pool.stats.pending, left, ?_⟩
    rw [List.filterMap_append, logged, sound.size_of_accepting stage]
    simp [callerLog, at_, stage, PoolStage.hasOpened, CallerPhase.closing, taskCount, poolSize]
  | handedOver grant at_ stage joined =>
    have all := completed.of_gathering sound at_ stage joined
    refine ⟨pending, few, ?_⟩
    rw [List.filterMap_append, logged]
    simp [callerLog, at_, stage, all, CallerPhase.closing, handOver, taskCount, poolSize]
  | refused fault at_ stage | closed grant at_ stage =>
    exact chronicled.transfer _ _ rfl fixed (by rw [stage]; rfl) .rfl fun _ _ _ => rfl
  | abandonedGate grant cause at_ =>
    have gate := (sound.staged.placedAt at_).gate
    exact chronicled.transfer _ _ rfl fixed rfl (by simp [gate, CallerPhase.gate]) fun _ _ _ => by
      rw [at_]; rfl
  | retreated grant fault at_ | launched grant at_ | sent grant _ _ at_ | allSubmitted grant _ at_
  | sawReady grant at_ | cutReadiness grant at_ | sawDone grant at_
  | cutCompletion grant at_ =>
    exact chronicled.transfer _ _ rfl fixed rfl .rfl fun _ _ _ => by rw [at_]; rfl
  | bodyEnded worker index task since result =>
    cases result <;> exact chronicled.transfer _ _ rfl fixed rfl .rfl fun _ _ _ => rfl
  | _ => exact chronicled.transfer _ _ rfl fixed rfl .rfl fun _ _ _ => rfl

/-! ### The last event -/

/-- If the caller logs one event as it returns, nothing is logged after it. -/
def Final (execution : Execution τ α) (notes : List (RunNote τ α)) : Prop :=
  ∀ pending event,
    execution.caller.closing execution.poolSize execution.taskCount pending = [event] →
    (events notes).getLast? = some event

theorem Transition.caller_of_returned (transition : execution.Transition raised now move next)
    (returned : execution.result?.isSome = true) :
    next.execution.caller = execution.caller := by
  cases transition with
  | retreated grant fault at_ | launched grant at_ | sent grant _ _ at_ | allSubmitted grant _ at_
  | sawReady grant at_ | cutReadiness grant at_ | openedGate grant at_ | sawDone grant at_
  | cutCompletion grant at_ | abandonedGate grant _ at_ | withdrawn grant _ at_
  | detached grant at_ | handedOver grant at_ =>
    rw [result?, at_] at returned
    cases returned
  | _ => rfl

/-- A run that has returned says nothing more once all its workers are over. -/
theorem Transition.notes_of_quiet (transition : execution.Transition raised now move next)
    (returned : execution.result?.isSome = true) (quiet : execution.pool.isQuiet = true) :
    next.notes = [] := by
  have gone (worker : Nat) (phase : WorkerPhase (RunJob τ α))
      (held : execution.pool.workers[worker]? = some phase) : phase.isOver = true :=
    List.all_eq_true.mp quiet phase (List.mem_of_getElem? held)
  cases transition with
  | poolOpened at_ | counted grant _ _ at_ | openedGate grant at_ | withdrawn grant _ at_
  | detached grant at_ | handedOver grant at_ =>
    rw [result?, at_] at returned
    cases returned
  | took worker _ _ at_ | exited worker at_ | arrived worker _ _ at_ | called worker _ _ at_
  | skipped worker _ _ at_ | bodyEnded worker _ _ _ _ at_ | finished worker _ _ at_ =>
    cases gone worker _ at_
  | _ => rfl

theorem Final.step (sound : execution.Sound notes) (completed : execution.Completed notes)
    (final : execution.Final notes)
    (transition : execution.Transition raised now move next) :
    next.execution.Final (notes ++ next.notes) := by
  intro pending event said
  have fixed := transition.fixed
  rw [fixed.poolSize, fixed.taskCount] at said
  cases returned : execution.result? with
  | some result =>
    have caller := (result?_eq_some_iff result).mp returned
    have known : execution.result?.isSome = true := by simp [returned]
    rw [transition.caller_of_returned known] at said
    have joined : (CallerPhase.returned result).hasJoined = true := by
      rw [caller] at said
      cases result with
      | ok results => rfl
      | error cause =>
        cases cause with
        | interrupted phase => cases phase <;> first | rfl | cases said
        | _ => cases said
    have quiet := sound.staged.quiet_of_joined ((sound.staged.placedAt caller).joined joined)
    rw [transition.notes_of_quiet known quiet, List.append_nil]
    exact final pending event said
  | none =>
    -- What is said at all is said as the run returns.
    have silent : execution.caller.closing execution.poolSize execution.taskCount pending = [] := by
      cases caller : execution.caller with
      | returned result => simp [result?, caller] at returned
      | _ => rfl
    cases transition with
    | withdrawn grant cause at_ =>
      obtain rfl : cause = .interrupted .readiness := (sound.staged.placedAt at_).foreseen
      cases said
      simp [events, failureNotes, toCaller]
    | handedOver grant at_ stage joined =>
      have all := completed.of_gathering sound at_ stage joined
      cases said
      simp [events, handOver, results, all]
    | retreated | launched | sent | allSubmitted | sawReady | cutReadiness | openedGate | sawDone
    | cutCompletion | abandonedGate | detached => cases said
    | _ => cases silent.symm.trans said

/-! ### The whole journal -/

/-- What an execution has logged agrees with where everybody is. -/
structure Journal (execution : Execution τ α) (notes : List (RunNote τ α)) : Prop where
  expected : ∀ note ∈ notes, note.isExpected = true
  failures : notes.filterMap RunNote.failure? =
    (notes.filterMap RunNote.bodyEnd?).filterMap fun ended =>
      (Outcome.capture ended.1 ended.2).failure?.map (ended.1, ·)
  unskipped : execution.gate.state ≠ .abandoned → skips notes = []
  parked : execution.Parked notes
  completed : execution.Completed notes
  departed : execution.Departed notes
  chronicled : execution.Chronicled notes
  final : execution.Final notes

theorem Journal.step (journal : execution.Journal notes) (sound : execution.Sound notes)
    (transition : execution.Transition raised now move next) :
    next.execution.Journal (notes ++ next.notes) where
  expected := by
    intro note member
    rcases List.mem_append.mp member with member | member
    · exact journal.expected note member
    · exact transition.expected note member
  failures := by
    rw [List.filterMap_append, journal.failures, transition.failures, List.filterMap_append,
      List.filterMap_append]
  unskipped := by
    intro going
    have before : execution.gate.state ≠ .abandoned := by
      intro abandoned
      have settled := sound.staged.gate_settled transition (by simp [abandoned])
      exact going (settled.trans abandoned)
    rw [skips_append, journal.unskipped before, transition.unskipped going]
    rfl
  parked := journal.parked.step sound.queued transition
  completed := journal.completed.step transition
  departed := journal.departed.step sound.staged transition
  chronicled := journal.chronicled.step sound journal.completed transition
  final := journal.final.step sound journal.completed transition

theorem start_journal (runner : Runner τ) (sound : runner.IsSound) (now : Instant) :
    (start (α := α) runner.tasks runner.config now).1.Journal
      (start runner.tasks runner.config now).2 := by
  rw [start_eq runner sound now]
  exact {
    expected := by simp
    failures := rfl
    unskipped := fun _ => rfl
    parked := fun _ => rfl
    completed := rfl
    departed := ⟨List.nodup_nil, fun worker name => by
      simp [unstarted, Pool.unstarted]⟩
    chronicled := ⟨0, Nat.zero_le _, rfl⟩
    final := fun _ _ said => by cases said }

theorem SoundFor.journal_replay {runner : Runner τ} (sound : SoundFor runner execution notes)
    (journal : execution.Journal notes) (turns : List (Turn α)) (last : Execution τ α)
    (more : List (RunNote τ α))
    (ran : GatedRun.replay advance execution turns = some (last, more)) :
    last.Journal (notes ++ more) :=
  sound.replay_keeps Journal
    (fun _ _ _ _ _ _ sound journal transition => journal.step sound.toSound transition) journal
    turns last more ran

end Execution

end GatedRun
