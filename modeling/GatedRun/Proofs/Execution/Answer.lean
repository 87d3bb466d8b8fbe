import GatedRun.Proofs.Execution.Progress
import GatedRun.Proofs.Execution.Withdrawal

/-!
# How a run answers an interrupt

Only the look of a waiting caller that finds the flag up takes it down, and that look decides what
the caller returns: no other step decides on an interrupt, and none changes the decision. A caller
that has not seen its workers ready yet finds the flag up in the wait that is still before it
(`Bound`); and whoever is bound to return an interrupt gets there by the steps of its own caller and
workers, with no body to wait for.
-/

namespace GatedRun

variable {τ α : Type}

namespace CallerPhase

/-- Whether the caller waits at a latch, and looks at the flag when it goes on. -/
def waits : CallerPhase α → Bool
  | .awaitingReady | .awaitingDone => true
  | _ => false

/-- Whether the caller is still to see that its workers are ready. -/
def precedesStart : CallerPhase α → Bool
  | .launching | .submitting _ | .awaitingReady => true
  | _ => false

/-- Whether the caller has decided to return an interrupt. -/
def isCut (caller : CallerPhase α) : Bool := caller.failure?.any RunError.isInterrupted

end CallerPhase

namespace Execution

variable {execution : Execution τ α} {notes : List (RunNote τ α)} {raised : Bool}
  {now : Instant} {move : RunMove α} {next : Stepped τ α}

/-- Whether an interrupt is what the call has returned. -/
def isInterrupted (execution : Execution τ α) : Bool :=
  match execution.result? with
  | some (.error error) => error.isInterrupted
  | _ => false

/-- Whether the move is the look of a waiting caller that finds the flag up. -/
def consumes (execution : Execution τ α) (raised : Bool) : RunMove α → Bool
  | .call _ => raised && execution.caller.waits
  | _ => false

/-! ### Looks at the flag -/

/-- A caller that ends its pool is past its waits. -/
theorem past_of_drains (caller : CallerPhase α) (drains : caller.drains = true) :
    caller.waits = false ∧ caller.precedesStart = false := by
  cases caller with
  | withdrawing | gathering => exact ⟨rfl, rfl⟩
  | _ => cases drains

/-- A look that finds the flag up takes it down and decides on an interrupt; no other step changes
the flag or that decision. -/
theorem Transition.flag_cases (transition : execution.Transition raised now move next) :
    (execution.consumes raised move = true ∧ next.raised = false ∧
      next.execution.caller.isCut = true) ∨
    (execution.consumes raised move = false ∧ next.raised = raised ∧
      next.execution.caller.isCut = execution.caller.isCut) := by
  cases transition with
  | cutReadiness grant at_ up | cutCompletion grant at_ up =>
    exact .inl ⟨by simp [consumes, at_, CallerPhase.waits, up], rfl, rfl⟩
  | sawReady grant at_ lowered | sawDone grant at_ lowered =>
    refine .inr ⟨by simp [consumes, lowered], lowered.symm, ?_⟩
    rw [at_]
    rfl
  | closed grant drains =>
    exact .inr ⟨by simp [consumes, (past_of_drains _ drains).1], rfl, rfl⟩
  | joined grant at_ =>
    refine .inr ⟨?_, rfl, rfl⟩
    rcases at_ with at_ | drains
    · simp [consumes, at_, CallerPhase.waits]
    · simp [consumes, (past_of_drains _ drains).1]
  | spawned at_ | poolOpened at_ | refused fault at_ | retreated grant fault at_
  | launched grant at_ | counted grant index task at_ | sent grant index task at_
  | allSubmitted grant index at_ | openedGate grant at_ | abandonedGate grant cause at_
  | withdrawn grant cause at_ | detached grant at_ | handedOver grant at_ =>
    refine .inr ⟨by simp [consumes, at_, CallerPhase.waits], rfl, ?_⟩
    simp [toCaller, handOver, at_, CallerPhase.isCut, CallerPhase.failure?,
      RunError.isInterrupted]
  | _ => exact .inr ⟨rfl, rfl, rfl⟩

theorem raised_of_consumes (looks : execution.consumes raised move = true) : raised = true := by
  cases move with
  | call grant => exact (Bool.and_eq_true_iff.mp looks).1
  | _ => cases looks

/-- Whoever waits has not decided yet. -/
theorem not_isCut_of_consumes (looks : execution.consumes raised move = true) :
    execution.caller.isCut = false := by
  cases move with
  | call grant =>
    have waits := (Bool.and_eq_true_iff.mp looks).2
    cases caller : execution.caller with
    | awaitingReady | awaitingDone => rfl
    | _ =>
      rw [caller] at waits
      cases waits
  | _ => cases looks

theorem isCut_iff : execution.caller.isCut = true ↔
    ∃ phase, execution.caller.failure? = some (.interrupted phase) := by
  unfold CallerPhase.isCut
  cases execution.caller.failure? with
  | none => simp
  | some cause => cases cause <;> simp [RunError.isInterrupted]

/-- What a call has returned tells whether it has decided on an interrupt. -/
theorem isCut_of_result (result : Except RunError (ResultSet α))
    (returned : execution.result? = some result) :
    execution.caller.isCut = true ↔ ∃ phase, result = .error (.interrupted phase) := by
  rw [(result?_eq_some_iff result).mp returned]
  rcases result with cause | results
  · cases cause <;> simp [CallerPhase.isCut, CallerPhase.failure?, RunError.isInterrupted]
  · simp [CallerPhase.isCut, CallerPhase.failure?]

theorem isCut_of_isInterrupted (interrupted : execution.isInterrupted = true) :
    execution.caller.isCut = true := by
  unfold isInterrupted at interrupted
  split at interrupted
  next error returned =>
    rw [isCut_of_result _ returned]
    cases error with
    | interrupted phase => exact ⟨phase, rfl⟩
    | _ => cases interrupted
  · cases interrupted

/-! ### Bound to return an interrupt -/

/-- The call is bound to return an interrupt of a phase: it has decided to, or the flag is up and
its wait for the workers is still before it, with every thread granted so far. -/
def Bound (execution : Execution τ α) (raised : Bool) (phase : WaitPhase) : Prop :=
  execution.caller.failure? = some (.interrupted phase) ∨
    phase = .readiness ∧ raised = true ∧ execution.caller.precedesStart = true ∧
      ¬ execution.pool.stage.Retreats

theorem Transition.bound (transition : execution.Transition raised now move next)
    (phase : WaitPhase) (bound : execution.Bound raised phase)
    (grants : ∀ fault, move ≠ .call (.refused fault)) :
    next.execution.Bound next.raised phase := by
  rcases bound with decided | ⟨rfl, up, early, stage⟩
  · exact .inl (transition.failure?_kept _ decided)
  · cases transition with
    | cutReadiness grant at_ => exact .inl rfl
    | spawned at_ | counted grant index task at_ | joined grant at_ =>
      exact .inr ⟨rfl, up, early, stage⟩
    | poolOpened at_ => exact .inr ⟨rfl, up, early, by rintro ⟨fault, back⟩; cases back⟩
    | refused fault at_ => exact absurd rfl (grants fault)
    | retreated grant fault at_ back => exact absurd ⟨fault, back⟩ stage
    | launched | sent | allSubmitted => exact .inr ⟨rfl, up, rfl, stage⟩
    | sawReady grant at_ lowered =>
      rw [lowered] at up
      cases up
    | closed grant drains =>
      rw [(past_of_drains _ drains).2] at early
      cases early
    | openedGate grant at_ | sawDone grant at_ | cutCompletion grant at_
    | abandonedGate grant cause at_ | withdrawn grant cause at_ | detached grant at_
    | handedOver grant at_ =>
      rw [at_] at early
      cases early
    | _ => exact .inr ⟨rfl, up, early, stage⟩

/-- Behind a gate that is not open no worker is in a body. -/
theorem Sound.unblocked_of_shut (sound : execution.Sound notes)
    (shut : execution.gate.state ≠ .opened) (ends : Nat → BodyResult α → Prop) :
    execution.Unblocked ends := by
  intro worker index task since held
  exact absurd (sound.crewed worker _ held).2.2 shut

/-- A bound call that has not returned can go on by itself: nobody's body has to end for it. -/
theorem Sound.canGo_of_bound (sound : execution.Sound notes) (resting : execution.Resting)
    (phase : WaitPhase) (bound : execution.Bound raised phase)
    (going : execution.result? = none) :
    execution.CanGo raised now .given (fun _ _ => False) := by
  have unfinished : execution.isQuiet = false := by simp [isQuiet, going]
  have gate := sound.staged.placed.gate
  have shut (closed : execution.caller.gate ≠ .opened) :
      execution.CanGo raised now .given (fun _ _ => False) :=
    canGo_of_unfinished sound resting (sound.unblocked_of_shut (gate ▸ closed) _) unfinished
  cases caller : execution.caller with
  | detaching => exact canGo_detaching sound caller
  | returned result =>
    rw [result?, caller] at going
    cases going
  | awaitingDone | gathering =>
    rcases bound with decided | ⟨-, -, early, -⟩
    · rw [caller] at decided
      cases decided
    · rw [caller] at early
      cases early
  | _ => exact shut (by simp [caller, CallerPhase.gate])

/-- The step that a bound call goes on with leaves it less to do. -/
theorem SoundFor.step_of_bound {runner : Runner τ} (sound : SoundFor runner execution notes)
    (resting : execution.Resting) (phase : WaitPhase) (bound : execution.Bound raised phase)
    (going : execution.result? = none) (now : Instant) :
    ∃ move next, (move = .call .given ∨ ∃ worker, move = .work worker) ∧
      execution.step raised now move = some next ∧ next.execution.workLeft < execution.workLeft ∧
      next.execution.Resting ∧ next.execution.Bound next.raised phase := by
  obtain ⟨move, possible, busy, kind⟩ := sound.toSound.canGo_of_bound resting phase bound going
  obtain ⟨next, stepped⟩ := Option.isSome_iff_exists.mp possible
  have transition := sound.toSound.transition stepped
  have own : move = .call .given ∨ ∃ worker, move = .work worker := by
    rcases kind with call | work | ⟨_, _, -, ended⟩
    · exact .inl call
    · exact .inr work
    · exact ended.elim
  refine ⟨move, next, own, stepped, sound.toSound.workLeft_lt transition busy,
    resting.step transition, transition.bound phase bound ?_⟩
  rintro fault rfl
  rcases own with grants | ⟨_, works⟩
  · cases grants
  · cases works

/-! ### Turned away -/

/-- The call does not carry its tasks out: it has decided to return that it was interrupted before
the start, or that a thread was refused. -/
def TurnedAway (execution : Execution τ α) : Prop :=
  execution.caller.failure? = some (.interrupted .readiness) ∨
    ∃ fault, execution.caller.failure? = some (.spawn fault)

theorem Transition.turnedAway (transition : execution.Transition raised now move next)
    (away : execution.TurnedAway) : next.execution.TurnedAway := by
  rcases away with cut | ⟨fault, refused⟩
  · exact .inl (transition.failure?_kept _ cut)
  · exact .inr ⟨fault, transition.failure?_kept _ refused⟩

/-- As long as the flag is up, no caller sees that its workers are ready. -/
theorem Transition.early (transition : execution.Transition true now move next)
    (early : execution.caller.precedesStart = true) : next.execution.TurnedAway ∨
      execution.consumes true move = false ∧ next.execution.caller.precedesStart = true := by
  cases transition with
  | cutReadiness grant at_ => exact .inl (.inl rfl)
  | retreated grant fault at_ => exact .inl (.inr ⟨_, rfl⟩)
  | spawned at_ | poolOpened at_ | refused fault at_ | counted grant index task at_ =>
    exact .inr ⟨by simp [consumes, at_, CallerPhase.waits], early⟩
  | launched grant at_ | sent grant index task at_ | allSubmitted grant index at_ =>
    exact .inr ⟨by simp [consumes, at_, CallerPhase.waits], rfl⟩
  | joined grant at_ =>
    rcases at_ with at_ | drains
    · exact .inr ⟨by simp [consumes, at_, CallerPhase.waits], early⟩
    · rw [(past_of_drains _ drains).2] at early
      cases early
  | closed grant drains =>
    rw [(past_of_drains _ drains).2] at early
    cases early
  | sawReady grant at_ lowered => cases lowered
  | openedGate grant at_ | sawDone grant at_ | cutCompletion grant at_
  | abandonedGate grant cause at_ | withdrawn grant cause at_ | detached grant at_
  | handedOver grant at_ =>
    rw [at_] at early
    cases early
  | _ => exact .inr ⟨rfl, early⟩

theorem result_of_turnedAway (away : execution.TurnedAway)
    (result : Except RunError (ResultSet α)) (returned : execution.result? = some result) :
    result = .error (.interrupted .readiness) ∨ ∃ fault, result = .error (.spawn fault) := by
  rcases away with cut | ⟨fault, refused⟩
  · exact .inl (result_of_failure _ cut result returned)
  · exact .inr ⟨fault, result_of_failure _ refused result returned⟩

end Execution

end GatedRun
