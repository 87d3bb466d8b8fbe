import GatedRun.Proofs.Session.Isolation

/-!
# Raising the interrupt from inside a run

A body that is running has not been counted down, so its call has not seen the done latch open and
still has a look at the flag before it. The look finds the flag up, as long as no one else looks at
it in between; that it takes flag and count together is why no order of the two is missed.
-/

namespace GatedRun

variable {τ α : Type}

/-! ### One call -/

namespace Execution

variable {execution : Execution τ α} {notes : List (RunNote τ α)} {raised : Bool} {now : Instant}
  {move : RunMove α} {next : Stepped τ α}

/-- The call is bound to be interrupted: it will find the flag up, or has found it so. -/
def Alerted (execution : Execution τ α) (raised : Bool) : Prop :=
  (execution.caller = .awaitingDone ∧ raised = true) ∨ execution.caller = .detaching ∨
    execution.caller = .returned (.error (.interrupted .completion))

/-- While a body runs, the call has not seen the done latch open. -/
theorem Sound.alerted_of_inBody (sound : execution.Sound notes) (worker index : Nat) (task : τ)
    (since : Instant)
    (held : execution.pool.workers[worker]? = some (.running ⟨index, task, .inBody since⟩)) :
    execution.Alerted true := by
  have opened : execution.gate.state = .opened := (sound.crewed worker _ held).2.2
  -- The latch still counts the job of that body.
  have counted := sound.counted.done (by simp [opened])
  have few := sound.staged.submitted_le sound.queued
  have busy : 0 < execution.pool.workers.countP WorkerPhase.isBusy :=
    List.countP_pos_iff.mpr ⟨_, List.mem_of_getElem? held, rfl⟩
  have unseen : execution.caller.seesDone ≠ true := by
    intro sees
    have zero := sound.staged.placed.done sees
    omega
  have gate := sound.staged.placed.gate
  rw [opened] at gate
  cases caller : execution.caller with
  | awaitingDone => exact .inl ⟨caller, rfl⟩
  | detaching => exact .inr (.inl caller)
  | gathering => exact absurd rfl (caller ▸ unseen)
  | returned result =>
    rw [caller] at gate unseen
    cases result with
    | ok results => exact absurd rfl unseen
    | error cause =>
      cases cause with
      | interrupted phase =>
        cases phase with
        | readiness => cases gate
        | completion => exact .inr (.inr caller)
      | _ => cases gate
  | _ =>
    rw [caller] at gate
    cases gate

theorem Transition.alerted (transition : execution.Transition raised now move next)
    (alerted : execution.Alerted raised) : next.execution.Alerted next.raised := by
  cases transition with
  | cutCompletion grant at_ up => exact .inr (.inl rfl)
  | detached grant at_ => exact .inr (.inr rfl)
  | sawDone grant at_ lowered zero =>
    rcases alerted with ⟨-, up⟩ | at' | at'
    · exact absurd (lowered.symm.trans up) Bool.false_ne_true
    · cases at_.symm.trans at'
    · cases at_.symm.trans at'
  -- An alerted caller is past the gate and has not come to gather the outcomes.
  | retreated grant fault at_ | launched grant at_ | sent grant index task at_
  | allSubmitted grant index at_ | sawReady grant at_ | cutReadiness grant at_
  | openedGate grant at_ | abandonedGate grant cause at_ | withdrawn grant cause at_
  | handedOver grant at_ =>
    rcases alerted with ⟨at', -⟩ | at' | at' <;> cases at_.symm.trans at'
  | _ => exact alerted

theorem Transition.raised_of_returned (transition : execution.Transition raised now move next)
    (returned : execution.result?.isSome = true) : next.raised = raised := by
  cases transition with
  | sawReady grant at_ | cutReadiness grant at_ | sawDone grant at_
  | cutCompletion grant at_ =>
    rw [result?, at_] at returned
    cases returned
  | _ => rfl

end Execution

/-! ### Among other calls -/

namespace SessionMove

/-- Whether the step neither begins a call nor takes the flag down. -/
def isCalm : SessionMove τ α → Bool
  | .begin _ | .take => false
  | _ => true

end SessionMove

namespace Session

variable {session after : Session τ α} {notes known : List (SessionNote τ α)}
  {move : SessionMove τ α}

/-- As long as the call is going on, every other one has returned, and nobody takes the flag. -/
def Undisturbed (call : Nat) (session : Session τ α) (moves : List (SessionMove τ α)) : Prop :=
  ∀ early move late middle notes, moves = early ++ move :: late →
    replay step session early = some (middle, notes) →
    ∀ execution : Execution τ α, middle.calls[call]? = some execution →
      execution.result? = none → move ≠ .take ∧
        ∀ (other : Nat) (rival : Execution τ α), other ≠ call →
          middle.calls[other]? = some rival → rival.result?.isSome = true

theorem Undisturbed.head (call : Nat) (moves : List (SessionMove τ α))
    (undisturbed : Undisturbed call session (move :: moves)) (execution : Execution τ α)
    (held : session.calls[call]? = some execution) (going : execution.result? = none) :
    move ≠ .take ∧ ∀ (other : Nat) (rival : Execution τ α), other ≠ call →
      session.calls[other]? = some rival → rival.result?.isSome = true :=
  undisturbed [] move moves session [] rfl rfl execution held going

theorem Undisturbed.tail (call : Nat) (moves : List (SessionMove τ α))
    (undisturbed : Undisturbed call session (move :: moves))
    (stepped : session.step move = some (after, notes)) : Undisturbed call after moves := by
  intro early next late middle more split ran
  apply undisturbed (move :: early) next late middle (notes ++ more) (by rw [split]; rfl)
  exact (replay_cons_iff session middle move early _).mpr ⟨after, notes, more, stepped, ran, rfl⟩

theorem step_calls_length (calm : move.isCalm = true)
    (stepped : session.step move = some (after, notes)) :
    after.calls.length = session.calls.length := by
  cases move with
  | extend extension =>
    simp only [step] at stepped
    split at stepped
    · cases stepped
    · split at stepped <;> cases stepped <;> rfl
  | run call now own =>
    obtain ⟨execution, next, -, -, rfl, -⟩ := (run_eq_some_iff call now own).mp stepped
    exact List.length_set
  | begin now | take => cases calm
  | drop | raise =>
    cases stepped
    rfl

/-- A first call is undisturbed for as long as nobody begins another or takes the flag down. -/
theorem undisturbed_of_calm (alone : session.calls.length ≤ 1) (moves : List (SessionMove τ α))
    (calm : ∀ move ∈ moves, move.isCalm = true) : Undisturbed 0 session moves := by
  rintro early move late middle notes rfl ran execution held -
  -- With no call begun, the list of calls is as short as it was.
  have still : middle.calls.length ≤ 1 := by
    refine replay_preserves (fun (state : Session τ α) _ => state.calls.length ≤ 1) session middle
      early [] notes ?_ alone ran
    intro state move after known told member few stepped
    rw [step_calls_length (calm move (List.mem_append_left _ member)) stepped]
    exact few
  refine ⟨?_, ?_⟩
  · rintro rfl
    cases calm .take (by simp)
  · intro other rival apart found
    have below := (List.getElem?_eq_some_iff.mp found).1
    omega

/-- Whatever a step does that is not the alerted call's own, the call stays alerted, unless somebody
takes the flag down or another call is waiting at it. -/
private theorem alerted_other (allowed : Runner τ → Prop) (call : Nat) (execution : Execution τ α)
    (sound : Sound allowed session known) (alerted : execution.Alerted session.raised)
    (alone : execution.result? = none → move ≠ .take ∧
      ∀ (other : Nat) (rival : Execution τ α), other ≠ call →
        session.calls[other]? = some rival → rival.result?.isSome = true)
    (foreign : ∀ now own, move ≠ .run call now own)
    (stepped : session.step move = some (after, notes)) : execution.Alerted after.raised := by
  -- While the call waits the flag is up, and only a look of somebody else could take it down.
  rcases alerted with ⟨at_, up⟩ | later
  · have going : execution.result? = none := by rw [Execution.result?, at_]
    obtain ⟨untaken, returned⟩ := alone going
    refine .inl ⟨at_, ?_⟩
    cases move with
    | extend extension =>
      simp only [step] at stepped
      split at stepped
      · cases stepped
      · split at stepped <;> cases stepped <;> exact up
    | begin now =>
      obtain ⟨runner, -, rfl, -⟩ := (begin_eq_some_iff now).mp stepped
      exact up
    | run other now own =>
      obtain ⟨rival, next, held, moved, rfl, -⟩ := (run_eq_some_iff other now own).mp stepped
      have apart : other ≠ call := by
        rintro rfl
        exact foreign now own rfl
      obtain ⟨_, -, rivals⟩ := sound.calls other rival held
      have same := (rivals.transition moved).raised_of_returned (returned other rival apart held)
      exact same.trans up
    | take => exact absurd rfl untaken
    | drop =>
      cases stepped
      exact up
    | raise =>
      cases stepped
      rfl
  · exact .inr later

theorem alerted_replay (call : Nat) (moves : List (SessionMove τ α))
    (sound : Sound Runner.IsSound session known)
    (alerted : ∃ execution : Execution τ α, session.calls[call]? = some execution ∧
      execution.Alerted session.raised)
    (undisturbed : Undisturbed call session moves)
    (ran : replay step session moves = some (after, notes)) :
    ∃ execution : Execution τ α, after.calls[call]? = some execution ∧
      execution.Alerted after.raised := by
  -- On the moves; each is the call's own step, or another one that leaves the call as it is.
  induction moves generalizing session known notes with
  | nil =>
    obtain ⟨rfl, -⟩ := (replay_nil_iff session after notes).mp ran
    exact alerted
  | cons move moves ih =>
    obtain ⟨next, first, more, stepped, rest, rfl⟩ :=
      (replay_cons_iff session after move moves notes).mp ran
    obtain ⟨execution, held, alerted⟩ := alerted
    refine ih (sound.next stepped) ?_ (undisturbed.tail call moves stepped) rest
    rcases step_call call execution held stepped with
      ⟨now, own, further, -, moved, held', raised, -⟩ | ⟨foreign, held', -⟩
    · obtain ⟨_, -, own⟩ := sound.calls call execution held
      refine ⟨further.execution, held', ?_⟩
      rw [raised]
      exact (own.transition moved).alerted alerted
    · refine ⟨execution, held', ?_⟩
      exact alerted_other _ call execution sound alerted
        (undisturbed.head call moves execution held) foreign stepped

/-- The interrupt that is raised while a body of an undisturbed call runs, by that body or by anyone
else, is what the call returns. -/
theorem raise_in_body_interrupts (opening : Opening τ) (extensions : List (Extension τ))
    {interrupt : Interrupt} (runner : Runner τ)
    (built : Runner.build opening extensions interrupt = .ok runner)
    (early late : List (SessionMove τ α)) (middle after : Session τ α)
    (first second : List (SessionNote τ α))
    (reached : replay step (ofRunner runner) early = some (middle, first))
    (call : Nat) (running : Execution τ α) (runs : middle.calls[call]? = some running)
    (worker index : Nat) (task : τ) (since : Instant)
    (inBody : running.pool.workers[worker]? = some (.running ⟨index, task, .inBody since⟩))
    (undisturbed : Undisturbed call middle (.raise :: late))
    (ran : replay step middle (.raise :: late) = some (after, second))
    (execution : Execution τ α) (held : after.calls[call]? = some execution)
    (result : Except RunError (ResultSet α)) (returned : execution.result? = some result) :
    result = .error (.interrupted .completion) := by
  have sound := reached_sound runner (Runner.build_sound opening extensions runner built) early
    reached
  obtain ⟨_, -, own⟩ := sound.calls call running runs
  obtain ⟨raised, notes, more, stepped, rest, rfl⟩ :=
    (replay_cons_iff middle after .raise late second).mp ran
  have alerted := own.alerted_of_inBody worker index task since inBody
  have awaits : ∃ execution : Execution τ α, raised.calls[call]? = some execution ∧
      execution.Alerted raised.raised := by
    cases stepped
    exact ⟨running, runs, alerted⟩
  obtain ⟨execution', held', alerted'⟩ := alerted_replay call late (sound.next stepped) awaits
    (undisturbed.tail call late stepped) rest
  obtain rfl : execution' = execution := Option.some.inj (held'.symm.trans held)
  have at_ := (Execution.result?_eq_some_iff result).mp returned
  rcases alerted' with ⟨waits, -⟩ | waits | interrupted
  · cases at_.symm.trans waits
  · cases at_.symm.trans waits
  · injection at_.symm.trans interrupted

/-- The only body has raised the interrupt: it ends, and its job is counted down, before the caller
looks again. -/
def soloClosing : List (RunMove Nat) :=
  [.bodyEnds 0 (.returned 5), .work 0, .work 0, .call .given, .call .given]

theorem raise_in_body_interrupts_solo : ∃ middle first running after second execution result,
    replay step (ofRunner soloRunner) (.begin 1 :: soloOpening.map (.run 0 2)) =
      some (middle, first) ∧
    middle.calls[0]? = some running ∧
    running.pool.workers[0]? = some (.running ⟨0, 3, .inBody 2⟩) ∧
    replay step middle (.raise :: soloClosing.map (.run 0 3)) = some (after, second) ∧
    after.calls[0]? = some execution ∧ execution.result? = some result ∧
    result = .error (.interrupted .completion) := by
  have shown : ((replay step (ofRunner soloRunner) (.begin 1 :: soloOpening.map (.run 0 2))).bind
      fun middle => middle.1.calls[0]?.bind fun running =>
        (replay step middle.1 (.raise :: soloClosing.map (.run 0 3))).bind fun after =>
          after.1.calls[0]?.bind fun execution => execution.result?.map fun _ =>
            (middle.1.calls.length, running.pool.workers[0]?)) =
      some (1, some (.running ⟨0, 3, .inBody 2⟩)) := rfl
  obtain ⟨⟨middle, first⟩, reached, rest⟩ := Option.bind_eq_some_iff.mp shown
  obtain ⟨running, runs, rest⟩ := Option.bind_eq_some_iff.mp rest
  obtain ⟨⟨after, second⟩, ran, rest⟩ := Option.bind_eq_some_iff.mp rest
  obtain ⟨execution, held, rest⟩ := Option.bind_eq_some_iff.mp rest
  obtain ⟨result, returned, figures⟩ := Option.map_eq_some_iff.mp rest
  obtain ⟨alone, inBody⟩ := Prod.mk.inj figures
  have undisturbed : Undisturbed 0 middle (.raise :: soloClosing.map (.run 0 3)) :=
    undisturbed_of_calm (Nat.le_of_eq alone) _ (by decide)
  exact ⟨middle, first, running, after, second, execution, result, reached, runs, inBody, ran, held,
    returned, raise_in_body_interrupts (.task 3) [] soloRunner rfl _ _ middle after first second
      reached 0 running runs 0 0 3 2 inBody undisturbed ran execution held result returned⟩

end Session

end GatedRun
