import GatedRun.Proofs.Execution.Barrier
import GatedRun.Proofs.Execution.Sleepers

/-!
# Interrupted before the start

An interrupt that comes before the gate is opened leads to an abandoned gate. The caller then shuts
the pool down as it always does, and the workers take every job that is left; but each job is let go
at the gate, and no body is called (`readiness_interrupt`). Which way a run is interrupted hangs on
the gate alone: `failure?` is what the caller has made up its mind to return, and it never changes
its mind.
-/

namespace GatedRun

variable {τ α : Type}

/-- What the caller is going to return, once the run has failed. -/
def CallerPhase.failure? : CallerPhase α → Option RunError
  | .abandoning cause | .withdrawing cause | .returned (.error cause) => some cause
  | .detaching => some (.interrupted .completion)
  | _ => none

/-- The index of the task whose job the worker has not brought past the gate. -/
def WorkerPhase.early? : WorkerPhase (RunJob τ α) → Option Nat
  | .running ⟨index, _, .arriving⟩ | .running ⟨index, _, .atGate⟩ => some index
  | _ => none

@[simp] theorem skips_outcomeNotes (worker index : Nat) (outcome : Outcome α) :
    skips (Execution.outcomeNotes (τ := τ) worker index outcome) = [] := by
  cases outcome <;> rfl

@[simp] theorem skips_failureNotes (cause : RunError) :
    skips (Execution.failureNotes (τ := τ) (α := α) cause) = [] := by
  cases cause <;> rfl

namespace Execution

variable {execution after : Execution τ α} {notes : List (RunNote τ α)} {raised : Bool}
  {now : Instant} {move : RunMove α} {next : Stepped τ α}

/-! ### The jobs that are let go -/

def early? (execution : Execution τ α) (worker : Nat) : Option Nat :=
  execution.pool.workers[worker]?.bind WorkerPhase.early?

/-- Unless the gate is open, each job that was taken is either in front of it or was let go there,
and that only once. -/
structure TurnedBack (execution : Execution τ α) (notes : List (RunNote τ α)) : Prop where
  nodup : (skips notes).Nodup
  skipped : execution.gate.state ≠ .opened → ∀ worker index, (worker, index) ∈ skips notes ↔
    (worker, index) ∈ takes notes ∧ execution.early? worker ≠ some index

private theorem early?_set (worker : Nat) (phase : WorkerPhase (RunJob τ α))
    (below : worker < execution.pool.workers.length)
    (workers : after.pool.workers = execution.pool.workers.set worker phase) (other : Nat) :
    after.early? other = if other = worker then phase.early? else execution.early? other := by
  rw [early?, workers]
  split
  next same =>
    subst same
    rw [List.getElem?_set_self below, Option.bind_some]
  next apart => rw [List.getElem?_set_ne (Ne.symm apart), early?]

/-- A worker's step that brings no job past the gate. -/
private theorem early?_same (worker : Nat) (old phase : WorkerPhase (RunJob τ α))
    (at_ : execution.pool.workers[worker]? = some old)
    (workers : after.pool.workers = execution.pool.workers.set worker phase)
    (same : phase.early? = old.early?) (other : Nat) :
    after.early? other = execution.early? other := by
  rw [early?_set worker phase (List.getElem?_eq_some_iff.mp at_).1 workers other]
  split
  next here => rw [here, early?, at_, same, Option.bind_some]
  · rfl

private theorem early?_spawn
    (workers : after.pool.workers = execution.pool.workers ++ [.idle]) (worker : Nat) :
    after.early? worker = execution.early? worker := by
  rw [early?, early?, workers, List.getElem?_append]
  split
  · rfl
  next above =>
    rw [List.getElem?_eq_none (Nat.not_lt.mp above), List.getElem?_singleton]
    split <;> rfl

private theorem TurnedBack.transfer (more : List (RunNote τ α))
    (turned : execution.TurnedBack notes) (skipped : skips more = []) (took : takes more = [])
    (gate : after.gate.state ≠ .opened → execution.gate.state ≠ .opened)
    (early : after.gate.state ≠ .opened → ∀ worker,
      after.early? worker = execution.early? worker) : after.TurnedBack (notes ++ more) := by
  refine ⟨?_, ?_⟩
  · rw [skips_append, skipped, List.append_nil]
    exact turned.nodup
  · intro shut worker index
    rw [skips_append, takes_append, skipped, took, List.append_nil, List.append_nil, early shut]
    exact turned.skipped (gate shut) worker index

/-- A worker that takes a job has it in front of the gate. -/
private theorem TurnedBack.take (turned : execution.TurnedBack notes)
    (queued : execution.Queued (takes notes)) (worker : Nat) (job : RunJob τ α)
    (rest : List (RunJob τ α)) (at_ : execution.pool.workers[worker]? = some .receiving)
    (queue : execution.pool.queue = job :: rest)
    (workers : after.pool.workers = execution.pool.workers.set worker (.running job))
    (gate : after.gate = execution.gate) :
    after.TurnedBack (notes ++ [.jobTaken worker job.index]) := by
  have below := (List.getElem?_eq_some_iff.mp at_).1
  obtain ⟨arriving, -⟩ := queued.fresh job (by simp [queue])
  have fresh : (worker, job.index) ∉ takes notes := fun took =>
    queued.head_fresh job rest queue (List.mem_map_of_mem took)
  have early : WorkerPhase.early? (.running job) = some job.index := by
    obtain ⟨index, task, phase⟩ := job
    obtain rfl : phase = .arriving := arriving
    rfl
  have before : execution.early? worker = none := by rw [early?, at_]; rfl
  refine ⟨?_, ?_⟩
  · simpa using turned.nodup
  · intro shut other index
    rw [gate] at shut
    have known := turned.skipped shut other index
    rw [early?_set worker _ below workers other]
    simp only [skips_append, skips_cons, skips_nil, RunNote.skip?, Option.toList_none,
      List.append_nil, takes_append, takes_cons, takes_nil, RunNote.take?, Option.toList_some,
      List.mem_append, List.mem_singleton, Prod.mk.injEq]
    by_cases same : other = worker
    · subst same
      rw [before] at known
      rw [if_pos rfl, early]
      by_cases own : index = job.index
      · subst own
        simp [known, fresh]
      · simp [known, own, Ne.symm own]
    · simp [known, same]

/-- A job that is let go is not in front of the gate any more. -/
private theorem TurnedBack.skip (turned : execution.TurnedBack notes)
    (crewed : execution.Crewed (takes notes)) (worker index : Nat) (task : τ)
    (at_ : execution.pool.workers[worker]? = some (.running ⟨index, task, .atGate⟩))
    (gate : execution.gate.state = .abandoned)
    (workers : after.pool.workers =
      execution.pool.workers.set worker (.running ⟨index, task, .ended⟩)) :
    after.TurnedBack (notes ++ [.logged (.worker worker) (.skipped index)]) := by
  have below := (List.getElem?_eq_some_iff.mp at_).1
  have shut : execution.gate.state ≠ .opened := by simp [gate]
  have took := (crewed worker _ at_).1
  have before : execution.early? worker = some index := by rw [early?, at_]; rfl
  have fresh : (worker, index) ∉ skips notes := by
    intro skipped
    exact ((turned.skipped shut worker index).mp skipped).2 before
  refine ⟨?_, ?_⟩
  · simpa [List.nodup_append] using ⟨turned.nodup, fun a b member => by
      rintro rfl rfl
      exact fresh member⟩
  · intro _ other index'
    have known := turned.skipped shut other index'
    rw [early?_set worker _ below workers other]
    simp only [skips_append, skips_cons, skips_nil, RunNote.skip?, Option.toList_some,
      List.append_nil, takes_append, takes_cons, takes_nil, RunNote.take?, Option.toList_none,
      List.mem_append, List.mem_singleton, Prod.mk.injEq]
    by_cases same : other = worker
    · subst same
      rw [before] at known
      rw [if_pos rfl]
      by_cases own : index' = index
      · subst own
        simp [took, WorkerPhase.early?]
      · simp [known, own, Ne.symm own, WorkerPhase.early?]
    · simp [known, same]

theorem TurnedBack.step (turned : execution.TurnedBack notes) (sound : execution.Sound notes)
    (transition : execution.Transition raised now move next) :
    next.execution.TurnedBack (notes ++ next.notes) := by
  cases transition with
  | spawned at_ stage more | poolOpened at_ stage last =>
    exact turned.transfer _ rfl rfl id fun _ => early?_spawn rfl
  | took worker job rest at_ queue =>
    exact turned.take sound.queued worker job rest at_ queue rfl rfl
  | skipped worker index task at_ awake gate =>
    exact turned.skip sound.crewed worker index task at_ gate rfl
  | called worker index task at_ awake gate =>
    exact turned.transfer _ rfl rfl id fun shut => absurd gate shut
  | locked worker at_ | foundNone worker at_ | exited worker at_ | reported worker at_
  | arrived worker index task at_ | filed worker index task since outcome at_
  | countedDone worker index task at_ | finished worker index task at_ =>
    exact turned.transfer _ rfl rfl id fun _ => early?_same worker _ _ at_ rfl rfl
  | bodyEnded worker index task since result at_ =>
    exact turned.transfer _ (by simp) (by simp) id fun _ => early?_same worker _ _ at_ rfl rfl
  | withdrawn grant cause at_ =>
    exact turned.transfer _ (skips_failureNotes cause) (by cases cause <;> rfl) id fun _ _ => rfl
  | openedGate grant at_ =>
    exact turned.transfer _ rfl rfl (fun shut => absurd rfl shut) fun _ _ => rfl
  | abandonedGate grant cause at_ =>
    have closed := (sound.staged.placedAt at_).gate
    exact turned.transfer _ rfl rfl (fun _ => by simp [closed, CallerPhase.gate]) fun _ _ => rfl
  | _ => exact turned.transfer _ rfl rfl id fun _ _ => rfl

/-! ### What the caller has decided -/

/-- A gate that is settled stays as it is. -/
theorem Staged.gate_settled (staged : execution.Staged)
    (transition : execution.Transition raised now move next)
    (settled : execution.gate.state ≠ .closed) :
    next.execution.gate.state = execution.gate.state := by
  cases transition with
  | openedGate grant at_ | abandonedGate grant cause at_ =>
    exact absurd (staged.placedAt at_).gate settled
  | _ => rfl

/-- A failure that the caller has decided on is the one that it returns. -/
theorem Transition.failure?_kept (transition : execution.Transition raised now move next)
    (cause : RunError) (failed : execution.caller.failure? = some cause) :
    next.execution.caller.failure? = some cause := by
  cases transition with
  | abandonedGate grant own at_ | withdrawn grant own at_ | detached grant at_ =>
    rw [at_] at failed
    exact failed
  | retreated grant fault at_ | launched grant at_ | sent grant index task at_
  | allSubmitted grant index at_ | sawReady grant at_ | cutReadiness grant at_
  | openedGate grant at_ | sawDone grant at_ | cutCompletion grant at_
  | handedOver grant at_ =>
    rw [at_] at failed
    cases failed
  | _ => exact failed

/-- What a call returns is the failure that it has decided on. -/
theorem result_of_failure (cause : RunError) (decided : execution.caller.failure? = some cause)
    (result : Except RunError (ResultSet α)) (returned : execution.result? = some result) :
    result = .error cause := by
  rw [(result?_eq_some_iff result).mp returned] at decided
  cases result with
  | ok results => cases decided
  | error own => exact congrArg Except.error (Option.some.inj decided)

/-- A step that finds the flag up and takes it down: the caller has waited, behind a closed gate or
an open one, and decides on the failure that goes with it. -/
theorem Transition.interrupted (staged : execution.Staged)
    (transition : execution.Transition raised now move next) (up : raised = true)
    (down : next.raised = false) : ∃ phase,
      next.execution.caller.failure? = some (.interrupted phase) ∧
      (phase = .readiness ↔ execution.gate.state ≠ .opened) := by
  cases transition with
  | cutReadiness grant at_ =>
    have closed := (staged.placedAt at_).gate
    exact ⟨.readiness, rfl, by simp [closed, CallerPhase.gate]⟩
  | cutCompletion grant at_ =>
    have opened := (staged.placedAt at_).gate
    exact ⟨.completion, rfl, by simp [opened, CallerPhase.gate]⟩
  | sawReady grant at_ lowered | sawDone grant at_ lowered =>
    rw [lowered] at up
    cases up
  | _ =>
    rw [show raised = false from down] at up
    cases up

/-- Only by taking an interrupt the caller decides to return one. -/
theorem Transition.takes_of_failure (transition : execution.Transition raised now move next)
    (phase : WaitPhase) (undecided : execution.caller.failure? = none)
    (failed : next.execution.caller.failure? = some (.interrupted phase)) :
    raised = true ∧ next.raised = false := by
  cases transition with
  | cutReadiness grant at_ up | cutCompletion grant at_ up => exact ⟨up, rfl⟩
  | abandonedGate grant own at_ | withdrawn grant own at_ | detached grant at_ =>
    rw [at_] at undecided
    cases undecided
  | retreated | launched | sent | allSubmitted | sawReady | openedGate | sawDone | handedOver =>
    cases failed
  | _ =>
    rw [show execution.caller.failure? = some _ from failed] at undecided
    cases undecided

/-! ### What is left behind -/

private theorem eq_replicate_none {β : Type} (items : List (Option β)) (size : Nat)
    (length : items.length = size) (vacant : ∀ index : Nat, items[index]?.join = none) :
    items = List.replicate size none := by
  refine List.eq_replicate_iff.mpr ⟨length, fun item member => ?_⟩
  obtain ⟨index, held⟩ := List.mem_iff_getElem?.mp member
  have none := vacant index
  rwa [held] at none

/-- As long as the gate was not opened, no slot is written. -/
theorem Sound.slots_empty (sound : execution.Sound notes) (shut : execution.gate.state ≠ .opened) :
    execution.slots = Slots.empty execution.taskCount := by
  have undelivered : execution.caller.hasResults = false := by
    have gate := sound.staged.placed.gate
    unfold CallerPhase.hasResults
    split
    next results at_ =>
      rw [at_] at gate
      exact absurd gate shut
    · rfl
  have sizes := sound.recorded.sizes
  have vacant (index : Nat) := (sound.untouched shut index).2
  simp only [kept_eq_slots undelivered] at sizes
  simp only [Slots.IsVacant, kept_eq_slots undelivered] at vacant
  have parts : execution.slots = ⟨execution.slots.outcomes, execution.slots.startedAt⟩ := rfl
  rw [parts, eq_replicate_none _ _ sizes.1 fun index => (vacant index).1,
    eq_replicate_none _ _ sizes.2 fun index => (vacant index).2, Slots.empty]

/-- Once all workers are over behind a gate that is not open, just the jobs that were taken were let
go at it. -/
theorem TurnedBack.perm (turned : execution.TurnedBack notes)
    (queued : execution.Queued (takes notes)) (shut : execution.gate.state ≠ .opened)
    (quiet : execution.pool.isQuiet = true) : (skips notes).Perm (takes notes) := by
  have distinct : (takes notes).Nodup := List.Nodup.of_map _ queued.nodup
  refine (List.perm_ext_iff_of_nodup turned.nodup distinct).mpr ?_
  rintro ⟨worker, index⟩
  have none : execution.early? worker = none := by
    unfold early?
    cases held : execution.pool.workers[worker]? with
    | none => rfl
    | some phase =>
      have gone := List.all_eq_true.mp quiet phase (List.mem_of_getElem? held)
      cases phase with
      | exited | dead => rfl
      | _ => cases gone
  rw [turned.skipped shut worker index, none]
  simp

/-! ### Whole runs -/

theorem start_turnedBack (runner : Runner τ) (sound : runner.IsSound) (now : Instant) :
    (start (α := α) runner.tasks runner.config now).1.TurnedBack
      (start runner.tasks runner.config now).2 := by
  rw [start_eq runner sound now]
  refine ⟨List.nodup_nil, fun _ worker index => ?_⟩
  simp

theorem SoundFor.turnedBack_replay {runner : Runner τ} (sound : SoundFor runner execution notes)
    (turned : execution.TurnedBack notes) (turns : List (Turn α)) (last : Execution τ α)
    (more : List (RunNote τ α))
    (ran : GatedRun.replay advance execution turns = some (last, more)) :
    last.TurnedBack (notes ++ more) :=
  sound.replay_keeps TurnedBack
    (fun _ _ _ _ _ _ sound turned transition => turned.step sound.toSound transition) turned turns
    last more ran

/-- Over the rest of a run, a settled gate and a failure that was decided on stay as they are. -/
theorem SoundFor.kept_replay {runner : Runner τ} (sound : SoundFor runner execution notes)
    (turns : List (Turn α)) (last : Execution τ α) (more : List (RunNote τ α))
    (ran : GatedRun.replay advance execution turns = some (last, more)) :
    (execution.gate.state ≠ .closed → last.gate.state = execution.gate.state) ∧
      ∀ cause, execution.caller.failure? = some cause → last.caller.failure? = some cause := by
  refine sound.replay_keeps (fun state _ =>
    (execution.gate.state ≠ .closed → state.gate.state = execution.gate.state) ∧
      ∀ cause, execution.caller.failure? = some cause → state.caller.failure? = some cause)
    ?_ ⟨fun _ => rfl, fun _ => id⟩ turns last more ran
  rintro state told raised now move next sound ⟨gate, failure⟩ transition
  refine ⟨fun settled => ?_, fun cause failed =>
    transition.failure?_kept cause (failure cause failed)⟩
  rw [sound.staged.gate_settled transition (gate settled ▸ settled), gate settled]

/-- In one of the turns, with the execution at that moment as it is, the caller finds the flag up
and takes it down. -/
def TakesInterrupt (first : Execution τ α) (turns : List (Turn α)) (moment : Execution τ α) :
    Prop :=
  ∃ before turn after told next, turns = before ++ turn :: after ∧
    GatedRun.replay advance first before = some (moment, told) ∧
    moment.step turn.raised turn.now turn.move = some next ∧
    turn.raised = true ∧ next.raised = false

/-- A gate that is not open at the end of a run was open at no time. -/
theorem SoundFor.shut_before {runner : Runner τ} (sound : SoundFor runner execution notes)
    (before after : List (Turn α)) (last moment : Execution τ α) (more told : List (RunNote τ α))
    (ran : GatedRun.replay advance execution (before ++ after) = some (last, more))
    (early : GatedRun.replay advance execution before = some (moment, told))
    (shut : last.gate.state ≠ .opened) : moment.gate.state ≠ .opened := by
  intro opened
  obtain ⟨middle, first, second, early', late, -⟩ :=
    (replay_append_iff execution last before after more).mp ran
  obtain ⟨rfl, rfl⟩ : moment = middle ∧ told = first := by simpa [early] using early'
  have kept := ((sound.replay before moment told early).kept_replay after last second late).1
  rw [opened] at kept
  exact shut (kept nofun)

/-- How a run stands when it has returned that it was interrupted before the start. -/
theorem Sound.withdrawn (sound : execution.Sound notes) (turned : execution.TurnedBack notes)
    (returned : execution.result? = some (.error (.interrupted .readiness))) :
    execution.pool.isQuiet = true ∧ execution.gate.state = .abandoned ∧
      (takes notes).map Prod.snd = List.range execution.taskCount ∧
      (skips notes).Perm (takes notes) ∧ execution.pool.queue = [] ∧
      execution.pool.workers = List.replicate execution.poolSize .exited ∧
      execution.pool.joined = execution.poolSize := by
  have caller := (result?_eq_some_iff _).mp returned
  have placed := sound.staged.placedAt caller
  have gate : execution.gate.state = .abandoned := sound.gate_of_result _ returned
  have joined := placed.joined rfl
  have quiet := sound.staged.quiet_of_joined joined
  have stage := placed.stage
  have manned := sound.staged.manned
  simp only [CallerPhase.Admits] at stage
  simp only [stage, Manned] at manned
  have empty := sound.crewed.queue_empty quiet (manned ▸ sound.staged.positive)
  refine ⟨quiet, gate, ?_, turned.perm sound.queued (by simp [gate]) quiet, empty, ?_,
    joined.trans manned⟩
  · rw [sound.queued.indices, sound.queued.all_taken placed.submitted empty]
  · exact List.eq_replicate_iff.mpr ⟨manned, sound.staged.exited_of_joined joined⟩

/-- A run that takes an interrupt returns it, as one of the phase that its gate tells. -/
theorem SoundFor.result_of_interrupt {runner : Runner τ} (sound : SoundFor runner execution notes)
    (turns : List (Turn α)) (last moment : Execution τ α) (more : List (RunNote τ α))
    (ran : GatedRun.replay advance execution turns = some (last, more))
    (took : execution.TakesInterrupt turns moment) (result : Except RunError (ResultSet α))
    (returned : last.result? = some result) : ∃ phase,
      result = .error (.interrupted phase) ∧
      (phase = .readiness ↔ moment.gate.state ≠ .opened) := by
  obtain ⟨before, turn, after, told, next, rfl, early, stepped, up, down⟩ := took
  obtain ⟨middle, first, second, early', late, rfl⟩ :=
    (replay_append_iff execution last before (turn :: after) more).mp ran
  obtain ⟨rfl, rfl⟩ : moment = middle ∧ told = first := by simpa [early] using early'
  obtain ⟨state, one, rest, advanced, finished, rfl⟩ :=
    (replay_cons_iff moment last turn after second).mp late
  obtain ⟨rfl, rfl⟩ : next.execution = state ∧ next.notes = one := by
    simpa [advance, stepped] using advanced
  have passed := sound.replay before moment told early
  have transition := passed.toSound.transition stepped
  obtain ⟨phase, failed, gate⟩ := transition.interrupted passed.staged up down
  -- The caller has decided, so this is what it returns.
  have failed := ((passed.step stepped).kept_replay after last rest finished).2 _ failed
  exact ⟨phase, result_of_failure _ failed result returned, gate⟩

/-- A run that returns an interrupt has taken one. -/
theorem SoundFor.interrupt_of_result {runner : Runner τ} (sound : SoundFor runner execution notes)
    (undecided : execution.caller.failure? = none) (turns : List (Turn α))
    (last : Execution τ α) (more : List (RunNote τ α))
    (ran : GatedRun.replay advance execution turns = some (last, more)) (phase : WaitPhase)
    (returned : last.result? = some (.error (.interrupted phase))) :
    ∃ moment, execution.TakesInterrupt turns moment := by
  have failed : last.caller.failure? = some (.interrupted phase) := by
    rw [(result?_eq_some_iff _).mp returned]
    rfl
  obtain ⟨before, turn, after, moment, state, first, second, third, split, -, early, held, advanced,
    gone, late⟩ := replay_switch (fun state : Execution τ α => state.caller.failure? = none)
      execution last turns more undecided (by simp [failed]) ran
  obtain ⟨next, stepped, same⟩ := Option.map_eq_some_iff.mp advanced
  cases same
  have passed := sound.replay before moment first early
  -- The failure that the caller decides on here is the one that it returns.
  obtain ⟨cause, decided⟩ := Option.ne_none_iff_exists'.mp gone
  have kept := ((passed.step stepped).kept_replay after last third late).2 cause decided
  rw [failed] at kept
  rw [← kept] at decided
  obtain ⟨up, down⟩ := (passed.toSound.transition stepped).takes_of_failure phase held decided
  exact ⟨moment, before, turn, after, first, next, split, early, stepped, up, down⟩

/-- A run that is interrupted before its gate is opened runs nothing and leaves nothing behind: the
gate was never open, all jobs were taken and let go, each once, nothing was written or counted, all
workers have exited and are joined, and nothing can happen any more. And it is the gate, as it
stands when the interrupt is taken, that tells the phase of an interrupt. -/
theorem readiness_interrupt (opening : Opening τ) (extensions : List (Extension τ))
    {interrupt : Interrupt} (runner : Runner τ)
    (built : Runner.build opening extensions interrupt = .ok runner) (now : Instant)
    (turns : List (Turn α)) (execution : Execution τ α) (notes : List (RunNote τ α))
    (ran : GatedRun.replay advance (start runner.tasks runner.config now).1 turns =
      some (execution, notes)) (result : Except RunError (ResultSet α))
    (returned : execution.result? = some result) :
    (result = .error (.interrupted .readiness) →
      execution.gate.state = .abandoned ∧
      (∀ (before after : List (Turn α)) (moment : Execution τ α) (told : List (RunNote τ α)),
        turns = before ++ after →
        GatedRun.replay advance (start runner.tasks runner.config now).1 before =
          some (moment, told) →
        moment.gate.state ≠ .opened ∧ moment.slots = Slots.empty runner.taskCount ∧
        moment.done.count = runner.taskCount ∧ ∀ index, bodyEvents index told = []) ∧
      (takes notes).map Prod.snd = List.range runner.taskCount ∧
      (skips notes).Perm (takes notes) ∧ execution.pool.queue = [] ∧
      execution.slots = Slots.empty runner.taskCount ∧ execution.done.count = runner.taskCount ∧
      execution.pool.workers = List.replicate runner.poolSize .exited ∧
      execution.pool.joined = runner.poolSize ∧ (∀ index, bodyEvents index notes = []) ∧
      ∀ (raised : Bool) (later : Instant) (move : RunMove α),
        execution.step raised later move = none) ∧
    (∀ phase, result = .error (.interrupted phase) →
      ∃ moment, (start runner.tasks runner.config now).1.TakesInterrupt turns moment) ∧
    ∀ moment, (start runner.tasks runner.config now).1.TakesInterrupt turns moment →
      ∃ phase, result = .error (.interrupted phase) ∧
        (phase = .readiness ↔ moment.gate.state ≠ .opened) := by
  have runs := Runner.build_sound opening extensions runner built
  have begun := start_soundFor (α := α) runner runs now
  have undecided : (start (α := α) runner.tasks runner.config now).1.caller.failure? = none := by
    rw [start_eq runner runs now]
    rfl
  refine ⟨?_, ?_, ?_⟩
  · rintro rfl
    have sound := begun.replay turns execution notes ran
    have resting := begun.resting_replay (start_resting _ _ _) turns execution notes ran
    have turned := begun.turnedBack_replay (start_turnedBack runner runs now) turns execution notes
      ran
    obtain ⟨quiet, gate, jobs, skipped, empty, exited, joined⟩ :=
      sound.toSound.withdrawn turned returned
    rw [sound.taskCount] at jobs
    rw [sound.poolSize] at exited joined
    have shut : execution.gate.state ≠ .opened := by simp [gate]
    -- Nothing that a run without an open gate could have done is done at any moment of it.
    have nothing (before : List (Turn α)) (moment : Execution τ α) (told : List (RunNote τ α))
        (early : GatedRun.replay advance (start runner.tasks runner.config now).1 before =
          some (moment, told)) (shut : moment.gate.state ≠ .opened) :
        moment.slots = Slots.empty runner.taskCount ∧ moment.done.count = runner.taskCount ∧
          ∀ index, bodyEvents index told = [] := by
      have passed := begun.replay before moment told early
      refine ⟨?_, ?_, passed.ranNone shut⟩
      · rw [passed.toSound.slots_empty shut, passed.taskCount]
      · rw [passed.counted.idle shut, passed.taskCount]
    obtain ⟨slots, done, silent⟩ := nothing turns execution notes ran shut
    refine ⟨gate, ?_, jobs, skipped, empty, slots, done, exited, joined, silent, ?_⟩
    · rintro before after moment told rfl early
      have closed := begun.shut_before before after execution moment notes told ran early shut
      exact ⟨closed, nothing before moment told early closed⟩
    · exact resting.halted (by rw [isQuiet, returned, quiet]; rfl)
  · rintro phase rfl
    exact begun.interrupt_of_result undecided turns execution notes ran phase returned
  · intro moment took
    exact begun.result_of_interrupt turns execution moment notes ran took result returned

/-- The second worker has come to the gate and sleeps there when the interrupt is taken. The pool is
closed, and its two workers take the jobs that are left. -/
def trioWithdrawal : List (Turn Nat) :=
  let calm : List (RunMove Nat) → List (Turn Nat) := List.map (Turn.mk false 2)
  List.flatten [calm (List.replicate 10 (.call .given)), calm (List.replicate 4 (.work 1)),
    [{ raised := true, now := 2, move := .call .given }], calm (List.replicate 2 (.call .given)),
    calm (List.replicate 3 (.work 1)), calm (List.replicate 15 (.work 0)),
    calm (List.replicate 3 (.work 1)), calm (List.replicate 3 (.call .given))]

theorem readiness_interrupt_trio : ∃ (execution moment : Execution Nat Nat)
    (notes : List (RunNote Nat Nat)),
    GatedRun.replay advance (start trioRunner.tasks trioRunner.config 1).1 trioWithdrawal =
      some (execution, notes) ∧
    execution.result? = some (.error (.interrupted .readiness)) ∧
    skips notes = [(1, 0), (0, 1), (0, 2)] ∧ (skips notes).Perm (takes notes) ∧
    execution.pool.workers = [.exited, .exited] ∧
    (start trioRunner.tasks trioRunner.config 1).1.TakesInterrupt trioWithdrawal moment ∧
    moment.gate.state ≠ .opened := by
  have shown : (GatedRun.replay advance (start trioRunner.tasks trioRunner.config 1).1
      trioWithdrawal).map (fun last => (last.1.result?, skips last.2)) =
        some (some (.error (.interrupted .readiness)), [(1, 0), (0, 1), (0, 2)]) := rfl
  obtain ⟨⟨execution, notes⟩, ran, figures⟩ := Option.map_eq_some_iff.mp shown
  obtain ⟨returned, skipped⟩ := Prod.mk.inj figures
  obtain ⟨withdrawn, taken, told⟩ := readiness_interrupt (.tasks [3, 4, 5]) [.threadCount 2]
    trioRunner rfl 1 _ _ _ ran _ returned
  obtain ⟨-, -, -, perm, -, -, -, exited, -⟩ := withdrawn rfl
  obtain ⟨moment, took⟩ := taken .readiness rfl
  obtain ⟨phase, same, gate⟩ := told moment took
  obtain rfl : phase = .readiness := by simpa using same.symm
  exact ⟨execution, moment, notes, ran, returned, skipped, perm, exited, took, gate.mp rfl⟩

end Execution

end GatedRun
