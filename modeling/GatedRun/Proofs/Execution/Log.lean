import GatedRun.Proofs.Execution.Journal
import GatedRun.Proofs.Session.Delivery

/-!
# The log of a run

What a run has logged once all its workers are over, up to order. It is told by the runner, by the
way in which the run has returned, and by the outcomes; the schedule has no part in it.
-/

namespace GatedRun

variable {τ α : Type}

/-! ### The parts of a log -/

namespace Runner

def startEvents (runner : Runner τ) : List Event :=
  [.runStarting runner.taskCount runner.poolSize,
    .poolStarted runner.poolSize runner.config.threadNamePrefix]

def parkEvents (runner : Runner τ) : List Event := (List.range runner.taskCount).map Event.parked

def skipEvents (runner : Runner τ) : List Event := (List.range runner.taskCount).map Event.skipped

/-- The exits of the first workers. -/
def exitEvents (runner : Runner τ) (workers : Nat) : List Event :=
  (List.range workers).map fun worker => .workerExiting (runner.config.workerName worker)

theorem exitEvents_nodup (runner : Runner τ) (workers : Nat) :
    (runner.exitEvents workers).Nodup := by
  refine List.Nodup.map ?_ List.nodup_range
  intro worker other same
  exact runner.config.workerName_injective (Event.workerExiting.inj same)

end Runner

/-- One event for each task that has failed. -/
def failureEvents (outcomes : List (Outcome α)) : List Event :=
  (List.range outcomes.length).filterMap fun index =>
    (outcomes[index]?.bind Outcome.failure?).map (Event.taskFailed index)

/-- The outcomes are those of the bodies that were called: one for each index, from the first on. -/
def Accounts (outcomes : List (Outcome α)) (notes : List (RunNote τ α)) : Prop :=
  ∀ index, (bodyEvents index notes = [] ∧ outcomes[index]? = none) ∨
    ∃ worker task result, bodyEvents index notes = [.called worker task, .ended worker result] ∧
      outcomes[index]? = some (Outcome.capture index result)

/-! ### Failures -/

def BodyEvent.isEnd : BodyEvent τ α → Bool
  | .ended _ _ => true
  | .called _ _ => false

theorem count_bodyEnds (index : Nat) (notes : List (RunNote τ α)) :
    ((notes.filterMap RunNote.bodyEnd?).map Prod.fst).count index =
      (bodyEvents index notes).countP BodyEvent.isEnd := by
  induction notes with
  | nil => rfl
  | cons note notes ih =>
    rw [bodyEvents_cons, List.countP_append, ← ih, filterMap_cons_toList, List.map_append,
      List.count_append]
    congr 1
    cases note with
    | bodyCalled worker other task =>
      by_cases same : other = index <;> simp [same, BodyEvent.isEnd]
    | bodyEnded worker other result =>
      by_cases same : other = index <;> simp [same, BodyEvent.isEnd]
    | _ => rfl

theorem mem_bodyEnds (index : Nat) (result : BodyResult α) (notes : List (RunNote τ α)) :
    (index, result) ∈ notes.filterMap RunNote.bodyEnd? ↔
      ∃ worker, .ended worker result ∈ bodyEvents index notes := by
  simp only [ended_mem_bodyEvents, List.mem_filterMap]
  constructor
  · rintro ⟨note, member, told⟩
    cases note with
    | bodyEnded worker other own =>
      cases told
      exact ⟨worker, member⟩
    | _ => cases told
  · rintro ⟨worker, member⟩
    exact ⟨_, member, rfl⟩

/-- Each body has ended once, so each failure is logged once. -/
theorem failures_perm (outcomes : List (Outcome α)) (notes : List (RunNote τ α))
    (accounts : Accounts outcomes notes) :
    ((notes.filterMap RunNote.bodyEnd?).filterMap fun ended =>
      (Outcome.capture ended.1 ended.2).failure?.map (Event.taskFailed ended.1)).Perm
        (failureEvents outcomes) := by
  have once : ((notes.filterMap RunNote.bodyEnd?).map Prod.fst).Nodup := by
    rw [List.nodup_iff_count_le_one]
    intro index
    rw [count_bodyEnds]
    rcases accounts index with ⟨none, -⟩ | ⟨worker, task, result, events, -⟩
    · simp [none]
    · simp [events, BodyEvent.isEnd]
  refine (List.perm_ext_iff_of_nodup ?_ ?_).mpr ?_
  · refine List.Nodup.filterMap ?_ (List.Nodup.of_map _ once)
    rintro ⟨index, result⟩ ⟨index', result'⟩ event first second
    cases result <;> cases first <;> cases result' <;> cases second <;> rfl
  · refine List.Nodup.filterMap ?_ List.nodup_range
    intro index index' event first second
    obtain ⟨failure, -, rfl⟩ := Option.map_eq_some_iff.mp first
    obtain ⟨failure', -, same⟩ := Option.map_eq_some_iff.mp second
    exact (Event.taskFailed.inj same).1.symm
  · intro event
    rw [failureEvents, List.mem_filterMap, List.mem_filterMap]
    constructor
    · rintro ⟨⟨index, result⟩, member, said⟩
      obtain ⟨worker, ended⟩ := (mem_bodyEnds index result notes).mp member
      rcases accounts index with ⟨none, -⟩ | ⟨own, task, result', events, outcome⟩
      · rw [none] at ended
        cases ended
      · obtain ⟨-, rfl⟩ : worker = own ∧ result = result' := by simpa [events] using ended
        have below := (List.getElem?_eq_some_iff.mp outcome).1
        exact ⟨index, List.mem_range.mpr below, by rw [outcome]; exact said⟩
    · rintro ⟨index, -, said⟩
      rcases accounts index with ⟨-, none⟩ | ⟨worker, task, result, events, outcome⟩
      · rw [none] at said
        cases said
      · rw [outcome] at said
        have ended := (mem_bodyEnds index result notes).mpr ⟨worker, by simp [events]⟩
        exact ⟨(index, result), ended, said⟩

namespace Execution

variable {runner : Runner τ} {execution : Execution τ α} {notes : List (RunNote τ α)}

/-! ### What the workers have logged -/

/-- Once all tasks are taken and no worker has a job, each job has been parked once. -/
theorem Parked.perm (parked : execution.Parked notes) (quiet : execution.pool.isQuiet = true)
    (count : Nat) (all : (takes notes).map Prod.snd = List.range count) :
    (notes.filterMap RunNote.park?).Perm (List.range count) := by
  rw [List.perm_iff_count]
  intro index
  have idle := Pool.countP_of_quiet quiet (WorkerPhase.isArrivingAt index) fun phase arriving => by
    cases phase with
    | running => rfl
    | _ => cases arriving
  have same := parked index
  rw [idle, all] at same
  exact same

/-- Nobody dies, so whoever is over has exited and has said so. -/
theorem Departed.perm (departed : execution.Departed notes)
    (crewed : execution.Crewed (takes notes)) (quiet : execution.pool.isQuiet = true) :
    (notes.filterMap RunNote.exit?).Perm ((List.range execution.pool.workers.length).map
      fun worker => (worker, execution.config.workerName worker)) := by
  refine (List.perm_ext_iff_of_nodup departed.nodup ?_).mpr ?_
  · exact List.Nodup.map (fun _ _ same => congrArg Prod.fst same) List.nodup_range
  rintro ⟨worker, name⟩
  rw [departed.named, List.mem_map]
  constructor
  · rintro ⟨at_, rfl⟩
    exact ⟨worker, List.mem_range.mpr (List.getElem?_eq_some_iff.mp at_).1, rfl⟩
  · rintro ⟨other, below, same⟩
    obtain ⟨rfl, rfl⟩ := Prod.mk.inj same
    obtain ⟨phase, held⟩ : ∃ phase, execution.pool.workers[other]? = some phase :=
      ⟨_, List.getElem?_eq_getElem (List.mem_range.mp below)⟩
    have ended := Pool.isQuiet_iff.mp quiet phase (List.mem_of_getElem? held)
    have crew := crewed _ _ held
    refine ⟨?_, rfl⟩
    rw [held]
    cases phase with
    | exited => rfl
    | dead => exact crew.elim
    | _ => cases ended

/-! ### The outcomes -/

/-- Behind an open gate, once all workers are over, what was filed are the outcomes. -/
theorem Sound.accounts (sound : execution.Sound notes) (opened : execution.gate.state = .opened)
    (quiet : execution.pool.isQuiet = true) :
    execution.kept.filed.length = execution.taskCount ∧
      Accounts execution.kept.filed notes := by
  have full : execution.kept.filed.map some = execution.kept.outcomes := by
    apply execution.kept.map_some_filed
    intro index below
    rw [sound.recorded.sizes.1] at below
    obtain ⟨-, -, -, result, -, -, -, outcome, -⟩ := sound.filed opened quiet index below
    simp [outcome]
  have length : execution.kept.filed.length = execution.taskCount := by
    rw [← sound.recorded.sizes.1, ← full, List.length_map]
  refine ⟨length, ?_⟩
  intro index
  by_cases below : index < execution.taskCount
  · obtain ⟨worker, task, -, result, -, -, events, outcome, -⟩ :=
      sound.filed opened quiet index below
    refine .inr ⟨worker, task, result, events, ?_⟩
    rw [Slots.outcome?, ← full, List.getElem?_map] at outcome
    simpa [Option.join_eq_some_iff] using outcome
  · have above := Nat.not_lt.mp below
    refine .inl ⟨sound.no_events_above index above, ?_⟩
    exact List.getElem?_eq_none (length ▸ above)

/-- Behind a gate that was not opened there are no outcomes. -/
theorem Sound.accounts_nil (sound : execution.Sound notes) (shut : execution.gate.state ≠ .opened) :
    Accounts [] notes :=
  fun index => .inl ⟨sound.ranNone shut index, rfl⟩

/-! ### The log -/

/-- The log of a run without workers that are not over, up to order. -/
theorem Journal.log_perm (journal : execution.Journal notes) (sound : execution.Sound notes)
    (quiet : execution.pool.isQuiet = true) (outcomes : List (Outcome α))
    (accounts : Accounts outcomes notes) (count : Nat)
    (all : (takes notes).map Prod.snd = List.range count) : ∃ pending,
      pending ≤ execution.taskCount ∧ (events notes).Perm (execution.callerLog pending ++
        ((List.range count).map Event.parked ++
        ((skips notes).map (fun skip => Event.skipped skip.2) ++ (failureEvents outcomes ++
        (List.range execution.pool.workers.length).map fun worker =>
          .workerExiting (execution.config.workerName worker))))) := by
  obtain ⟨pending, few, said⟩ := journal.chronicled
  refine ⟨pending, few, (events_perm notes journal.expected).trans ?_⟩
  rw [said]
  have parks := (journal.parked.perm quiet count all).map Event.parked
  have failures : ((notes.filterMap RunNote.failure?).map fun failed =>
      Event.taskFailed failed.1 failed.2).Perm (failureEvents outcomes) := by
    have logged := failures_perm outcomes notes accounts
    rw [journal.failures, List.map_filterMap]
    simpa [Option.map_map, Function.comp_def] using logged
  have exits := (journal.departed.perm sound.crewed quiet).map fun exit =>
    Event.workerExiting exit.2
  rw [List.map_map] at exits
  exact .append_left _ (parks.append (.append_left _ (failures.append exits)))

/-- What comes before the last event of a log. -/
private theorem earlier_of_last (log caller rest : List Event) (last : Event)
    (ends : log.getLast? = some last) (logged : log.Perm (caller ++ [last] ++ rest)) :
    ∃ earlier, log = earlier ++ [last] ∧ earlier.Perm (caller ++ rest) := by
  have split := (List.dropLast_append_getLast? last ends).symm
  refine ⟨log.dropLast, split, ?_⟩
  rw [split, List.perm_iff_count] at logged
  rw [List.perm_iff_count]
  intro event
  have same := logged event
  simp only [List.count_append] at same ⊢
  omega

theorem SoundFor.log_of_ok (sound : SoundFor runner execution notes)
    (journal : execution.Journal notes) (results : ResultSet α)
    (returned : execution.result? = some (.ok results)) : ∃ earlier,
      events notes = earlier ++
        [.runFinished results.successCount results.failureCount runner.taskCount] ∧
      earlier.Perm (runner.startEvents ++ [.gateOpened runner.poolSize] ++ (runner.parkEvents ++
        (failureEvents results.outcomes ++ runner.exitEvents runner.poolSize))) := by
  have caller := (result?_eq_some_iff _).mp returned
  have placed := sound.staged.placedAt caller
  have gate : execution.gate.state = .opened := sound.gate_of_result _ returned
  have stage : execution.pool.stage = .closed := by simpa [CallerPhase.Admits] using placed.stage
  have quiet := sound.staged.quiet_of_joined (placed.joined rfl)
  have manned := sound.staged.manned_of_opened gate
  have empty := sound.crewed.queue_empty quiet (manned ▸ sound.staged.positive)
  have all := sound.queued.indices
  rw [sound.queued.all_taken placed.submitted empty, sound.taskCount] at all
  have kept : execution.kept.filed = results.outcomes := by
    simp [Execution.kept, caller, Slots.filed]
  have accounts := (sound.accounts gate quiet).2
  rw [kept] at accounts
  have unskipped := journal.unskipped (by simp [gate])
  obtain ⟨pending, -, logged⟩ := journal.log_perm sound.toSound quiet _ accounts _ all
  have ends := journal.final pending _ (by rw [caller]; rfl)
  apply earlier_of_last _ _ _ _ (sound.taskCount ▸ ends)
  simp only [callerLog, stage, gate, caller, unskipped, manned] at logged
  simpa [sound.taskCount, sound.poolSize, sound.config, PoolStage.hasOpened, CallerPhase.closing,
    Runner.startEvents, Runner.parkEvents, Runner.exitEvents] using logged

theorem SoundFor.log_of_readiness (sound : SoundFor runner execution notes)
    (journal : execution.Journal notes) (turned : execution.TurnedBack notes)
    (returned : execution.result? = some (.error (.interrupted .readiness))) : ∃ earlier,
      events notes = earlier ++ [.runInterrupted .readiness] ∧
      earlier.Perm (runner.startEvents ++ (runner.parkEvents ++ (runner.skipEvents ++
        runner.exitEvents runner.poolSize))) := by
  have caller := (result?_eq_some_iff _).mp returned
  obtain ⟨quiet, gate, all, skipped, -, exited, -⟩ := sound.toSound.withdrawn turned returned
  have stage : execution.pool.stage = .closed := by
    simpa [CallerPhase.Admits] using (sound.staged.placedAt caller).stage
  have manned : execution.pool.workers.length = execution.poolSize := by
    rw [exited, List.length_replicate]
  have accounts := sound.toSound.accounts_nil (by simp [gate])
  rw [sound.taskCount] at all
  obtain ⟨pending, -, logged⟩ := journal.log_perm sound.toSound quiet _ accounts _ all
  have skips : ((skips notes).map fun skip => Event.skipped skip.2).Perm runner.skipEvents := by
    have indices := (skipped.map Prod.snd).map Event.skipped
    rw [all, List.map_map] at indices
    exact indices
  have ends := journal.final pending _ (by rw [caller]; rfl)
  apply earlier_of_last _ _ _ _ ends
  have logged := logged.trans (.append_left _ (.append_left _ (skips.append_right _)))
  simp only [callerLog, stage, gate, caller, manned] at logged
  simpa [sound.taskCount, sound.poolSize, sound.config, PoolStage.hasOpened, CallerPhase.closing,
    failureEvents, Runner.startEvents, Runner.parkEvents, Runner.exitEvents] using logged

theorem SoundFor.log_of_completion (sound : SoundFor runner execution notes)
    (journal : execution.Journal notes)
    (returned : execution.result? = some (.error (.interrupted .completion)))
    (quiet : execution.pool.isQuiet = true) : ∃ (outcomes : List (Outcome α)) (pending : Nat),
      outcomes.length = runner.taskCount ∧ Accounts outcomes notes ∧ pending ≤ runner.taskCount ∧
      (events notes).Perm (runner.startEvents ++ [.gateOpened runner.poolSize] ++
        [.poolDetached runner.poolSize pending, .runInterrupted .completion] ++
        (runner.parkEvents ++ (failureEvents outcomes ++ runner.exitEvents runner.poolSize))) := by
  have caller := (result?_eq_some_iff _).mp returned
  have placed := sound.staged.placedAt caller
  have gate : execution.gate.state = .opened := sound.gate_of_result _ returned
  have stage : execution.pool.stage = .detached := by simpa [CallerPhase.Admits] using placed.stage
  have manned := sound.staged.manned_of_opened gate
  have empty := sound.crewed.queue_empty quiet (manned ▸ sound.staged.positive)
  have all := sound.queued.indices
  rw [sound.queued.all_taken placed.submitted empty, sound.taskCount] at all
  obtain ⟨length, accounts⟩ := sound.accounts gate quiet
  have unskipped := journal.unskipped (by simp [gate])
  obtain ⟨pending, few, logged⟩ := journal.log_perm sound.toSound quiet _ accounts _ all
  refine ⟨_, pending, sound.taskCount ▸ length, accounts, sound.taskCount ▸ few, ?_⟩
  simp only [callerLog, stage, gate, caller, unskipped, manned] at logged
  simpa [sound.taskCount, sound.poolSize, sound.config, PoolStage.hasOpened, CallerPhase.closing,
    Runner.startEvents, Runner.parkEvents, Runner.exitEvents] using logged

/-- A run whose pool could not be started has started some of its workers, and joined them. -/
theorem SoundFor.log_of_spawn (sound : SoundFor runner execution notes)
    (journal : execution.Journal notes) (fault : SpawnFault)
    (returned : execution.result? = some (.error (.spawn fault))) : ∃ started,
      started < runner.poolSize ∧ (events notes).Perm
        (.runStarting runner.taskCount runner.poolSize :: runner.exitEvents started) := by
  have caller := (result?_eq_some_iff _).mp returned
  have placed := sound.staged.placedAt caller
  have gate : execution.gate.state = .closed := sound.gate_of_result _ returned
  have stage : execution.pool.stage = .retreating fault := placed.stage
  have quiet := sound.staged.quiet_of_joined (placed.joined rfl)
  have manned := sound.staged.manned
  simp only [stage, Manned, sound.poolSize] at manned
  have none : takes notes = [] := by
    have total := sound.queued.total
    rw [placed.submitted.1] at total
    exact List.eq_nil_of_length_eq_zero (by omega)
  have accounts := sound.toSound.accounts_nil (by simp [gate])
  have unskipped := journal.unskipped (by simp [gate])
  have all : (takes notes).map Prod.snd = List.range 0 := by rw [none]; rfl
  obtain ⟨pending, -, logged⟩ := journal.log_perm sound.toSound quiet _ accounts 0 all
  refine ⟨execution.pool.workers.length, manned, ?_⟩
  simp only [callerLog, stage, gate, caller, unskipped] at logged
  simpa [sound.taskCount, sound.poolSize, sound.config, PoolStage.hasOpened, CallerPhase.closing,
    failureEvents, Runner.exitEvents] using logged

/-- The gate is open when the interrupt is taken. The pool is let go, and its two workers run all
three tasks. -/
def trioDetachment : List (Turn Nat) :=
  let calm : List (RunMove Nat) → List (Turn Nat) := List.map (Turn.mk false 2)
  List.flatten [calm trioOpening, [{ raised := true, now := 2, move := .call .given }],
    calm [.call .given, .work 1, .work 0, .bodyEnds 0 (.panicked .unit)],
    calm (List.replicate 8 (.work 0)), calm [.bodyEnds 0 (.failed (.text "no"))],
    calm (List.replicate 7 (.work 0)), calm [.bodyEnds 1 (.returned 5)],
    calm (List.replicate 7 (.work 1))]

end Execution

end GatedRun
