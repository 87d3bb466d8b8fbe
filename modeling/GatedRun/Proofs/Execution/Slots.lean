import GatedRun.Proofs.Execution.InFlight
import GatedRun.Proofs.Execution.Withdrawal

/-!
# Slots and the done latch

A job files its outcome and then counts the done latch down, in two steps between which all others
go on, and the caller takes the slots out in a third. No other step touches slots or latch
(`Sound.slotStep`), so how they stand hangs on these events alone (`Registered`). A job counts down
at most once, and not before it has filed (`Passed`, `Registered.written`), so that a latch at zero
leaves no slot empty; and as a slot is only ever found empty by the job that fills it, what is filed
stays as it is until it is taken.
-/

namespace GatedRun

variable {τ α : Type}

/-! ### Events -/

/-- What can happen to the slots and to the done latch. -/
inductive SlotEvent (α : Type) where
  /-- The job of the task at an index fills both its slots. -/
  | filed (index : Nat) (since : Instant) (outcome : Outcome α)
  /-- The job of the task at an index counts the done latch down. -/
  | counted (index : Nat)
  /-- The caller takes the slots out. -/
  | taken
  deriving DecidableEq, Repr

namespace SlotEvent

@[simp] def filing? : SlotEvent α → Option (Nat × Instant × Outcome α)
  | .filed index since outcome => some (index, since, outcome)
  | _ => none

@[simp] def countDown? : SlotEvent α → Option Nat
  | .counted index => some index
  | _ => none

@[simp] def isTaking : SlotEvent α → Bool
  | .taken => true
  | _ => false

end SlotEvent

/-- What was filed, in order. -/
def filings (events : List (SlotEvent α)) : List (Nat × Instant × Outcome α) :=
  events.filterMap SlotEvent.filing?

/-- The jobs that have counted down, in order. -/
def countDowns (events : List (SlotEvent α)) : List Nat := events.filterMap SlotEvent.countDown?

/-- How often the slots were taken out. -/
def takings (events : List (SlotEvent α)) : Nat := events.countP SlotEvent.isTaking

@[simp] theorem filings_nil : filings ([] : List (SlotEvent α)) = [] := rfl

@[simp] theorem filings_cons (event : SlotEvent α) (events : List (SlotEvent α)) :
    filings (event :: events) = event.filing?.toList ++ filings events :=
  filterMap_cons_toList _ event events

@[simp] theorem filings_append (events more : List (SlotEvent α)) :
    filings (events ++ more) = filings events ++ filings more :=
  List.filterMap_append

@[simp] theorem countDowns_nil : countDowns ([] : List (SlotEvent α)) = [] := rfl

@[simp] theorem countDowns_cons (event : SlotEvent α) (events : List (SlotEvent α)) :
    countDowns (event :: events) = event.countDown?.toList ++ countDowns events :=
  filterMap_cons_toList _ event events

@[simp] theorem countDowns_append (events more : List (SlotEvent α)) :
    countDowns (events ++ more) = countDowns events ++ countDowns more :=
  List.filterMap_append

@[simp] theorem takings_nil : takings ([] : List (SlotEvent α)) = 0 := rfl

@[simp] theorem takings_cons (event : SlotEvent α) (events : List (SlotEvent α)) :
    takings (event :: events) = takings events + if event.isTaking then 1 else 0 :=
  List.countP_cons

@[simp] theorem takings_append (events more : List (SlotEvent α)) :
    takings (events ++ more) = takings events + takings more :=
  List.countP_append

namespace WorkerPhase

/-- What the worker does to slots or latch when it goes on. -/
def slotEvent? : WorkerPhase (RunJob τ α) → Option (SlotEvent α)
  | .running ⟨index, _, .filing since outcome⟩ => some (.filed index since outcome)
  | .running ⟨index, _, .counting⟩ => some (.counted index)
  | _ => none

/-- Whether the worker has a job of that index which is not past the latch. -/
def isBusyAt (index : Nat) (phase : WorkerPhase (RunJob τ α)) : Bool :=
  phase.isBusy && phase.runs index

end WorkerPhase

namespace CallerPhase

theorem hasResults_of_drains {caller : CallerPhase α} (drains : caller.drains = true) :
    caller.hasResults = false := by
  cases caller with
  | withdrawing cause => rfl
  | gathering => rfl
  | _ => cases drains

theorem hasResults_iff (caller : CallerPhase α) :
    caller.hasResults = true ↔ ∃ results, caller = .returned (.ok results) := by
  constructor
  · intro delivered
    cases caller with
    | returned result =>
      cases result with
      | ok results => exact ⟨results, rfl⟩
      | error cause => cases delivered
    | _ => cases delivered
  · rintro ⟨results, rfl⟩
    rfl

end CallerPhase

namespace Slots

/-- Both slots of an index are filled. -/
def Holds (slots : Slots α) (index : Nat) (since : Instant) (outcome : Outcome α) : Prop :=
  slots.outcome? index = some outcome ∧ slots.start? index = some since

theorem not_holds_of_isVacant {slots : Slots α} {index : Nat} (vacant : slots.IsVacant index)
    (since : Instant) (outcome : Outcome α) : ¬ slots.Holds index since outcome := by
  rintro ⟨held, -⟩
  rw [vacant.1] at held
  cases held

theorem Holds.unique {slots : Slots α} {index : Nat} {one other : Instant}
    {first second : Outcome α} (holds : slots.Holds index one first)
    (again : slots.Holds index other second) : one = other ∧ first = second :=
  ⟨Option.some.inj (holds.2.symm.trans again.2), Option.some.inj (holds.1.symm.trans again.1)⟩

theorem Holds.below {slots : Slots α} {index : Nat} {since : Instant} {outcome : Outcome α}
    (holds : slots.Holds index since outcome) : index < slots.outcomes.length := by
  obtain ⟨filed, -⟩ := holds
  rw [outcome?, Option.join_eq_some_iff] at filed
  exact (List.getElem?_eq_some_iff.mp filed).1

end Slots

namespace Execution

/-- What a move of the execution does to slots or latch. -/
def slotEvent? (execution : Execution τ α) : RunMove α → Option (SlotEvent α)
  | .work worker => execution.pool.workers[worker]?.bind WorkerPhase.slotEvent?
  | .call _ =>
    match execution.caller with
    | .gathering => if execution.pool.isShut then some .taken else none
    | _ => none
  | _ => none

/-- All that happens to slots and latch along some turns. -/
def slotEvents (first : Execution τ α) (turns : List (Turn α)) : List (SlotEvent α) :=
  observed advance (fun execution turn => execution.slotEvent? turn.move) first turns

variable {runner : Runner τ} {execution after : Execution τ α} {notes more : List (RunNote τ α)}
  {events : List (SlotEvent α)} {raised : Bool} {now : Instant} {move : RunMove α}
  {next : Stepped τ α}

/-! ### Steps -/

/-- What a step does to slots and latch, by what is seen of it. -/
inductive SlotStep (execution after : Execution τ α) :
    RunMove α → Option (SlotEvent α) → Prop where
  /-- A job that has its outcome finds both its slots there and empty, and fills them. -/
  | filed (worker index : Nat) (task : τ) (since : Instant) (outcome : Outcome α)
      (runs : execution.job? worker = some ⟨index, task, .filing since outcome⟩)
      (own : execution.tasks[index]? = some task)
      (inRange : index < execution.slots.outcomes.length ∧
        index < execution.slots.startedAt.length)
      (vacant : execution.slots.IsVacant index)
      (slots : after.slots = execution.slots.file index since outcome)
      (done : after.done = execution.done) (caller : after.caller = execution.caller) :
      SlotStep execution after (.work worker) (some (.filed index since outcome))
  /-- A job that has filled its slots counts the latch down, which is above zero. -/
  | counted (worker index : Nat) (task : τ) (since : Instant) (outcome : Outcome α)
      (runs : execution.job? worker = some ⟨index, task, .counting⟩)
      (own : execution.tasks[index]? = some task)
      (holds : execution.slots.Holds index since outcome)
      (slots : after.slots = execution.slots)
      (done : execution.done.count = after.done.count + 1)
      (caller : after.caller = execution.caller) :
      SlotStep execution after (.work worker) (some (.counted index))
  /-- The caller finds the latch at zero, takes the slots out and hands them over. -/
  | taken (grant : Grant) (results : ResultSet α) (at_ : execution.caller = .gathering)
      (zero : execution.done.count = 0) (slots : after.slots = .emptied)
      (done : after.done = execution.done) (caller : after.caller = .returned (.ok results))
      (outcomes : results.outcomes = execution.slots.filed)
      (starts : results.stats.startedAt = execution.slots.startedAt) :
      SlotStep execution after (.call grant) (some .taken)
  /-- Nothing is seen of any other step, and it leaves both alone. -/
  | other (move : RunMove α) (slots : after.slots = execution.slots)
      (done : after.done = execution.done)
      (results : ∀ results, after.caller = .returned (.ok results) ↔
        execution.caller = .returned (.ok results)) :
      SlotStep execution after move none

private theorem slotEvent?_work (worker : Nat) (phase : WorkerPhase (RunJob τ α))
    (at_ : execution.pool.workers[worker]? = some phase) :
    execution.slotEvent? (.work worker) = phase.slotEvent? := by
  rw [slotEvent?, at_]
  rfl

/-- The caller's step that touches neither slots nor latch, and hands nothing over. -/
private theorem slotStep_of_call (grant : Grant) (silent : execution.slotEvent? (.call grant) =
      none) (slots : after.slots = execution.slots) (done : after.done = execution.done)
    (before : execution.caller.hasResults = false) (then_ : after.caller.hasResults = false) :
    SlotStep execution after (.call grant) (execution.slotEvent? (.call grant)) := by
  rw [silent]
  refine .other _ slots done fun results => ⟨fun returned => ?_, fun returned => ?_⟩
  · rw [returned] at then_
    cases then_
  · rw [returned] at before
    cases before

private theorem slotStep_of_work (worker : Nat) (phase : WorkerPhase (RunJob τ α))
    (at_ : execution.pool.workers[worker]? = some phase) (silent : phase.slotEvent? = none)
    (slots : after.slots = execution.slots) (done : after.done = execution.done)
    (caller : after.caller = execution.caller) :
    SlotStep execution after (.work worker) (execution.slotEvent? (.work worker)) := by
  rw [slotEvent?_work worker phase at_, silent]
  exact .other _ slots done fun results => by rw [caller]

/-- A job that is about to count down finds the latch above zero. -/
theorem Sound.done_pos (sound : execution.Sound notes) (worker index : Nat) (task : τ)
    (at_ : execution.pool.workers[worker]? = some (.running ⟨index, task, .counting⟩)) :
    0 < execution.done.count := by
  have opened : execution.gate.state = .opened := (sound.crewed worker _ at_).2.2
  have few := sound.staged.submitted_le sound.queued
  have total := sound.counted.done (by simp [opened])
  have here : 0 < execution.pool.workers.countP WorkerPhase.isBusy :=
    List.countP_pos_iff.mpr ⟨_, List.mem_of_getElem? at_, rfl⟩
  omega

theorem Sound.slotStep (sound : execution.Sound notes)
    (transition : execution.Transition raised now move next) :
    SlotStep execution next.execution move (execution.slotEvent? move) := by
  cases transition with
  | filed worker index task since outcome at_ =>
    rw [slotEvent?_work worker _ at_]
    obtain ⟨-, own, -⟩ := sound.crewed worker _ at_
    have underway := sound.recorded.underway worker _ at_
    have sizes := sound.recorded.sizes
    have within : index < execution.taskCount := (List.getElem?_eq_some_iff.mp own).1
    have kept := kept_eq_slots (sound.staged.undelivered worker _ at_ rfl)
    simp only [Underway, kept] at underway sizes
    exact .filed worker index task since outcome ((job?_eq_some_iff worker _).mpr at_) own
      ⟨sizes.1 ▸ within, sizes.2 ▸ within⟩ underway.1 rfl rfl rfl
  | countedDone worker index task at_ =>
    rw [slotEvent?_work worker _ at_]
    obtain ⟨_, own, since, result, -, has, -, outcome, start⟩ :=
      sound.recorded.underway worker _ at_
    have kept := kept_eq_slots (sound.staged.undelivered worker _ at_ rfl)
    have above := sound.done_pos worker index task at_
    have counts := execution.done.count_countDown
    rw [kept] at outcome start
    exact .counted worker index task since _ ((job?_eq_some_iff worker _).mpr at_)
      (sound.crewed worker _ at_).2.1 ⟨outcome, start⟩ rfl
      (by change _ = execution.done.countDown.count + 1; omega) rfl
  | handedOver grant at_ stage joined =>
    have shut : execution.pool.isShut = true := by
      simp [Pool.isShut, Pool.isOpen, Pool.isJoined, stage, joined]
    simp only [slotEvent?, at_, shut, if_true]
    exact .taken grant (execution.results now) at_ ((sound.staged.placedAt at_).done rfl) rfl rfl
      rfl rfl rfl
  -- The caller is gathering, and not done with its pool yet.
  | closed grant at_ stage =>
    have going : execution.pool.isShut = false := by simp [Pool.isShut, Pool.isOpen, stage]
    have before := CallerPhase.hasResults_of_drains at_
    refine slotStep_of_call grant ?_ rfl rfl before before
    cases caller : execution.caller <;> simp [slotEvent?, caller, going]
  | joined grant at_ stage exited =>
    have below := (List.getElem?_eq_some_iff.mp exited).1
    have going : execution.pool.isShut = false := by
      simp [Pool.isShut, Pool.isJoined, Nat.ne_of_lt below]
    have before : execution.caller.hasResults = false := by
      rcases at_ with at_ | drains
      · rw [at_]
        rfl
      · exact CallerPhase.hasResults_of_drains drains
    refine slotStep_of_call grant ?_ rfl rfl before before
    cases caller : execution.caller <;> simp [slotEvent?, caller, going]
  | spawned at_ | poolOpened at_ | refused fault at_ | retreated _ _ at_ | launched _ at_
  | counted _ _ _ at_ | sent _ _ _ at_ | allSubmitted _ _ at_ | sawReady _ at_ | cutReadiness _ at_
  | openedGate _ at_ | sawDone _ at_ | cutCompletion _ at_ | abandonedGate _ _ at_
  | withdrawn _ _ at_ | detached _ at_ =>
    refine slotStep_of_call _ ?_ rfl rfl ?_ ?_ <;>
      simp [slotEvent?, at_, CallerPhase.hasResults, toCaller]
  | locked worker at_ | took worker _ _ at_ | foundNone worker at_ | exited worker at_
  | reported worker at_ | arrived worker _ _ at_ | slept worker _ _ at_ | called worker _ _ at_
  | skipped worker _ _ at_ | finished worker _ _ at_ =>
    exact slotStep_of_work worker _ at_ rfl rfl rfl rfl
  | bodyEnded | woke => exact .other _ rfl rfl fun _ => Iff.rfl

/-! ### Jobs past the latch -/

private theorem countDowns_call (grant : Grant) :
    countDowns (execution.slotEvent? (.call grant)).toList = [] := by
  simp only [slotEvent?]
  split
  · split <;> rfl
  · rfl

/-- The jobs that have counted down are those taken that no worker is busy with any more, and only
behind an open gate there are any. -/
structure Passed (execution : Execution τ α) (notes : List (RunNote τ α)) (passed : List Nat) :
    Prop where
  balance : execution.gate.state ≠ .abandoned → ∀ index,
    passed.count index + execution.pool.workers.countP (WorkerPhase.isBusyAt index) =
      ((takes notes).map Prod.snd).count index
  shut : execution.gate.state ≠ .opened → passed = []

private theorem Passed.set {passed : List Nat} (worker : Nat)
    (old phase : WorkerPhase (RunJob τ α)) (held : execution.Passed notes passed)
    (went : WorkerStep execution after worker old phase) (own : List Nat)
    (shut : execution.gate.state ≠ .opened → own = [])
    (tally : execution.gate.state ≠ .abandoned → ∀ index,
      own.count index + (if phase.isBusyAt index then 1 else 0) =
        ((takes more).map Prod.snd).count index + (if old.isBusyAt index then 1 else 0)) :
    after.Passed (notes ++ more) (passed ++ own) := by
  refine ⟨fun going index => ?_, fun closed => ?_⟩
  · rw [went.gate] at going
    have before := held.balance going index
    have change := countP_set_add (WorkerPhase.isBusyAt index) _ worker old phase went.held
    have step := tally going index
    simp only [takes_append, List.map_append, List.count_append, went.workers]
    omega
  · rw [went.gate] at closed
    rw [held.shut closed, shut closed, List.append_nil]

private theorem Passed.transfer {passed : List Nat} (held : execution.Passed notes passed)
    (none : takes more = [])
    (workers : ∀ index, after.pool.workers.countP (WorkerPhase.isBusyAt index) =
      execution.pool.workers.countP (WorkerPhase.isBusyAt index))
    (gate : after.gate.state = execution.gate.state ∨ execution.gate.state = .closed) :
    after.Passed (notes ++ more) (passed ++ []) := by
  rw [List.append_nil]
  refine ⟨fun going index => ?_, fun closed => ?_⟩
  · rw [workers, takes_append, none, List.append_nil]
    apply held.balance
    rcases gate with same | closed
    · rw [← same]
      exact going
    · simp [closed]
  · apply held.shut
    rcases gate with same | closed
    · rw [← same]
      exact closed
    · simp [closed]

theorem Passed.step {passed : List Nat} (sound : execution.Sound notes)
    (held : execution.Passed notes passed)
    (transition : execution.Transition raised now move next) :
    next.execution.Passed (notes ++ next.notes)
      (passed ++ countDowns (execution.slotEvent? move).toList) := by
  have fixed := transition.fixed
  cases transition with
  | took worker job rest at_ queue =>
    rw [slotEvent?_work worker _ at_]
    obtain ⟨arriving, -⟩ := sound.queued.fresh job (by simp [queue])
    have shape : job = ⟨job.index, job.task, .arriving⟩ := by rw [← arriving]
    refine held.set worker _ (.running job) ⟨fixed, at_, rfl, rfl, rfl⟩ [] (fun _ => rfl) ?_
    intro _ index
    rw [shape]
    change 0 + (if job.index == index then 1 else 0) = [job.index].count index + 0
    rw [List.count_singleton, Nat.zero_add, Nat.add_zero]
  | countedDone worker own task at_ =>
    rw [slotEvent?_work worker _ at_]
    have opened : execution.gate.state = .opened := (sound.crewed worker _ at_).2.2
    refine held.set worker _ (.running ⟨own, task, .ended⟩) ⟨fixed, at_, rfl, rfl, rfl⟩ [own]
      (fun shut => absurd opened shut) ?_
    intro _ index
    change [own].count index + 0 = 0 + (if own == index then 1 else 0)
    rw [List.count_singleton, Nat.zero_add, Nat.add_zero]
  -- A job that is let go never comes to the latch, but that is behind an abandoned gate.
  | skipped worker own task at_ awake gate =>
    rw [slotEvent?_work worker _ at_]
    exact held.set worker _ (.running ⟨own, task, .ended⟩) ⟨fixed, at_, rfl, rfl, rfl⟩ []
      (fun _ => rfl) fun going => absurd gate going
  | locked worker at_ | foundNone worker at_ | exited worker at_ | reported worker at_
  | arrived worker _ _ at_ | called worker _ _ at_ | filed worker _ _ _ _ at_
  | finished worker _ _ at_ =>
    rw [slotEvent?_work worker _ at_]
    exact held.set worker _ _ ⟨fixed, at_, rfl, rfl, rfl⟩ [] (fun _ => rfl) fun _ _ => rfl
  | bodyEnded worker own task since result at_ =>
    cases result <;>
      exact held.set worker _ _ ⟨fixed, at_, rfl, rfl, rfl⟩ [] (fun _ => rfl) fun _ _ => rfl
  | slept worker _ _ at_ =>
    rw [slotEvent?_work worker _ at_]
    exact held.transfer rfl (fun _ => rfl) (.inl rfl)
  | woke => exact held.transfer rfl (fun _ => rfl) (.inl rfl)
  | spawned | poolOpened =>
    rw [countDowns_call]
    refine held.transfer rfl (fun index => ?_) (.inl rfl)
    simp [List.countP_append, WorkerPhase.isBusyAt, WorkerPhase.isBusy]
  | openedGate grant at_ | abandonedGate grant cause at_ =>
    rw [countDowns_call]
    exact held.transfer rfl (fun _ => rfl) (.inr (sound.staged.placedAt at_).gate)
  | withdrawn grant cause =>
    rw [countDowns_call]
    cases cause <;> exact held.transfer rfl (fun _ => rfl) (.inl rfl)
  | _ =>
    rw [countDowns_call]
    exact held.transfer rfl (fun _ => rfl) (.inl rfl)

theorem Passed.count_le {passed : List Nat} (sound : execution.Sound notes)
    (held : execution.Passed notes passed) (index : Nat) :
    passed.count index ≤ if index < (takes notes).length then 1 else 0 := by
  by_cases opened : execution.gate.state = .opened
  · have balance := held.balance (by simp [opened]) index
    rw [sound.queued.indices, List.nodup_range.count] at balance
    simp only [List.mem_range] at balance
    omega
  · simp [held.shut opened]

/-- No job counts down twice, and only those of the tasks do. -/
theorem Passed.nodup {passed : List Nat} (sound : execution.Sound notes)
    (held : execution.Passed notes passed) : passed.Nodup := by
  rw [List.nodup_iff_count_le_one]
  intro index
  have few := held.count_le sound index
  split at few <;> omega

theorem Passed.below {passed : List Nat} (sound : execution.Sound notes)
    (held : execution.Passed notes passed) (index : Nat) (member : index ∈ passed) :
    index < execution.taskCount := by
  have some := List.count_pos_iff.mpr member
  have few := held.count_le sound index
  have bound := sound.staged.submitted_le sound.queued
  split at few <;> omega

/-! ### What the events tell -/

/-- The slots and the latch stand as the events tell: each job that was filed holds its slots, also
after they were handed over, and all other slots are empty. -/
structure Registered (execution : Execution τ α) (events : List (SlotEvent α)) : Prop where
  latch : execution.done.count + (countDowns events).length = execution.taskCount
  written : ∀ index ∈ countDowns events, index ∈ (filings events).map Prod.fst
  once : ((filings events).map Prod.fst).Nodup
  holds : ∀ index since outcome, (index, since, outcome) ∈ filings events →
    execution.kept.Holds index since outcome
  vacant : ∀ index, index ∉ (filings events).map Prod.fst → execution.kept.IsVacant index
  takings : takings events = if execution.caller.hasResults then 1 else 0
  emptied : execution.caller.hasResults = true → execution.slots = .emptied

/-- What is held was filed. -/
theorem Registered.mem_filings (registered : execution.Registered events) (index : Nat)
    (since : Instant) (outcome : Outcome α) :
    (index, since, outcome) ∈ filings events ↔ execution.kept.Holds index since outcome := by
  refine ⟨registered.holds index since outcome, fun holds => ?_⟩
  by_cases filed : index ∈ (filings events).map Prod.fst
  · obtain ⟨⟨_, start, result⟩, member, rfl⟩ := List.mem_map.mp filed
    obtain ⟨rfl, rfl⟩ := (registered.holds _ start result member).unique holds
    exact member
  · exact absurd holds (Slots.not_holds_of_isVacant (registered.vacant index filed) since outcome)

/-- A latch at zero leaves no slot empty. -/
theorem Registered.full (registered : execution.Registered events)
    (sound : execution.Sound notes) (passed : execution.Passed notes (countDowns events))
    (zero : execution.done.count = 0) (index : Nat) (below : index < execution.taskCount) :
    ∃ since outcome, execution.kept.Holds index since outcome := by
  have inside : countDowns events ⊆ List.range execution.taskCount := fun own member =>
    List.mem_range.mpr (passed.below sound own member)
  have latch := registered.latch
  -- As many different jobs as there are tasks have counted down, so all of them have.
  have all := ((passed.nodup sound).subperm inside).perm_of_length_le (by simp; omega)
  have counted := all.mem_iff.mpr (List.mem_range.mpr below)
  obtain ⟨⟨_, since, outcome⟩, member, rfl⟩ := List.mem_map.mp (registered.written index counted)
  exact ⟨since, outcome, registered.holds _ since outcome member⟩

/-- A step that leaves the slots alone and hands nothing over keeps what is held. -/
private theorem kept_congr (slots : after.slots = execution.slots)
    (results : ∀ results, after.caller = .returned (.ok results) ↔
      execution.caller = .returned (.ok results)) :
    after.kept = execution.kept ∧ after.caller.hasResults = execution.caller.hasResults := by
  have same : after.caller.hasResults = execution.caller.hasResults := by
    rw [Bool.eq_iff_iff, CallerPhase.hasResults_iff, CallerPhase.hasResults_iff]
    exact exists_congr results
  refine ⟨?_, same⟩
  by_cases delivered : execution.caller.hasResults = true
  · obtain ⟨own, returned⟩ := (CallerPhase.hasResults_iff _).mp delivered
    simp only [kept, returned, (results own).mpr returned]
  · rw [Bool.not_eq_true] at delivered
    rw [kept_eq_slots delivered, kept_eq_slots (same.trans delivered), slots]

/-- When the latch is at zero, taking the outcomes out leaves none behind. -/
theorem Registered.map_some_filed (registered : execution.Registered events)
    (sound : execution.Sound notes) (passed : execution.Passed notes (countDowns events))
    (undelivered : execution.caller.hasResults = false) (zero : execution.done.count = 0) :
    execution.slots.filed.map some = execution.slots.outcomes := by
  have sizes := sound.recorded.sizes
  apply execution.slots.map_some_filed
  intro index below
  rw [kept_eq_slots undelivered] at sizes
  obtain ⟨since, outcome, held, -⟩ := registered.full sound passed zero index (sizes.1 ▸ below)
  rw [kept_eq_slots undelivered] at held
  simp [held]

/-- A job fills its slots: it finds them empty, so nothing was filed at its index before. -/
private theorem Registered.file (registered : execution.Registered events) (index : Nat)
    (since : Instant) (outcome : Outcome α)
    (inRange : index < execution.slots.outcomes.length ∧ index < execution.slots.startedAt.length)
    (vacant : execution.slots.IsVacant index) (before : execution.caller.hasResults = false)
    (caller : after.caller = execution.caller)
    (slots : after.slots = execution.slots.file index since outcome)
    (done : after.done = execution.done) (tasks : after.taskCount = execution.taskCount) :
    after.Registered (events ++ [.filed index since outcome]) := by
  have kept := kept_eq_slots before
  have then_ : after.caller.hasResults = false := caller ▸ before
  have kept' : after.kept = execution.slots.file index since outcome :=
    (kept_eq_slots then_).trans slots
  obtain ⟨latch, written, once, holds, empty, taken, -⟩ := registered
  rw [kept] at holds empty
  have fresh : index ∉ (filings events).map Prod.fst := by
    intro member
    obtain ⟨⟨_, start, result⟩, filed, rfl⟩ := List.mem_map.mp member
    exact Slots.not_holds_of_isVacant vacant start result (holds _ start result filed)
  refine ⟨?_, ?_, ?_, ?_, ?_, ?_, ?_⟩
  · simpa [done, tasks] using latch
  · intro other member
    have counted : other ∈ countDowns events := by simpa using member
    rw [filings_append, List.map_append]
    exact List.mem_append_left _ (written other counted)
  · rw [filings_append, List.map_append, List.nodup_append]
    refine ⟨once, List.nodup_singleton index, fun other member own same => ?_⟩
    obtain rfl := List.mem_singleton.mp same
    rintro rfl
    exact fresh member
  · intro other start result member
    rw [kept']
    rw [filings_append] at member
    rcases List.mem_append.mp member with earlier | new
    · have apart : other ≠ index := by
        rintro rfl
        exact fresh (List.mem_map.mpr ⟨_, earlier, rfl⟩)
      obtain ⟨held, start⟩ := holds other start result earlier
      exact ⟨by rw [Slots.outcome?_file_ne _ _ _ _ _ apart, held],
        by rw [Slots.start?_file_ne _ _ _ _ _ apart, start]⟩
    · cases List.mem_singleton.mp new
      exact ⟨Slots.outcome?_file_self _ _ _ _ inRange.1, Slots.start?_file_self _ _ _ _ inRange.2⟩
  · intro other outside
    rw [filings_append, List.map_append, List.mem_append, not_or] at outside
    have apart : other ≠ index := fun same => outside.2 (List.mem_singleton.mpr same)
    obtain ⟨none, unstarted⟩ := empty other outside.1
    rw [kept']
    exact ⟨by rw [Slots.outcome?_file_ne _ _ _ _ _ apart, none],
      by rw [Slots.start?_file_ne _ _ _ _ _ apart, unstarted]⟩
  · simpa [before, then_] using taken
  · rw [then_]
    nofun

/-- A step that files nothing leaves what the slots hold as it is. -/
private theorem Registered.unfiled {own : List (SlotEvent α)}
    (registered : execution.Registered events) (none : filings own = [])
    (kept : after.kept = execution.kept)
    (latch : after.done.count + (countDowns (events ++ own)).length = after.taskCount)
    (written : ∀ index ∈ countDowns own, index ∈ (filings events).map Prod.fst)
    (takings : GatedRun.takings (events ++ own) = if after.caller.hasResults then 1 else 0)
    (emptied : after.caller.hasResults = true → after.slots = .emptied) :
    after.Registered (events ++ own) := by
  have same : filings (events ++ own) = filings events := by
    rw [filings_append, none, List.append_nil]
  refine ⟨latch, ?_, ?_, ?_, ?_, takings, emptied⟩
  · intro index member
    rw [countDowns_append, List.mem_append] at member
    rw [same]
    exact member.elim (registered.written index) (written index)
  · rw [same]
    exact registered.once
  · rw [same, kept]
    exact registered.holds
  · rw [same, kept]
    exact registered.vacant

/-- A job that has filled its slots counts down. -/
private theorem Registered.count (registered : execution.Registered events) (index : Nat)
    (since : Instant) (outcome : Outcome α) (held : execution.slots.Holds index since outcome)
    (before : execution.caller.hasResults = false) (caller : after.caller = execution.caller)
    (slots : after.slots = execution.slots) (done : execution.done.count = after.done.count + 1)
    (tasks : after.taskCount = execution.taskCount) :
    after.Registered (events ++ [.counted index]) := by
  have kept : after.kept = execution.kept := (kept_congr slots (by simp [caller])).1
  have latch := registered.latch
  have none := registered.takings
  rw [← kept_eq_slots before] at held
  refine registered.unfiled rfl kept ?_ ?_ ?_ ?_
  · rw [countDowns_append, List.length_append, tasks]
    change after.done.count + ((countDowns events).length + 1) = _
    omega
  · intro other member
    obtain rfl := List.mem_singleton.mp member
    exact List.mem_map_of_mem ((registered.mem_filings other since outcome).mpr held)
  · simpa [caller] using none
  · rw [caller, before]
    nofun

/-- The caller takes the slots out, and hands over what was filed. -/
private theorem Registered.take (registered : execution.Registered events) (results : ResultSet α)
    (before : execution.caller.hasResults = false)
    (whole : execution.slots.filed.map some = execution.slots.outcomes)
    (caller : after.caller = .returned (.ok results))
    (outcomes : results.outcomes = execution.slots.filed)
    (starts : results.stats.startedAt = execution.slots.startedAt)
    (slots : after.slots = .emptied) (done : after.done = execution.done)
    (tasks : after.taskCount = execution.taskCount) :
    after.Registered (events ++ [.taken]) := by
  have kept : after.kept = execution.kept := by
    rw [kept_eq_slots before]
    simp only [Execution.kept, caller, outcomes, starts, whole]
  refine registered.unfiled rfl kept ?_ ?_ ?_ fun _ => slots
  · simpa [done, tasks] using registered.latch
  · intro index member
    exact absurd member List.not_mem_nil
  · rw [takings_append, registered.takings, before, caller]
    rfl

theorem Registered.step {event : Option (SlotEvent α)} (registered : execution.Registered events)
    (sound : execution.Sound notes) (passed : execution.Passed notes (countDowns events))
    (tasks : after.taskCount = execution.taskCount)
    (step : SlotStep execution after move event) :
    after.Registered (events ++ event.toList) := by
  cases step with
  | filed worker index task since outcome runs own inRange vacant slots done caller =>
    have before := sound.staged.undelivered worker _ ((job?_eq_some_iff worker _).mp runs) rfl
    exact registered.file index since outcome inRange vacant before caller slots done tasks
  | counted worker index task since outcome runs own holds slots done caller =>
    have before := sound.staged.undelivered worker _ ((job?_eq_some_iff worker _).mp runs) rfl
    exact registered.count index since outcome holds before caller slots done tasks
  | taken grant results at_ zero slots done caller outcomes starts =>
    have before : execution.caller.hasResults = false := by
      rw [at_]
      rfl
    exact registered.take results before (registered.map_some_filed sound passed before zero)
      caller outcomes starts slots done tasks
  | other move slots done results =>
    obtain ⟨kept, same⟩ := kept_congr slots results
    refine registered.unfiled rfl kept ?_ ?_ ?_ ?_
    · simpa [done, tasks] using registered.latch
    · intro index member
      exact absurd member List.not_mem_nil
    · simpa [same] using registered.takings
    · rw [same, slots]
      exact registered.emptied

/-! ### Runs -/

theorem start_registered (runner : Runner τ) (runs : runner.IsSound) (now : Instant) :
    (start (α := α) runner.tasks runner.config now).1.Registered [] := by
  have waiting := (start_soundFor (α := α) runner runs now).recorded.waiting
  refine ⟨?_, nofun, List.nodup_nil, nofun, fun index _ => ?_, ?_, ?_⟩
  · rw [start_eq runner runs now]
    rfl
  · exact (waiting index (by simp [start_eq runner runs now])).2
  · rw [start_eq runner runs now]
    rfl
  · rw [start_eq runner runs now]
    nofun

theorem start_passed (runner : Runner τ) (runs : runner.IsSound) (now : Instant) :
    (start (α := α) runner.tasks runner.config now).1.Passed
      (start (α := α) runner.tasks runner.config now).2 [] := by
  rw [start_eq runner runs now]
  exact ⟨fun _ _ => rfl, fun _ => rfl⟩

/-- In every state of a run, the jobs that have counted down and the slots are as its events so far
tell. -/
theorem SoundFor.registered_replay (sound : SoundFor runner execution notes)
    (passed : execution.Passed notes []) (registered : execution.Registered [])
    (turns : List (Turn α)) (last : Execution τ α) (more : List (RunNote τ α))
    (ran : GatedRun.replay advance execution turns = some (last, more)) :
    last.Passed (notes ++ more) (countDowns (execution.slotEvents turns)) ∧
      last.Registered (execution.slotEvents turns) := by
  have all := observed_preserves_known (fun state turn => state.slotEvent? turn.move)
    (fun state told seen => SoundFor runner state told ∧ state.Passed told (countDowns seen) ∧
      state.Registered seen) execution last turns notes more [] ?_ ⟨sound, passed, registered⟩ ran
  · exact all.2
  rintro state turn after known seen told - ⟨sound, passed, registered⟩ advanced
  obtain ⟨next, stepped, same⟩ := Option.map_eq_some_iff.mp advanced
  cases same
  have transition := sound.toSound.transition stepped
  rw [countDowns_append]
  exact ⟨sound.step stepped, passed.step sound.toSound transition,
    registered.step sound.toSound passed transition.fixed.taskCount
      (sound.toSound.slotStep transition)⟩

/-- How slots and latch stand when those jobs were taken and that much has happened. -/
structure SlotsAgree (execution : Execution τ α) (jobs : List (Nat × Nat))
    (events : List (SlotEvent α)) : Prop where
  latch : execution.done.count + (countDowns events).length = execution.taskCount
  countedOnce : (countDowns events).Nodup
  /-- The jobs past the latch are those that were taken and are nobody's any more, or that only let
  go of their task; but no job that was turned back at the gate is among them. -/
  past : execution.gate.state ≠ .abandoned → ∀ index, index ∈ countDowns events ↔
    index ∈ jobs.map Prod.snd ∧ ∀ (worker : Nat) (job : RunJob τ α),
      execution.job? worker = some job → job.index = index → job.phase = .ended
  none : execution.gate.state ≠ .opened → countDowns events = []
  written : ∀ index ∈ countDowns events, ∃ since outcome, (index, since, outcome) ∈ filings events
  filedOnce : ((filings events).map Prod.fst).Nodup
  inRange : ∀ index since outcome, (index, since, outcome) ∈ filings events →
    index < execution.taskCount
  takenOnce : takings events ≤ 1
  answered : takings events = 1 ↔ ∃ results, execution.result? = some (.ok results)
  sizes : takings events = 0 → execution.slots.outcomes.length = execution.taskCount ∧
    execution.slots.startedAt.length = execution.taskCount
  /-- As long as they are not taken, the slots of an index hold what was filed for it. -/
  held : takings events = 0 → ∀ index since outcome,
    (index, since, outcome) ∈ filings events ↔ execution.slots.Holds index since outcome
  /-- And as long as nothing was filed for it, both are empty. -/
  vacant : takings events = 0 → ∀ index,
    index ∉ (filings events).map Prod.fst ↔ execution.slots.IsVacant index
  /-- Whenever the latch is at zero, taking the outcomes out leaves none behind. -/
  full : takings events = 0 → execution.done.count = 0 →
    (∀ index, index < execution.taskCount →
      ∃ since outcome, execution.slots.Holds index since outcome) ∧
    execution.slots.filed.map some = execution.slots.outcomes ∧
    execution.slots.filed.length = execution.taskCount ∧
    execution.slots.filed.length = execution.slots.startedAt.length
  /-- What is handed over is all that was filed, for every task. -/
  delivered : ∀ results, execution.result? = some (.ok results) →
    execution.slots = .emptied ∧ execution.done.count = 0 ∧
    results.outcomes.length = execution.taskCount ∧
    results.stats.startedAt.length = execution.taskCount ∧
    (∀ index since outcome, (index, since, outcome) ∈ filings events ↔
      results.outcomes[index]? = some outcome ∧
        results.stats.startedAt[index]? = some (some since)) ∧
    ∀ index, index < execution.taskCount → index ∈ (filings events).map Prod.fst

/-- No worker is busy with the task at an index if its job is nobody's or has ended. -/
private theorem countP_isBusyAt_eq_zero_iff (index : Nat) :
    execution.pool.workers.countP (WorkerPhase.isBusyAt index) = 0 ↔
      ∀ (worker : Nat) (job : RunJob τ α), execution.job? worker = some job →
        job.index = index → job.phase = .ended := by
  rw [List.countP_eq_zero]
  constructor
  · rintro idle worker ⟨index, task, phase⟩ runs rfl
    have rest := idle _ (List.mem_of_getElem? ((job?_eq_some_iff worker _).mp runs))
    cases phase with
    | ended => rfl
    | _ => exact absurd (beq_self_eq_true index) rest
  · intro spare phase member
    obtain ⟨worker, at_⟩ := List.mem_iff_getElem?.mp member
    cases phase with
    | running job =>
      obtain ⟨own, task, phase⟩ := job
      have ended := spare worker _ ((job?_eq_some_iff worker _).mpr at_)
      by_cases same : own = index
      · obtain rfl : phase = .ended := ended same
        simp [WorkerPhase.isBusyAt, WorkerPhase.isBusy]
      · simp [WorkerPhase.isBusyAt, WorkerPhase.runs, same]
    | _ => simp [WorkerPhase.isBusyAt, WorkerPhase.isBusy]

theorem Passed.mem_iff {passed : List Nat} (held : execution.Passed notes passed)
    (sound : execution.Sound notes) (going : execution.gate.state ≠ .abandoned) (index : Nat) :
    index ∈ passed ↔ index ∈ (takes notes).map Prod.snd ∧
      ∀ (worker : Nat) (job : RunJob τ α), execution.job? worker = some job →
        job.index = index → job.phase = .ended := by
  have balance := held.balance going index
  have few : ((takes notes).map Prod.snd).count index ≤ 1 :=
    List.nodup_iff_count_le_one.mp (sound.queued.indices ▸ List.nodup_range) index
  rw [← countP_isBusyAt_eq_zero_iff, ← List.count_pos_iff, ← List.count_pos_iff]
  omega

private theorem Registered.takings_eq_zero_iff (registered : execution.Registered events) :
    GatedRun.takings events = 0 ↔ execution.caller.hasResults = false := by
  rw [registered.takings]
  cases execution.caller.hasResults <;> simp

private theorem Registered.takings_eq_one_iff (registered : execution.Registered events) :
    GatedRun.takings events = 1 ↔ ∃ results, execution.result? = some (.ok results) := by
  simp only [result?_eq_some_iff, ← CallerPhase.hasResults_iff]
  rw [registered.takings]
  cases execution.caller.hasResults <;> simp

/-- Both slots of an index are filled or both are empty. -/
theorem Registered.vacant_iff (registered : execution.Registered events) (index : Nat) :
    index ∉ (filings events).map Prod.fst ↔ execution.kept.IsVacant index := by
  refine ⟨registered.vacant index, fun vacant member => ?_⟩
  obtain ⟨⟨_, since, outcome⟩, filed, rfl⟩ := List.mem_map.mp member
  exact Slots.not_holds_of_isVacant vacant since outcome (registered.holds _ since outcome filed)

/-- What was handed over holds at an index what is found there. -/
private theorem kept_holds_iff (results : ResultSet α)
    (returned : execution.caller = .returned (.ok results)) (index : Nat) (since : Instant)
    (outcome : Outcome α) : execution.kept.Holds index since outcome ↔
      results.outcomes[index]? = some outcome ∧
        results.stats.startedAt[index]? = some (some since) := by
  simp only [Slots.Holds, kept, returned, Slots.outcome?, Slots.start?]
  simp [Option.join_eq_some_iff]

theorem Registered.slotsAgree (registered : execution.Registered events)
    (sound : execution.Sound notes) (passed : execution.Passed notes (countDowns events)) :
    execution.SlotsAgree (takes notes) events := by
  have sizes := sound.recorded.sizes
  have untaken (none : GatedRun.takings events = 0) : execution.kept = execution.slots :=
    kept_eq_slots (registered.takings_eq_zero_iff.mp none)
  refine {
    latch := registered.latch
    countedOnce := passed.nodup sound
    past := fun going => passed.mem_iff sound going
    none := passed.shut
    filedOnce := registered.once
    answered := registered.takings_eq_one_iff
    sizes := fun none => untaken none ▸ sizes
    held := fun none index since outcome =>
      untaken none ▸ registered.mem_filings index since outcome
    vacant := fun none index => untaken none ▸ registered.vacant_iff index
    written := fun index member => ?_
    inRange := fun index since outcome member => ?_
    takenOnce := ?_
    full := fun none zero => ?_
    delivered := fun results returned => ?_ }
  · obtain ⟨⟨_, since, outcome⟩, filed, rfl⟩ := List.mem_map.mp (registered.written index member)
    exact ⟨since, outcome, filed⟩
  · have below := (registered.holds index since outcome member).below
    rwa [sizes.1] at below
  · rw [registered.takings]
    split <;> omega
  · have kept := untaken none
    have full := registered.full sound passed zero
    have whole := registered.map_some_filed sound passed (registered.takings_eq_zero_iff.mp none)
      zero
    have length := congrArg List.length whole
    rw [kept] at sizes full
    rw [List.length_map, sizes.1] at length
    exact ⟨full, whole, length, length.trans sizes.2.symm⟩
  · have at_ := (result?_eq_some_iff _).mp returned
    have zero : execution.done.count = 0 := (sound.staged.placedAt at_).done rfl
    have lengths := sizes
    simp only [kept, at_, List.length_map] at lengths
    refine ⟨registered.emptied (by rw [at_]; rfl), zero, lengths.1, lengths.2, ?_, ?_⟩
    · intro index since outcome
      rw [registered.mem_filings, kept_holds_iff results at_]
    · intro index below
      obtain ⟨since, outcome, holds⟩ := registered.full sound passed zero index below
      exact List.mem_map_of_mem ((registered.mem_filings index since outcome).mpr holds)

/-- Slots and latch agree with the events in every state that is reached. -/
theorem slotsAgree_replay (runner : Runner τ) (runs : runner.IsSound) (now : Instant)
    (turns : List (Turn α)) (execution : Execution τ α) (notes : List (RunNote τ α))
    (ran : GatedRun.replay advance (start runner.tasks runner.config now).1 turns =
      some (execution, notes)) :
    execution.SlotsAgree (takes notes)
      ((start runner.tasks runner.config now).1.slotEvents turns) := by
  have begun := start_soundFor (α := α) runner runs now
  obtain ⟨passed, registered⟩ := begun.registered_replay (start_passed runner runs now)
    (start_registered runner runs now) turns execution notes ran
  have agrees := registered.slotsAgree (begun.replay turns execution notes ran).toSound passed
  -- Nothing is taken from the queue at the very start.
  rwa [takes_append] at agrees

/-- A run that has failed returns its failure, so it never comes to results. -/
theorem SlotsAgree.untaken {jobs : List (Nat × Nat)} (agrees : execution.SlotsAgree jobs events)
    (cause : RunError) (failed : execution.caller.failure? = some cause) : takings events = 0 := by
  have few := agrees.takenOnce
  have none : ¬ takings events = 1 := by
    rw [agrees.answered]
    rintro ⟨results, returned⟩
    cases result_of_failure cause failed _ returned
  omega

/-- In every state of an execution, however it ends and also after it has returned:
* slots and latch stand as what happened to them so far tells;
* the next step fills the two slots of an index only if it is one of the index's own job, which
  finds them there and empty; it counts the latch down only if it is one of a job that has filled
  its slots; it takes the slots out only as the last step of the call; and any other leaves them be;
* what the slots hold they hold on to until they are taken out;
* and once the run has failed, they never are, so a job that is late finds them at their full
  size. -/
theorem slots_fill_once (opening : Opening τ) (extensions : List (Extension τ))
    {interrupt : Interrupt} (runner : Runner τ)
    (built : Runner.build opening extensions interrupt = .ok runner) (now : Instant)
    (turns : List (Turn α)) (execution : Execution τ α) (notes : List (RunNote τ α))
    (ran : GatedRun.replay advance (start runner.tasks runner.config now).1 turns =
      some (execution, notes)) :
    execution.taskCount = runner.taskCount ∧
    execution.SlotsAgree (takes notes)
      ((start runner.tasks runner.config now).1.slotEvents turns) ∧
    (∀ (turn : Turn α) (after : Execution τ α) (told : List (RunNote τ α)),
      execution.advance turn = some (after, told) →
        SlotStep execution after turn.move (execution.slotEvent? turn.move)) ∧
    ∀ (later : List (Turn α)) (last : Execution τ α) (told : List (RunNote τ α)),
      GatedRun.replay advance execution later = some (last, told) →
      (takings ((start runner.tasks runner.config now).1.slotEvents (turns ++ later)) = 0 →
        ∀ index since outcome, execution.slots.Holds index since outcome →
          last.slots.Holds index since outcome) ∧
      ∀ cause, execution.caller.failure? = some cause →
        takings ((start runner.tasks runner.config now).1.slotEvents (turns ++ later)) = 0 ∧
        last.slots.outcomes.length = runner.taskCount ∧
        last.slots.startedAt.length = runner.taskCount := by
  have runs := Runner.build_sound opening extensions runner built
  have begun := start_soundFor (α := α) runner runs now
  have sound := begun.replay turns execution notes ran
  have agrees := slotsAgree_replay runner runs now turns execution notes ran
  refine ⟨sound.taskCount, agrees, ?_, ?_⟩
  · intro turn after told advanced
    obtain ⟨next, stepped, same⟩ := Option.map_eq_some_iff.mp advanced
    cases same
    exact sound.toSound.slotStep (sound.toSound.transition stepped)
  · intro later last told went
    have reached := (replay_append_iff _ last turns later _).mpr
      ⟨execution, notes, told, ran, went, rfl⟩
    have finally_ := slotsAgree_replay runner runs now (turns ++ later) last _ reached
    have events : (start runner.tasks runner.config now).1.slotEvents (turns ++ later) =
        (start runner.tasks runner.config now).1.slotEvents turns ++
          execution.slotEvents later :=
      observed_append _ execution turns later notes ran
    constructor
    · intro untaken index since outcome holds
      have before := untaken
      rw [events, takings_append] at before
      have filed := (agrees.held (by omega) index since outcome).mpr holds
      -- What was filed by then is still among all that is filed.
      apply (finally_.held untaken index since outcome).mp
      rw [events, filings_append]
      exact List.mem_append_left _ filed
    · intro cause failed
      have kept := (sound.kept_replay later last told went).2 cause failed
      have untaken := finally_.untaken cause kept
      have size := (begun.replay (turns ++ later) last _ reached).taskCount
      exact ⟨untaken, size ▸ finally_.sizes untaken⟩

/-- After the call has returned, the second worker calls the body of the last task, and it ends. -/
def trioLate : List (Turn Nat) :=
  trioOvertime ++ [RunMove.work 1, .bodyEnds 1 (.returned 9)].map (Turn.mk false 3)

theorem slots_fill_once_overtime : ∃ (execution after : Execution Nat Nat)
    (notes told : List (RunNote Nat Nat)),
    GatedRun.replay advance (start trioRunner.tasks trioRunner.config 1).1 trioLate =
      some (execution, notes) ∧
    execution.result? = some (.error (.interrupted .completion)) ∧
    (start trioRunner.tasks trioRunner.config 1).1.slotEvents trioLate =
      [.filed 0 2 (.success 6), .counted 0] ∧
    execution.advance ⟨false, 3, .work 1⟩ = some (after, told) ∧
    SlotStep execution after (.work 1) (some (.filed 2 3 (.success 9))) ∧
    after.slots.outcomes = [some (.success 6), none, some (.success 9)] ∧
    execution.slots.Holds 0 2 (.success 6) ∧ after.slots.Holds 0 2 (.success 6) ∧
    after.slots.startedAt.length = 3 := by
  have ran : GatedRun.replay advance (start trioRunner.tasks trioRunner.config 1).1 trioLate =
    some (_, _) := rfl
  obtain ⟨-, agrees, next, later⟩ :=
    slots_fill_once (.tasks [3, 4, 5]) [.threadCount 2] trioRunner rfl 1 _ _ _ ran
  obtain ⟨kept, failed⟩ := later [⟨false, 3, .work 1⟩] _ _ rfl
  obtain ⟨untaken, -, starts⟩ := failed (.interrupted .completion) rfl
  have holds := (agrees.held rfl 0 2 (.success 6)).mp (by decide)
  have late : SlotStep _ _ (.work 1) (some (.filed 2 3 (.success 9))) :=
    next ⟨false, 3, .work 1⟩ _ _ rfl
  exact ⟨_, _, _, _, ran, rfl, rfl, rfl, late, rfl, holds, kept untaken _ _ _ holds, starts⟩

end Execution

end GatedRun
