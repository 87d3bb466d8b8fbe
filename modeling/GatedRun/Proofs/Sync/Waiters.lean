import GatedRun.Proofs.Replay
import GatedRun.Proofs.Sync.Transition

/-!
# Waiters in a room

What a step in a room does to one waiter (`Change`) and to one latch, and what holds of all of them
in every room that began empty (`Sound`): a wait that ended because its latch was open did so at a
latch whose count is zero and stays zero; a thread between its two looks is awake, and it alone
holds the lock of its latch.
-/

namespace GatedRun.Sync

namespace Room

variable {room after : Room} {move : Move}

/-! ### One waiter -/

/-- What a look can make of a waiter. -/
inductive Change (room : Room) (thread : Nat) : Waiter → Waiter → Prop where
  | interrupted (index flag : Nat) (free : room.isFree index = true)
      (up : room.flags[flag]? = some true) :
      Change room thread ⟨.latchOrInterrupt index flag, false, none⟩
        ⟨.latchOrInterrupt index flag, false, some (.latch .interrupted)⟩
  | passedFlag (index flag : Nat) (latch : Latch Nat) (latch_ : room.latches[index]? = some latch)
      (awake : latch.isAsleep thread = false) (free : room.isFree index = true)
      (down : room.flags[flag]? = some false) :
      Change room thread ⟨.latchOrInterrupt index flag, false, none⟩
        ⟨.latchOrInterrupt index flag, true, none⟩
  | opened (index : Nat) (call : WaitCall) (pastFlag : Bool) (latch : Latch Nat)
      (waits : call.latch? = some index) (past : ∀ flag, call = .latchOrInterrupt index flag →
        pastFlag = true) (latch_ : room.latches[index]? = some latch) (zero : latch.count = 0) :
      Change room thread ⟨call, pastFlag, none⟩ ⟨call, false, some (.latch .opened)⟩
  | slept (call : WaitCall) (pastFlag : Bool) :
      Change room thread ⟨call, pastFlag, none⟩ ⟨call, false, none⟩
  | passedGate (index : Nat) (pastFlag opened : Bool) (gate : Gate Nat)
      (gate_ : room.gates[index]? = some gate)
      (settled : gate.state = if opened then .opened else .abandoned) :
      Change room thread ⟨.gate index, pastFlag, none⟩ ⟨.gate index, false, some (.gate opened)⟩

/-- The move is no look at a latch. -/
def LooksElsewhere (room : Room) (move : Move) : Prop :=
  ∀ (thread : Nat) (waiter : Waiter), move = .visit thread → room.waiters[thread]? = some waiter →
    waiter.call.latch? = none

/-- A step leaves the waiters alone, or one of them begins to wait, or one of them looks. A look at
a latch changes the waiter. -/
theorem Transition.waiters_cases (transition : room.Transition move after) :
    (after.waiters = room.waiters ∧ room.LooksElsewhere move) ∨
      (∃ call, move = .start call ∧ after.waiters = room.waiters ++ [{ call := call }]) ∨
      ∃ thread waiter changed, move = .visit thread ∧ room.waiters[thread]? = some waiter ∧
        room.Change thread waiter changed ∧ after.waiters = room.waiters.set thread changed := by
  have latch_of {index : Nat} {call : WaitCall} {pastFlag : Bool}
      (turn : (∃ flag, call = .latchOrInterrupt index flag ∧ pastFlag = true) ∨
        call = .latch index ∧ room.isFree index = true) :
      call.latch? = some index ∧ ∀ flag, call = .latchOrInterrupt index flag →
        pastFlag = true := by
    rcases turn with ⟨flag, rfl, past⟩ | ⟨rfl, -⟩
    · exact ⟨rfl, fun _ _ => past⟩
    · exact ⟨rfl, fun _ other => by cases other⟩
  cases transition with
  | started call => exact .inr (.inl ⟨call, rfl, rfl⟩)
  | interrupted thread index flag latch at_ _ _ free up =>
    exact .inr (.inr ⟨thread, _, _, rfl, at_, .interrupted index flag free up, rfl⟩)
  | passedFlag thread index flag latch at_ latch_ awake free down =>
    exact .inr (.inr
      ⟨thread, _, _, rfl, at_, .passedFlag index flag latch latch_ awake free down, rfl⟩)
  | opened thread index call pastFlag latch at_ turn latch_ _ zero =>
    obtain ⟨waits, past⟩ := latch_of turn
    exact .inr (.inr
      ⟨thread, _, _, rfl, at_, .opened index call pastFlag latch waits past latch_ zero, rfl⟩)
  | slept thread index call pastFlag latch at_ =>
    exact .inr (.inr ⟨thread, _, _, rfl, at_, .slept call pastFlag, rfl⟩)
  | passedGate thread index pastFlag gate opened at_ gate_ _ settled =>
    exact .inr (.inr
      ⟨thread, _, _, rfl, at_, .passedGate index pastFlag opened gate gate_ settled, rfl⟩)
  | sleptAtGate thread index pastFlag gate at_ =>
    refine .inl ⟨rfl, ?_⟩
    intro own waiter mine held
    cases mine
    rw [at_] at held
    cases held
    rfl
  | _ => exact .inl ⟨rfl, fun _ _ other => by cases other⟩

theorem Change.answer_none {thread : Nat} {waiter changed : Waiter}
    (change : room.Change thread waiter changed) : waiter.answer = none := by
  cases change <;> rfl

/-- A waiter after a step was there before and is the same, or has looked, or it is new. -/
theorem Transition.waiter_before (transition : room.Transition move after) (thread : Nat)
    (changed : Waiter) (at_ : after.waiters[thread]? = some changed) :
    (room.waiters[thread]? = some changed ∧
        (move = .visit thread → changed.call.latch? = none)) ∨
      (∃ waiter, room.waiters[thread]? = some waiter ∧ move = .visit thread ∧
        room.Change thread waiter changed) ∨
      (room.waiters[thread]? = none ∧ ∃ call, changed = { call := call }) := by
  rcases transition.waiters_cases with
    ⟨same, elsewhere⟩ | ⟨call, rfl, same⟩ | ⟨own, waiter, new, rfl, old, change, same⟩
  · rw [same] at at_
    exact .inl ⟨at_, fun mine => elsewhere thread changed mine at_⟩
  · rw [same, List.getElem?_append] at at_
    split at at_
    · exact .inl ⟨at_, fun other => by cases other⟩
    next above =>
      have new := List.mem_singleton.mp (List.mem_of_getElem? at_)
      exact .inr (.inr ⟨List.getElem?_eq_none (Nat.not_lt.mp above), call, new⟩)
  · rw [same, List.getElem?_set] at at_
    split at at_
    next mine =>
      subst mine
      split at at_
      · cases at_
        exact .inr (.inl ⟨waiter, old, rfl, change⟩)
      · cases at_
    next apart =>
      refine .inl ⟨at_, ?_⟩
      intro mine
      cases mine
      exact absurd rfl apart

/-- A waiter that does not look at a latch stays as it is. -/
theorem Transition.waiter_after (transition : room.Transition move after) (thread : Nat)
    (waiter : Waiter) (at_ : room.waiters[thread]? = some waiter) :
    after.waiters[thread]? = some waiter ∨
      ∃ changed, after.waiters[thread]? = some changed ∧ room.Change thread waiter changed := by
  have below := (List.getElem?_eq_some_iff.mp at_).1
  rcases transition.waiters_cases with
    ⟨same, -⟩ | ⟨call, -, same⟩ | ⟨own, old, new, rfl, held, change, same⟩
  · exact .inl (same ▸ at_)
  · exact .inl (by rw [same, List.getElem?_append_left below, at_])
  · by_cases mine : own = thread
    · subst mine
      obtain rfl := Option.some.inj (held.symm.trans at_)
      exact .inr ⟨new, by rw [same, List.getElem?_set_self below], change⟩
    · exact .inl (by rw [same, List.getElem?_set_ne mine, at_])

/-- A wait that has ended stays as it is. -/
theorem Transition.answered_kept (transition : room.Transition move after) (thread : Nat)
    (waiter : Waiter) (at_ : room.waiters[thread]? = some waiter) (ended : waiter.answer ≠ none) :
    after.waiters[thread]? = some waiter := by
  rcases transition.waiter_after thread waiter at_ with same | ⟨changed, -, change⟩
  · exact same
  · exact absurd change.answer_none ended

/-! ### One latch -/

/-- What a step can make of a latch. -/
inductive LatchChange (room : Room) (move : Move) (index : Nat) (latch : Latch Nat) :
    Latch Nat → Prop where
  | left (apart : move ≠ .countDown index) : LatchChange room move index latch latch
  | countedDown (mine : move = .countDown index) (free : room.isFree index = true) :
      LatchChange room move index latch latch.countDown
  | slept (thread : Nat) (mine : move = .visit thread) (positive : latch.count ≠ 0) :
      LatchChange room move index latch { latch with asleep := thread :: latch.asleep }
  | woke (thread : Nat) (mine : move = .wake thread) :
      LatchChange room move index latch (latch.wake thread)

theorem Transition.latch_changed (transition : room.Transition move after) (index : Nat)
    (latch : Latch Nat) (at_ : room.latches[index]? = some latch) :
    ∃ changed, after.latches[index]? = some changed ∧
      room.LatchChange move index latch changed := by
  cases transition with
  | addedLatch count =>
    have below := (List.getElem?_eq_some_iff.mp at_).1
    exact ⟨latch, by rw [List.getElem?_append_left below, at_], .left (by simp)⟩
  | countedDown other free =>
    by_cases mine : other = index
    · subst mine
      rw [modify_eq_set_of_getElem? _ _ _ _ at_]
      exact getElem?_set_related (room.LatchChange _) _ _ _ latch _ _ at_ at_
        (.countedDown rfl free) (absurd rfl)
    · exact ⟨latch, by simp [mine, at_], .left (by simpa using mine)⟩
  | slept thread other call pastFlag held _ _ latch_ _ positive =>
    exact getElem?_set_related (room.LatchChange _) _ _ _ latch _ _ at_ latch_
      (.slept thread rfl positive) fun _ => .left (by simp)
  | woke thread other call pastFlag held _ _ latch_ =>
    exact getElem?_set_related (room.LatchChange _) _ _ _ latch _ _ at_ latch_
      (.woke thread rfl) fun _ => .left (by simp)
  | _ => exact ⟨latch, at_, .left (by simp)⟩

/-- A latch after a step: its count has not gone up, it has not changed at all while somebody held
the lock, and nobody fell asleep there but the thread that has looked. -/
structure LatchStep (room : Room) (move : Move) (index : Nat) (latch changed : Latch Nat) : Prop
    where
  le : changed.count ≤ latch.count
  locked : room.isFree index = false → changed.count = latch.count
  awake : ∀ thread, move ≠ .visit thread → latch.isAsleep thread = false →
    changed.isAsleep thread = false

theorem isAsleep_countDown (latch : Latch Nat) (thread : Nat)
    (awake : latch.isAsleep thread = false) : latch.countDown.isAsleep thread = false := by
  unfold Latch.countDown
  split
  · exact awake
  · rfl
  · exact awake

theorem LatchChange.step {index : Nat} {latch changed : Latch Nat}
    (change : room.LatchChange move index latch changed) :
    room.LatchStep move index latch changed := by
  cases change with
  | left => exact ⟨Nat.le_refl _, fun _ => rfl, fun _ _ awake => awake⟩
  | countedDown mine free =>
    refine ⟨?_, fun locked => ?_, fun thread _ awake => isAsleep_countDown latch thread awake⟩
    · rw [latch.count_countDown]
      exact Nat.sub_le _ _
    · cases free.symm.trans locked
  | slept thread mine =>
    refine ⟨Nat.le_refl _, fun _ => rfl, ?_⟩
    intro sleeper apart awake
    have new : thread ≠ sleeper := fun same => apart (same ▸ mine)
    simp only [Latch.isAsleep, List.contains_cons, Bool.or_eq_false_iff] at awake ⊢
    exact ⟨by simpa using Ne.symm new, awake⟩
  | woke thread =>
    refine ⟨Nat.le_refl _, fun _ => rfl, ?_⟩
    intro sleeper _ awake
    simp only [Latch.isAsleep, Latch.wake, List.contains_eq_mem, decide_eq_false_iff_not,
      List.mem_filter] at awake ⊢
    exact fun member => awake member.1

theorem Transition.latch_after (transition : room.Transition move after) (index : Nat)
    (latch : Latch Nat) (at_ : room.latches[index]? = some latch) :
    ∃ changed, after.latches[index]? = some changed ∧ room.LatchStep move index latch changed := by
  obtain ⟨changed, held, change⟩ := transition.latch_changed index latch at_
  exact ⟨changed, held, change.step⟩

/-! ### All waiters -/

structure Sound (room : Room) : Prop where
  /-- A wait that ended at an open latch ended at a count of zero, which has stayed. -/
  opened : ∀ (thread : Nat) (waiter : Waiter), room.waiters[thread]? = some waiter →
    waiter.answer = some (.latch .opened) → ∃ index latch, waiter.call.latch? = some index ∧
      room.latches[index]? = some latch ∧ latch.count = 0
  past : ∀ (thread : Nat) (waiter : Waiter), room.waiters[thread]? = some waiter →
    waiter.pastFlag = true → waiter.answer = none ∧ ∃ index flag latch,
      waiter.call = .latchOrInterrupt index flag ∧ room.latches[index]? = some latch ∧
      latch.isAsleep thread = false
  alone : ∀ (index thread other : Nat) (waiter rival : Waiter),
    room.waiters[thread]? = some waiter → room.waiters[other]? = some rival →
    waiter.holds index = true → rival.holds index = true → thread = other

theorem empty_sound : Sound {} := by
  constructor
  · intro thread waiter at_
    cases at_
  · intro thread waiter at_
    cases at_
  · intro index thread other waiter rival at_
    cases at_

theorem not_free_of_holds (index thread : Nat) (waiter : Waiter)
    (at_ : room.waiters[thread]? = some waiter) (holds : waiter.holds index = true) :
    room.isFree index = false := by
  rw [isFree, List.all_eq_false]
  exact ⟨waiter, List.mem_of_getElem? at_, by simp [holds]⟩

/-- A thread that holds the lock of a latch after its look took it when nobody held it. -/
theorem Change.free_of_holds {thread index : Nat} {waiter changed : Waiter}
    (change : room.Change thread waiter changed) (holds : changed.holds index = true) :
    room.isFree index = true := by
  cases change with
  | passedFlag own flag latch latch_ awake free =>
    simp only [Waiter.holds, WaitCall.latch?, Bool.true_and, beq_iff_eq, Option.some.injEq] at holds
    exact holds ▸ free
  | _ => simp [Waiter.holds] at holds

theorem Transition.holder_before (transition : room.Transition move after) (index thread : Nat)
    (waiter : Waiter) (at_ : after.waiters[thread]? = some waiter)
    (holds : waiter.holds index = true) :
    room.waiters[thread]? = some waiter ∨ move = .visit thread ∧ room.isFree index = true := by
  rcases transition.waiter_before thread waiter at_ with
    ⟨before, -⟩ | ⟨old, -, mine, change⟩ | ⟨-, call, rfl⟩
  · exact .inl before
  · exact .inr ⟨mine, change.free_of_holds holds⟩
  · simp [Waiter.holds] at holds

theorem Transition.zero_stays (transition : room.Transition move after) (index : Nat)
    (latch : Latch Nat) (latch_ : room.latches[index]? = some latch) (zero : latch.count = 0) :
    ∃ changed, after.latches[index]? = some changed ∧ changed.count = 0 := by
  obtain ⟨changed, held, step⟩ := transition.latch_after index latch latch_
  exact ⟨changed, held, Nat.le_zero.mp (zero ▸ step.le)⟩

theorem Sound.step (sound : room.Sound) (transition : room.Transition move after) :
    after.Sound := by
  refine ⟨?opened, ?past, ?alone⟩
  case opened =>
    intro thread waiter at_ answered
    rcases transition.waiter_before thread waiter at_ with
      ⟨before, -⟩ | ⟨old, before, -, change⟩ | ⟨-, call, rfl⟩
    · obtain ⟨index, latch, waits, latch_, zero⟩ := sound.opened thread waiter before answered
      obtain ⟨changed, held, still⟩ := transition.zero_stays index latch latch_ zero
      exact ⟨index, changed, waits, held, still⟩
    · cases change with
      | opened index call pastFlag latch waits _ latch_ zero =>
        obtain ⟨changed, held, still⟩ := transition.zero_stays index latch latch_ zero
        exact ⟨index, changed, waits, held, still⟩
      | _ => cases answered
    · cases answered
  case past =>
    intro thread waiter at_ past
    rcases transition.waiter_before thread waiter at_ with
      ⟨before, elsewhere⟩ | ⟨old, before, rfl, change⟩ | ⟨-, call, rfl⟩
    · obtain ⟨unanswered, index, flag, latch, waits, latch_, awake⟩ :=
        sound.past thread waiter before past
      obtain ⟨changed, held, step⟩ := transition.latch_after index latch latch_
      have apart : move ≠ .visit thread := by
        intro mine
        have none_ := elsewhere mine
        rw [waits] at none_
        cases none_
      exact ⟨unanswered, index, flag, changed, waits, held, step.awake thread apart awake⟩
    · cases change with
      | passedFlag index flag latch latch_ awake =>
        cases transition with
        | passedFlag => exact ⟨rfl, index, flag, latch, rfl, latch_, awake⟩
        | _ => simp_all
      | _ => cases past
    · cases past
  case alone =>
    intro index thread other waiter rival at_ at_other holds holds_other
    rcases transition.holder_before index thread waiter at_ holds with before | ⟨mine, free⟩ <;>
      rcases transition.holder_before index other rival at_other holds_other with
        before_other | ⟨mine_other, free'⟩
    · exact sound.alone index thread other waiter rival before before_other holds holds_other
    · cases free'.symm.trans (not_free_of_holds index thread waiter before holds)
    · cases free.symm.trans (not_free_of_holds index other rival before_other holds_other)
    · rw [mine] at mine_other
      cases mine_other
      rfl

end Room

end GatedRun.Sync
