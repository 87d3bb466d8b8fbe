import GatedRun.Proofs.Lists
import GatedRun.Sync.Room

/-!
# Transitions of a room

`Room.Transition` lists all that a step in a room can do, each with the guard under which it does
it. `step_transition` is the inversion of the step function, and `Transition.step` its converse.

A thread that waits at a latch is asleep there or awake. Awake, it looks at the flag that may
interrupt it, if there is one, and then at the count, and it counts as past the flag in between.
-/

namespace GatedRun.Sync

namespace Room

/-- What a step in a room can do. -/
inductive Transition (room : Room) : Move → Room → Prop where
  | addedLatch (count : Nat) :
      Transition room (.addLatch count) { room with latches := room.latches ++ [Latch.new count] }
  | addedGate : Transition room .addGate { room with gates := room.gates ++ [{}] }
  | addedFlag : Transition room .addFlag { room with flags := room.flags ++ [false] }
  | countedDown (index : Nat) (free : room.isFree index = true) :
      Transition room (.countDown index)
        { room with latches := room.latches.modify index Latch.countDown }
  | openedGate (index : Nat) : Transition room (.openGate index)
      { room with gates := room.gates.modify index Gate.openUp }
  | abandonedGate (index : Nat) : Transition room (.abandonGate index)
      { room with gates := room.gates.modify index Gate.abandon }
  | raised (flag : Nat) (known : flag < room.flags.length) :
      Transition room (.raise flag) { room with flags := room.flags.set flag true }
  | lowered (flag : Nat) (known : flag < room.flags.length) :
      Transition room (.take flag) { room with flags := room.flags.set flag false }
  | started (call : WaitCall) :
      Transition room (.start call) { room with waiters := room.waiters ++ [{ call := call }] }
  -- A thread that waits at a latch looks at its flag, and at the count.
  | interrupted (thread index flag : Nat) (latch : Latch Nat)
      (at_ : room.waiters[thread]? = some ⟨.latchOrInterrupt index flag, false, none⟩)
      (latch_ : room.latches[index]? = some latch) (awake : latch.isAsleep thread = false)
      (free : room.isFree index = true) (up : room.flags[flag]? = some true) :
      Transition room (.visit thread) { room with
        flags := room.flags.set flag false
        waiters := room.waiters.set thread
          ⟨.latchOrInterrupt index flag, false, some (.latch .interrupted)⟩ }
  | passedFlag (thread index flag : Nat) (latch : Latch Nat)
      (at_ : room.waiters[thread]? = some ⟨.latchOrInterrupt index flag, false, none⟩)
      (latch_ : room.latches[index]? = some latch) (awake : latch.isAsleep thread = false)
      (free : room.isFree index = true) (down : room.flags[flag]? = some false) :
      Transition room (.visit thread) { room with
        waiters := room.waiters.set thread ⟨.latchOrInterrupt index flag, true, none⟩ }
  | opened (thread index : Nat) (call : WaitCall) (pastFlag : Bool) (latch : Latch Nat)
      (at_ : room.waiters[thread]? = some ⟨call, pastFlag, none⟩)
      (turn : (∃ flag, call = .latchOrInterrupt index flag ∧ pastFlag = true) ∨
        call = .latch index ∧ room.isFree index = true)
      (latch_ : room.latches[index]? = some latch) (awake : latch.isAsleep thread = false)
      (zero : latch.count = 0) :
      Transition room (.visit thread) { room with
        waiters := room.waiters.set thread ⟨call, false, some (.latch .opened)⟩ }
  | slept (thread index : Nat) (call : WaitCall) (pastFlag : Bool) (latch : Latch Nat)
      (at_ : room.waiters[thread]? = some ⟨call, pastFlag, none⟩)
      (turn : (∃ flag, call = .latchOrInterrupt index flag ∧ pastFlag = true) ∨
        call = .latch index ∧ room.isFree index = true)
      (latch_ : room.latches[index]? = some latch) (awake : latch.isAsleep thread = false)
      (positive : latch.count ≠ 0) :
      Transition room (.visit thread) { room with
        waiters := room.waiters.set thread ⟨call, false, none⟩
        latches := room.latches.set index { latch with asleep := thread :: latch.asleep } }
  -- A thread that waits at a gate looks at it.
  | passedGate (thread index : Nat) (pastFlag : Bool) (gate : Gate Nat) (opened : Bool)
      (at_ : room.waiters[thread]? = some ⟨.gate index, pastFlag, none⟩)
      (gate_ : room.gates[index]? = some gate) (awake : gate.isAsleep thread = false)
      (settled : gate.state = if opened then .opened else .abandoned) :
      Transition room (.visit thread) { room with
        waiters := room.waiters.set thread ⟨.gate index, false, some (.gate opened)⟩ }
  | sleptAtGate (thread index : Nat) (pastFlag : Bool) (gate : Gate Nat)
      (at_ : room.waiters[thread]? = some ⟨.gate index, pastFlag, none⟩)
      (gate_ : room.gates[index]? = some gate) (awake : gate.isAsleep thread = false)
      (closed : gate.state = .closed) :
      Transition room (.visit thread) { room with
        gates := room.gates.set index { state := .closed, asleep := thread :: gate.asleep } }
  -- A sleeper wakes.
  | woke (thread index : Nat) (call : WaitCall) (pastFlag : Bool) (latch : Latch Nat)
      (at_ : room.waiters[thread]? = some ⟨call, pastFlag, none⟩)
      (waits : call.latch? = some index) (latch_ : room.latches[index]? = some latch)
      (asleep : latch.isAsleep thread = true) :
      Transition room (.wake thread)
        { room with latches := room.latches.set index (latch.wake thread) }
  | wokeAtGate (thread index : Nat) (pastFlag : Bool) (gate : Gate Nat)
      (at_ : room.waiters[thread]? = some ⟨.gate index, pastFlag, none⟩)
      (gate_ : room.gates[index]? = some gate) (asleep : gate.isAsleep thread = true) :
      Transition room (.wake thread)
        { room with gates := room.gates.set index (gate.wake thread) }

variable {room after : Room} {move : Move}

/-! ### The inversion -/

private theorem lookAtFlag_transition (thread index flag : Nat)
    (at_ : room.waiters[thread]? = some ⟨.latchOrInterrupt index flag, false, none⟩)
    (awake : room.isAsleep thread (.latchOrInterrupt index flag) = false)
    (free : room.isFree index = true) (looked : room.lookAtFlag thread index flag = some after) :
    room.Transition (.visit thread) after := by
  unfold lookAtFlag at looked
  split at looked
  next latch raised latch_ flag_ =>
    have awake : latch.isAsleep thread = false := by simpa [isAsleep, latch_] using awake
    split at looked
    next up =>
      subst up
      cases looked
      rw [answer, onWaiter, modify_eq_set_of_getElem? _ _ _ _ at_]
      exact .interrupted thread index flag latch at_ latch_ awake free flag_
    next down =>
      rw [Bool.not_eq_true] at down
      subst down
      cases looked
      rw [set_eq_self_of_getElem? _ _ _ flag_, onWaiter, modify_eq_set_of_getElem? _ _ _ _ at_]
      exact .passedFlag thread index flag latch at_ latch_ awake free flag_
  · cases looked

private theorem lookAtCount_transition (thread index : Nat) (call : WaitCall) (pastFlag : Bool)
    (at_ : room.waiters[thread]? = some ⟨call, pastFlag, none⟩)
    (turn : (∃ flag, call = .latchOrInterrupt index flag ∧ pastFlag = true) ∨
      call = .latch index ∧ room.isFree index = true)
    (awake : room.isAsleep thread call = false)
    (looked : room.lookAtCount thread index = some after) :
    room.Transition (.visit thread) after := by
  unfold lookAtCount at looked
  split at looked
  · cases looked
  next latch latch_ =>
    have awake : latch.isAsleep thread = false := by
      rcases turn with ⟨flag, rfl, -⟩ | ⟨rfl, -⟩ <;> simpa [isAsleep, latch_] using awake
    by_cases zero : latch.count = 0
    · simp only [Latch.visit, Latch.isOpen, zero] at looked
      cases looked
      rw [answer, onWaiter, modify_eq_set_of_getElem? _ _ _ _ at_]
      exact .opened thread index call pastFlag latch at_ turn latch_ awake zero
    · simp only [Latch.visit, Latch.isOpen, zero, beq_iff_eq, if_false] at looked
      cases looked
      rw [onWaiter, modify_eq_set_of_getElem? _ _ _ _ at_]
      exact .slept thread index call pastFlag latch at_ turn latch_ awake zero

private theorem visitGate_transition (thread index : Nat) (pastFlag : Bool)
    (at_ : room.waiters[thread]? = some ⟨.gate index, pastFlag, none⟩)
    (awake : room.isAsleep thread (.gate index) = false)
    (looked : room.visit thread pastFlag (.gate index) = some after) :
    room.Transition (.visit thread) after := by
  simp only [visit] at looked
  split at looked
  · cases looked
  next gate gate_ =>
    have awake : gate.isAsleep thread = false := by simpa [isAsleep, gate_] using awake
    cases state : gate.state with
    | closed =>
      simp only [Gate.visit, state] at looked
      cases looked
      exact .sleptAtGate thread index pastFlag gate at_ gate_ awake state
    | opened =>
      simp only [Gate.visit, state] at looked
      cases looked
      rw [answer, onWaiter, modify_eq_set_of_getElem? _ _ _ _ at_]
      exact .passedGate thread index pastFlag gate true at_ gate_ awake state
    | abandoned =>
      simp only [Gate.visit, state] at looked
      cases looked
      rw [answer, onWaiter, modify_eq_set_of_getElem? _ _ _ _ at_]
      exact .passedGate thread index pastFlag gate false at_ gate_ awake state

private theorem visit_transition (thread : Nat) (call : WaitCall) (pastFlag : Bool)
    (at_ : room.waiters[thread]? = some ⟨call, pastFlag, none⟩)
    (awake : room.isAsleep thread call = false)
    (looked : room.visit thread pastFlag call = some after) :
    room.Transition (.visit thread) after := by
  cases call with
  | latch index =>
    simp only [visit] at looked
    split at looked
    next free =>
      exact lookAtCount_transition thread index _ pastFlag at_ (.inr ⟨rfl, free⟩) awake looked
    · cases looked
  | latchOrInterrupt index flag =>
    simp only [visit] at looked
    split at looked
    next past =>
      exact lookAtCount_transition thread index _ pastFlag at_ (.inl ⟨flag, rfl, past⟩) awake
        looked
    next fresh =>
      rw [Bool.not_eq_true] at fresh
      subst fresh
      split at looked
      next free => exact lookAtFlag_transition thread index flag at_ awake free looked
      · cases looked
  | gate index => exact visitGate_transition thread index pastFlag at_ awake looked

private theorem wake_transition (thread : Nat) (call : WaitCall) (pastFlag : Bool)
    (at_ : room.waiters[thread]? = some ⟨call, pastFlag, none⟩)
    (asleep : room.isAsleep thread call = true) :
    room.Transition (.wake thread) (room.wake thread call) := by
  have there {β : Type} (items : List β) (index : Nat) (test : β → Bool)
      (holds : (items[index]?.map test).getD false = true) :
      ∃ item, items[index]? = some item ∧ test item = true := by
    cases held : items[index]? with
    | none => simp [held] at holds
    | some item => exact ⟨item, rfl, by simpa [held] using holds⟩
  cases call with
  | latch index =>
    obtain ⟨latch, latch_, asleep⟩ := there room.latches index _ asleep
    rw [wake, modify_eq_set_of_getElem? _ _ _ _ latch_]
    exact .woke thread index _ pastFlag latch at_ rfl latch_ asleep
  | latchOrInterrupt index flag =>
    obtain ⟨latch, latch_, asleep⟩ := there room.latches index _ asleep
    rw [wake, modify_eq_set_of_getElem? _ _ _ _ latch_]
    exact .woke thread index _ pastFlag latch at_ rfl latch_ asleep
  | gate index =>
    obtain ⟨gate, gate_, asleep⟩ := there room.gates index _ asleep
    rw [wake, modify_eq_set_of_getElem? _ _ _ _ gate_]
    exact .wokeAtGate thread index pastFlag gate at_ gate_ asleep

/-- Every step in a room is one of the transitions. -/
theorem step_transition (stepped : room.step move = some after) :
    room.Transition move after := by
  cases move with
  | addLatch count =>
    cases stepped
    exact .addedLatch count
  | addGate =>
    cases stepped
    exact .addedGate
  | addFlag =>
    cases stepped
    exact .addedFlag
  | countDown index =>
    simp only [step] at stepped
    split at stepped
    next free =>
      cases stepped
      exact .countedDown index free
    · cases stepped
  | openGate index =>
    cases stepped
    exact .openedGate index
  | abandonGate index =>
    cases stepped
    exact .abandonedGate index
  | raise flag =>
    simp only [step] at stepped
    split at stepped
    next known =>
      cases stepped
      exact .raised flag known
    · cases stepped
  | take flag =>
    simp only [step] at stepped
    split at stepped
    next known =>
      cases stepped
      exact .lowered flag known
    · cases stepped
  | start call =>
    cases stepped
    exact .started call
  | visit thread =>
    simp only [step] at stepped
    split at stepped
    next call pastFlag at_ =>
      split at stepped
      · cases stepped
      next awake =>
        exact visit_transition thread call pastFlag at_ (by simpa using awake) stepped
    · cases stepped
  | wake thread =>
    simp only [step] at stepped
    split at stepped
    next call pastFlag at_ =>
      split at stepped
      next asleep =>
        cases stepped
        exact wake_transition thread call pastFlag at_ asleep
      · cases stepped
    · cases stepped

/-! ### The transitions are possible -/

private theorem lookAtCount_of_turn (thread index : Nat) (call : WaitCall) (pastFlag : Bool)
    (latch : Latch Nat) (at_ : room.waiters[thread]? = some ⟨call, pastFlag, none⟩)
    (turn : (∃ flag, call = .latchOrInterrupt index flag ∧ pastFlag = true) ∨
      call = .latch index ∧ room.isFree index = true)
    (latch_ : room.latches[index]? = some latch) (awake : latch.isAsleep thread = false) :
    room.step (.visit thread) = room.lookAtCount thread index := by
  rcases turn with ⟨flag, rfl, rfl⟩ | ⟨rfl, free⟩
  · simp [step, at_, isAsleep, latch_, awake, visit]
  · simp [step, at_, isAsleep, latch_, awake, visit, free]

theorem Transition.step (transition : room.Transition move after) :
    room.step move = some after := by
  cases transition with
  | countedDown index free => simp [Room.step, free]
  | raised flag known | lowered flag known => simp [Room.step, known]
  | interrupted thread index flag latch at_ latch_ awake free up =>
    simp [Room.step, at_, isAsleep, latch_, awake, visit, free, lookAtFlag, up, answer, onWaiter,
      modify_eq_set_of_getElem? _ _ _ _ at_]
  | passedFlag thread index flag latch at_ latch_ awake free down =>
    simp [Room.step, at_, isAsleep, latch_, awake, visit, free, lookAtFlag, down, onWaiter,
      set_eq_self_of_getElem? _ _ _ down, modify_eq_set_of_getElem? _ _ _ _ at_]
  | opened thread index call pastFlag latch at_ turn latch_ awake zero =>
    rw [lookAtCount_of_turn thread index call pastFlag latch at_ turn latch_ awake]
    simp [lookAtCount, latch_, Latch.visit, Latch.isOpen, zero, answer, onWaiter,
      modify_eq_set_of_getElem? _ _ _ _ at_]
  | slept thread index call pastFlag latch at_ turn latch_ awake positive =>
    rw [lookAtCount_of_turn thread index call pastFlag latch at_ turn latch_ awake]
    simp [lookAtCount, latch_, Latch.visit, Latch.isOpen, positive, onWaiter,
      modify_eq_set_of_getElem? _ _ _ _ at_]
  | passedGate thread index pastFlag gate opened at_ gate_ awake settled =>
    cases opened <;> simp_all [Room.step, isAsleep, visit, Gate.visit, answer, onWaiter,
      modify_eq_set_of_getElem? _ _ _ _ at_]
  | sleptAtGate thread index pastFlag gate at_ gate_ awake closed =>
    simp [Room.step, at_, isAsleep, gate_, awake, visit, Gate.visit, closed]
  | woke thread index call pastFlag latch at_ waits latch_ asleep =>
    cases call with
    | gate => cases waits
    | latch | latchOrInterrupt =>
      cases waits
      simp [Room.step, at_, isAsleep, latch_, asleep, wake,
        modify_eq_set_of_getElem? _ _ _ _ latch_]
  | wokeAtGate thread index pastFlag gate at_ gate_ asleep =>
    simp [Room.step, at_, isAsleep, gate_, asleep, wake, modify_eq_set_of_getElem? _ _ _ _ gate_]
  | _ => rfl

end Room

end GatedRun.Sync
