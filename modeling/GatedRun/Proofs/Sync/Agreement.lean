import GatedRun.Proofs.Sync.Interrupt

/-!
# Agreement at a gate

A gate is settled by the first call that opens or abandons it, and stays so (`state_of_replay`). So
all who wait there learn the same, whether they slept there or came later: each of them is answered
out of a settled gate (`Agreed`). Settling wakes all sleepers, and nobody falls asleep at a gate
that is settled, since a thread looks at the gate and falls asleep in one step.
-/

namespace GatedRun.Sync

/-- What a move settles a gate as, if it is a call to open it or to abandon it. -/
def Move.settling? (gate : Nat) : Move → Option GateState
  | .openGate own => if own = gate then some .opened else none
  | .abandonGate own => if own = gate then some .abandoned else none
  | _ => none

theorem Move.settling?_ne_closed (gate : Nat) (move : Move) :
    move.settling? gate ≠ some .closed := by
  cases move with
  | openGate own | abandonGate own =>
    unfold settling?
    split <;> simp
  | _ => simp [settling?]

namespace Room

variable {room after last : Room} {move : Move} {notes more : List FlagNote}

/-! ### One gate -/

/-- What a step can make of a gate. -/
inductive GateChange (move : Move) (index : Nat) (gate : Gate Nat) : Gate Nat → Prop where
  | left (apart : move.settling? index = none) : GateChange move index gate gate
  | settled (state : GateState) (mine : move.settling? index = some state) :
      GateChange move index gate (gate.settle state)
  | slept (thread : Nat) (mine : move = .visit thread) (closed : gate.state = .closed) :
      GateChange move index gate { state := .closed, asleep := thread :: gate.asleep }
  | woke (thread : Nat) (mine : move = .wake thread) :
      GateChange move index gate (gate.wake thread)

/-- A call that settles a gate, whichever gate it is about. -/
private theorem gate_settled (own index : Nat) (gate : Gate Nat) (state : GateState)
    (at_ : room.gates[index]? = some gate)
    (settles : move.settling? index = if own = index then some state else none) :
    ∃ changed, (room.gates.modify own (·.settle state))[index]? = some changed ∧
      GateChange move index gate changed := by
  by_cases mine : own = index
  · subst mine
    rw [if_pos rfl] at settles
    rw [modify_eq_set_of_getElem? _ _ _ _ at_,
      List.getElem?_set_self (List.getElem?_eq_some_iff.mp at_).1]
    exact ⟨_, rfl, .settled state settles⟩
  · rw [if_neg mine] at settles
    exact ⟨gate, by simp [mine, at_], .left settles⟩

theorem Transition.gate_changed (transition : room.Transition move after) (index : Nat)
    (gate : Gate Nat) (at_ : room.gates[index]? = some gate) :
    ∃ changed, after.gates[index]? = some changed ∧ GateChange move index gate changed := by
  cases transition with
  | addedGate =>
    have below := (List.getElem?_eq_some_iff.mp at_).1
    exact ⟨gate, by rw [List.getElem?_append_left below, at_], .left rfl⟩
  | openedGate own => exact gate_settled own index gate .opened at_ rfl
  | abandonedGate own => exact gate_settled own index gate .abandoned at_ rfl
  | sleptAtGate thread own past held _ gate_ _ closed =>
    exact getElem?_set_related (GateChange _) _ _ _ gate _ _ at_ gate_
      (.slept thread rfl closed) fun _ => .left rfl
  | wokeAtGate thread own past held _ gate_ =>
    exact getElem?_set_related (GateChange _) _ _ _ gate _ _ at_ gate_ (.woke thread rfl)
      fun _ => .left rfl
  | _ => exact ⟨gate, at_, .left rfl⟩

theorem Transition.gate_before (transition : room.Transition move after) (index : Nat)
    (changed : Gate Nat) (at_ : after.gates[index]? = some changed) :
    (∃ gate, room.gates[index]? = some gate ∧ GateChange move index gate changed) ∨
      changed = {} := by
  rcases getElem?_before (GateChange move index) room.gates after.gates index changed at_
    (transition.gate_changed index) with known | above
  · exact .inl known
  · right
    -- No step but the making of a gate makes the list longer.
    cases transition with
    | addedGate =>
      rw [List.getElem?_append_right above] at at_
      exact List.mem_singleton.mp (List.mem_of_getElem? at_)
    | _ => simp_all

variable {index : Nat} {gate changed : Gate Nat}

theorem GateChange.state_eq (change : GateChange move index gate changed) :
    changed.state = if gate.state = .closed then (move.settling? index).getD .closed
      else gate.state := by
  cases change with
  | left apart =>
    rw [apart]
    split
    next closed => exact closed
    · rfl
  | settled state mine =>
    rw [mine]
    by_cases closed : gate.state = .closed <;> simp [Gate.settle, Gate.isSettled, closed]
  | slept thread mine closed => simp [mine, closed, Move.settling?]
  | woke thread mine =>
    rw [mine]
    split
    next closed => exact closed
    · rfl

theorem GateChange.state_of_settled (change : GateChange move index gate changed)
    (settled : gate.state ≠ .closed) : changed.state = gate.state := by
  rw [change.state_eq, if_neg settled]

/-- The sleepers at a settled gate are woken, and no others come. -/
theorem GateChange.asleep_eq_nil (change : GateChange move index gate changed)
    (rested : gate.state ≠ .closed → gate.asleep = []) (settled : changed.state ≠ .closed) :
    changed.asleep = [] := by
  cases change with
  | left => exact rested settled
  | settled state =>
    unfold Gate.settle at settled ⊢
    split
    next already => exact rested (by simpa [Gate.isSettled] using already)
    · rfl
  | slept thread mine closed => exact absurd rfl settled
  | woke thread =>
    have none := rested settled
    simp [Gate.wake, none]

/-- A closed gate is settled by the first call that settles it, and a settled one stays. -/
theorem state_of_replay (index : Nat) (gate : Gate Nat) (at_ : room.gates[index]? = some gate)
    (moves : List Move) (ran : GatedRun.replay advance room moves = some (last, more)) :
    ∃ changed, last.gates[index]? = some changed ∧ changed.state =
      if gate.state = .closed then (moves.findSome? (Move.settling? index)).getD .closed
      else gate.state := by
  induction moves generalizing room gate more with
  | nil =>
    obtain ⟨rfl, -⟩ := (replay_nil_iff room last more).mp ran
    refine ⟨gate, at_, ?_⟩
    split
    next closed => exact closed
    · rfl
  | cons move moves ih =>
    obtain ⟨after, first, rest, stepped, went, rfl⟩ := (replay_cons_iff _ _ _ _ _).mp ran
    obtain ⟨transition, -⟩ := (advance_eq_some_iff first).mp stepped
    obtain ⟨middle, held, change⟩ := transition.gate_changed index gate at_
    obtain ⟨changed, final, state⟩ := ih middle held went
    refine ⟨changed, final, ?_⟩
    rw [state, change.state_eq, List.findSome?_cons]
    have never := move.settling?_ne_closed index
    -- What the first call settles, the later ones leave alone.
    cases settles : move.settling? index with
    | none => split <;> simp_all
    | some settled =>
      have final : settled ≠ .closed := fun same => never (same ▸ settles)
      split <;> simp_all

/-! ### Answers -/

/-- Who waited at a gate was answered out of the gate as it stands settled, and nobody sleeps at a
settled gate. -/
structure Agreed (room : Room) : Prop where
  answered : ∀ (thread index : Nat) (past : Bool) (answer : Answer),
    room.waiters[thread]? = some ⟨.gate index, past, some answer⟩ →
    ∃ gate, room.gates[index]? = some gate ∧ gate.state ≠ .closed ∧
      answer = .gate (gate.state == .opened)
  rested : ∀ (index : Nat) (gate : Gate Nat), room.gates[index]? = some gate →
    gate.state ≠ .closed → gate.asleep = []

theorem empty_agreed : Agreed {} := by
  constructor
  · intro thread index past answer at_
    cases at_
  · intro index gate at_
    cases at_

/-- A wait at a gate ends with a look of its own thread at a gate that is settled. -/
theorem Transition.ended_at_gate (transition : room.Transition move after)
    (thread index : Nat) (past : Bool) (answer : Answer)
    (at_ : after.waiters[thread]? = some ⟨.gate index, past, some answer⟩) :
    room.waiters[thread]? = some ⟨.gate index, past, some answer⟩ ∨ move = .visit thread ∧
      ∃ gate, room.gates[index]? = some gate ∧ gate.state ≠ .closed ∧
        answer = .gate (gate.state == .opened) := by
  rcases transition.waiter_before thread _ at_ with
    ⟨before, -⟩ | ⟨old, before, mine, change⟩ | ⟨-, call, new⟩
  · exact .inl before
  · refine .inr ⟨mine, ?_⟩
    cases change with
    | passedGate own pastFlag opened gate gate_ settled =>
      refine ⟨gate, gate_, ?_⟩
      cases opened <;> simp [settled]
    | opened own call pastFlag latch waits =>
      cases waits
  · cases new

theorem Agreed.step (agreed : room.Agreed) (transition : room.Transition move after) :
    after.Agreed := by
  constructor
  · intro thread index past answer at_
    have seen : ∃ gate, room.gates[index]? = some gate ∧ gate.state ≠ .closed ∧
        answer = .gate (gate.state == .opened) := by
      rcases transition.ended_at_gate thread index past answer at_ with before | ⟨-, now⟩
      · exact agreed.answered thread index past answer before
      · exact now
    obtain ⟨gate, held, settled, rfl⟩ := seen
    obtain ⟨changed, still, change⟩ := transition.gate_changed index gate held
    have same := change.state_of_settled settled
    exact ⟨changed, still, same ▸ settled, by rw [same]⟩
  · intro index changed at_ settled
    rcases transition.gate_before index changed at_ with ⟨gate, held, change⟩ | rfl
    · exact change.asleep_eq_nil (agreed.rested index gate held) settled
    · rfl

theorem Agreed.replay (agreed : room.Agreed) (moves : List Move)
    (ran : GatedRun.replay advance room moves = some (last, more)) : last.Agreed :=
  replay_preserves (fun state _ => state.Agreed) room last moves [] more
    (fun _ _ _ _ new _ agreed stepped => agreed.step ((advance_eq_some_iff new).mp stepped).1)
    agreed ran

/-- A thread that waits at a settled gate is awake, and its next look answers it. -/
theorem Agreed.look (agreed : room.Agreed) (thread index : Nat) (past : Bool)
    (at_ : room.waiters[thread]? = some ⟨.gate index, past, none⟩) (gate : Gate Nat)
    (gate_ : room.gates[index]? = some gate) (settled : gate.state ≠ .closed) :
    room.step (.visit thread) =
      some (room.answer thread (.gate (gate.state == .opened))) := by
  have awake : room.isAsleep thread (.gate index) = false := by
    simp [isAsleep, gate_, Gate.isAsleep, agreed.rested index gate gate_ settled]
  cases state : gate.state with
  | closed => exact absurd state settled
  | opened => simp [Room.step, at_, awake, visit, gate_, Gate.visit, state]
  | abandoned =>
    simp [Room.step, at_, awake, visit, gate_, Gate.visit, state]
    rfl

/-- At any gate, whatever the threads of its room do:
* it stands as the first call to open it or to abandon it has left it, and closed before that; once
  settled it never changes;
* no wait there ends while it is closed: a wait ends with a look of its own thread that finds it
  settled;
* all waits that have ended there were told the same, that it was opened or that it was not, as it
  stands;
* once it is settled nobody sleeps there, and the next look of each thread that waits ends the
  wait. -/
theorem gate_agreement (moves : List Move) (room : Room) (notes : List FlagNote)
    (ran : GatedRun.replay advance {} moves = some (room, notes)) :
    (∀ (later : List Move) (last : Room) (more : List FlagNote),
      GatedRun.replay advance room (.addGate :: later) = some (last, more) →
      ∃ gate, last.gates[room.gates.length]? = some gate ∧
        gate.state = (later.findSome? (Move.settling? room.gates.length)).getD .closed) ∧
    (∀ (index : Nat) (gate : Gate Nat) (later : List Move) (last : Room)
      (more : List FlagNote), room.gates[index]? = some gate → gate.state ≠ .closed →
      GatedRun.replay advance room later = some (last, more) →
      ∃ changed, last.gates[index]? = some changed ∧ changed.state = gate.state) ∧
    (∀ (move : Move) (after : Room) (told : List FlagNote) (thread index : Nat) (past : Bool)
      (answer : Answer), room.advance move = some (after, told) → room.answer? thread = none →
      after.waiters[thread]? = some ⟨.gate index, past, some answer⟩ →
      move = .visit thread ∧ ∃ gate, room.gates[index]? = some gate ∧ gate.state ≠ .closed ∧
        answer = .gate (gate.state == .opened)) ∧
    (∀ (thread other index : Nat) (past past' : Bool) (answer answer' : Answer),
      room.waiters[thread]? = some ⟨.gate index, past, some answer⟩ →
      room.waiters[other]? = some ⟨.gate index, past', some answer'⟩ → answer = answer' ∧
      ∃ gate, room.gates[index]? = some gate ∧ gate.state ≠ .closed ∧
        answer = .gate (gate.state == .opened)) ∧
    ∀ (index : Nat) (gate : Gate Nat), room.gates[index]? = some gate → gate.state ≠ .closed →
      gate.asleep = [] ∧ ∀ (thread : Nat) (past : Bool),
        room.waiters[thread]? = some ⟨.gate index, past, none⟩ → room.step (.visit thread) =
          some (room.answer thread (.gate (gate.state == .opened))) := by
  have agreed := empty_agreed.replay moves ran
  refine ⟨?_, ?_, ?_, ?_, ?_⟩
  · intro later last more went
    obtain ⟨after, first, rest, stepped, followed, -⟩ := (replay_cons_iff _ _ _ _ _).mp went
    obtain ⟨transition, -⟩ := (advance_eq_some_iff first).mp stepped
    cases transition with
    | addedGate => exact state_of_replay room.gates.length {} (by simp) later followed
  · intro index gate later last more at_ settled went
    obtain ⟨changed, held, state⟩ := state_of_replay index gate at_ later went
    exact ⟨changed, held, state.trans (if_neg settled)⟩
  · intro move after told thread index past answer stepped waits at_
    obtain ⟨transition, -⟩ := (advance_eq_some_iff told).mp stepped
    apply (transition.ended_at_gate thread index past answer at_).resolve_left
    intro before
    simp [answer?, before] at waits
  · intro thread other index past past' answer answer' at_ at_other
    obtain ⟨gate, held, settled, told⟩ := agreed.answered thread index past answer at_
    obtain ⟨gate', held', -, told'⟩ := agreed.answered other index past' answer' at_other
    obtain rfl := Option.some.inj (held.symm.trans held')
    exact ⟨told.trans told'.symm, gate, held, settled, told⟩
  · intro index gate at_ settled
    refine ⟨agreed.rested index gate at_ settled, ?_⟩
    intro thread past waits
    exact agreed.look thread index past waits gate at_ settled

/-- One thread sleeps at a gate that is then abandoned; a call to open it comes too late, and so
does another thread. -/
def abandonment : List Move :=
  [.start (.gate 0), .visit 0, .wake 0, .visit 0, .abandonGate 0, .openGate 0, .start (.gate 0),
    .visit 1, .visit 0, .start (.gate 0)]

theorem gate_agreement_abandoned : ∃ (room : Room) (gate : Gate Nat) (notes : List FlagNote),
    GatedRun.replay advance {} (.addGate :: abandonment) = some (room, notes) ∧
    room.gates[0]? = some gate ∧ gate.state = .abandoned ∧ gate.asleep = [] ∧
    room.answer? 0 = room.answer? 1 ∧ room.answer? 1 = some (.gate false) ∧
    room.step (.visit 2) = some (room.answer 2 (.gate false)) := by
  have none : GatedRun.replay advance {} [] = some (_, _) := rfl
  have whole : GatedRun.replay advance {} (.addGate :: abandonment) = some (_, _) := rfl
  obtain ⟨first, -⟩ := gate_agreement _ _ _ none
  obtain ⟨-, -, -, same, settled⟩ := gate_agreement _ _ _ whole
  obtain ⟨gate, held, state⟩ := first abandonment _ _ whole
  obtain ⟨empty, look⟩ := settled 0 _ rfl (by decide)
  cases held
  exact ⟨_, _, _, whole, rfl, state, empty, congrArg some (same 0 1 0 false false _ _ rfl rfl).1,
    rfl, look 2 false rfl⟩

end Room

end GatedRun.Sync
