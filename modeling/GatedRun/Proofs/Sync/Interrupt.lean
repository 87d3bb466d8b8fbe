import GatedRun.Proofs.Sync.Looks

/-!
# Interrupts

A wait looks at its flag before it looks at the count, and holds the lock of the latch meanwhile. So
a flag that went up before the latch opened, and that nobody else has used up, is `Held` for the
wait: it will find the flag up, and it will not find the latch open before that. Once the flag is
down, and until somebody raises it again, it stops nobody.
-/

namespace GatedRun.Sync

namespace Room

variable {room after last : Room} {move : Move} {notes more : List FlagNote}

/-- Somebody other than the thread has used up a flag: he took it, or it stopped his wait. -/
def UsedUp (room last : Room) (flag thread : Nat) (notes : List FlagNote) : Prop :=
  .taken flag ∈ notes ∨ ∃ other, other ≠ thread ∧ room.isStopped flag other = false ∧
    last.isStopped flag other = true

/-! ### A flag that is up -/

/-- The flag is up, and the wait that it may stop looks at it before it finds the latch open. -/
structure Held (room : Room) (thread index flag : Nat) : Prop where
  up : room.isRaised flag = true
  waiting : ∀ waiter, room.waiters[thread]? = some waiter →
    waiter.call = .latchOrInterrupt index flag → waiter.answer = none ∧
      (waiter.pastFlag = true → ∀ latch, room.latches[index]? = some latch → latch.count ≠ 0)

/-- A flag that is up stays up, or stops the wait, or somebody else uses it up. -/
theorem Transition.held (thread index flag : Nat) (sound : room.Sound)
    (transition : room.Transition move after) (held : room.Held thread index flag) :
    after.Held thread index flag ∨ after.isStopped flag thread = true ∨
      room.UsedUp after flag thread (room.told move) := by
  by_cases still : after.isRaised flag = true
  · by_cases stopped : after.isStopped flag thread = true
    · exact .inr (.inl stopped)
    refine .inl ⟨still, ?_⟩
    intro waiter at_ call
    rcases transition.waiter_before thread waiter at_ with
      ⟨before, -⟩ | ⟨old, before, -, change⟩ | ⟨-, -, rfl⟩
    · obtain ⟨unanswered, positive⟩ := held.waiting waiter before call
      refine ⟨unanswered, ?_⟩
      intro past latch latch_
      obtain ⟨-, index', flag', latch', call', latch_', -⟩ := sound.past thread waiter before past
      cases call.symm.trans call'
      have locked := not_free_of_holds index thread waiter before (by
        simp [Waiter.holds, past, call, WaitCall.latch?])
      obtain ⟨changed, latch_'', step⟩ := transition.latch_after index latch' latch_'
      cases latch_.symm.trans latch_''
      rw [step.locked locked]
      exact positive past latch' latch_'
    · cases change with
      | interrupted index' own free up =>
        cases call
        have now : after.isStopped flag thread = true :=
          (isStopped_iff flag thread).mpr ⟨_, at_, by simp [Waiter.isStoppedBy]⟩
        exact absurd now stopped
      | passedFlag index' own latch latch_ awake free down =>
        cases call
        rw [(isRaised_iff flag).mp held.up] at down
        cases down
      | opened index' _ past latch waits look latch_ zero =>
        cases call
        cases waits
        exact absurd zero ((held.waiting _ before rfl).2 (look flag rfl) latch latch_)
      | slept => exact ⟨rfl, fun past => by cases past⟩
      | passedGate => cases call
    · exact ⟨rfl, fun past => by cases past⟩
  · rw [Bool.not_eq_true] at still
    rcases transition.flag_cases flag with same | ⟨-, up⟩ | ⟨rfl, -⟩ | ⟨own, new, -, -, stopped⟩
    · cases still.symm.trans (same.trans held.up)
    · cases still.symm.trans up
    · exact .inr (.inr (.inl (by simp [told, held.up])))
    · by_cases mine : own = thread
      · exact .inr (.inl (mine ▸ stopped))
      · exact .inr (.inr (.inr ⟨own, mine, new, stopped⟩))

theorem UsedUp.step (flag thread : Nat) (used : room.UsedUp after flag thread notes)
    (transition : after.Transition move last) (more : List FlagNote) :
    room.UsedUp last flag thread (notes ++ more) := by
  rcases used with taken | ⟨other, apart, before, stopped⟩
  · exact .inl (List.mem_append_left _ taken)
  · exact .inr ⟨other, apart, before, transition.isStopped_kept flag other stopped⟩

theorem Sound.held_of_replay (thread index flag : Nat) (sound : room.Sound)
    (held : room.Held thread index flag) (moves : List Move)
    (ran : GatedRun.replay advance room moves = some (last, more))
    (mine : ¬ room.UsedUp last flag thread more) :
    last.Held thread index flag ∨ last.isStopped flag thread = true := by
  have kept := replay_preserves
    (fun state known => state.Sound ∧ (state.Held thread index flag ∨
      state.isStopped flag thread = true ∨ room.UsedUp state flag thread known) ∧
      ∀ other, room.isStopped flag other = true → state.isStopped flag other = true)
    room last moves [] more ?_ ⟨sound, .inl held, fun _ => id⟩ ran
  · rcases kept.2.1 with held | stopped | used
    · exact .inl held
    · exact .inr stopped
    · exact absurd used mine
  rintro state move next known new - ⟨sound, standing, grown⟩ stepped
  obtain ⟨transition, rfl⟩ := (advance_eq_some_iff new).mp stepped
  refine ⟨sound.step transition, ?_, fun other before =>
    transition.isStopped_kept flag other (grown other before)⟩
  rcases standing with held | stopped | used
  · refine (transition.held thread index flag sound held).imp_right (Or.imp_right fun used => ?_)
    rcases used with taken | ⟨other, apart, before, stopped⟩
    · exact .inl (List.mem_append_right _ taken)
    · refine .inr ⟨other, apart, ?_, stopped⟩
      rw [← Bool.not_eq_true] at before ⊢
      exact fun early => before (grown other early)
  · exact .inr (.inl (transition.isStopped_kept flag thread stopped))
  · exact .inr (.inr (used.step flag thread transition _))

/-! ### A flag that is down -/

/-- A flag that nobody raises stays down and stops nobody. -/
theorem down_of_replay (flag : Nat) (down : room.isRaised flag = false) (moves : List Move)
    (ran : GatedRun.replay advance room moves = some (last, more))
    (calm : FlagNote.lifted flag ∉ more) : last.isRaised flag = false ∧
      ∀ thread, last.isStopped flag thread = true → room.isStopped flag thread = true := by
  have kept := replay_preserves
    (fun state known => FlagNote.lifted flag ∈ known ∨ state.isRaised flag = false ∧
      ∀ thread, state.isStopped flag thread = true → room.isStopped flag thread = true)
    room last moves [] more ?_ (.inr ⟨down, fun _ => id⟩) ran
  · exact kept.resolve_left calm
  rintro state move next known new - standing stepped
  obtain ⟨transition, rfl⟩ := (advance_eq_some_iff new).mp stepped
  rcases standing with lifted | ⟨down, none⟩
  · exact .inl (List.mem_append_left _ lifted)
  have old (thread : Nat) (stopped : next.isStopped flag thread = true) :
      room.isStopped flag thread = true := by
    apply none
    cases new : state.isStopped flag thread with
    | true => rfl
    | false => cases down.symm.trans (transition.isStopped_new flag thread stopped new).1
  rcases transition.flag_cases flag with same | ⟨rfl, -⟩ | ⟨-, down⟩ | ⟨-, -, up, -⟩
  · exact .inr ⟨same.trans down, old⟩
  · exact .inl (List.mem_append_right _ (by simp [told, down]))
  · exact .inr ⟨down, old⟩
  · cases down.symm.trans up

/-! ### Runs of a room -/

theorem Sound.replay (sound : room.Sound) (moves : List Move)
    (ran : GatedRun.replay advance room moves = some (last, more)) : last.Sound :=
  replay_preserves (fun state _ => state.Sound) room last moves [] more
    (fun _ _ _ _ new _ sound stepped => sound.step ((advance_eq_some_iff new).mp stepped).1)
    sound ran

/-- Each time a flag went up, it stopped one wait, or somebody took it, or it is up. -/
theorem lifted_count (flag : Nat) (moves : List Move)
    (ran : GatedRun.replay advance {} moves = some (room, notes)) :
    notes.count (.lifted flag) =
      room.stops flag + notes.count (.taken flag) + (room.isRaised flag).toNat := by
  refine replay_preserves (fun state known => known.count (.lifted flag) =
    state.stops flag + known.count (.taken flag) + (state.isRaised flag).toNat)
    {} room moves [] notes ?_ rfl ran
  intro state move next known new _ balanced stepped
  obtain ⟨transition, rfl⟩ := (advance_eq_some_iff new).mp stepped
  have step := transition.conserved flag
  simp only [List.count_append]
  omega

/-- A wait on a latch that was not open when its flag was raised, nor answered by then, does not
find the latch open: it is stopped, or it is not answered and can be stopped. -/
theorem Sound.stopped_of_raised (sound : room.Sound) (thread index flag : Nat)
    (waits : room.answer? thread = none)
    (closed : ∀ latch, room.latches[index]? = some latch → latch.count ≠ 0)
    (raised : room.advance (.raise flag) = some (after, notes)) (later : List Move)
    (ran : GatedRun.replay advance after later = some (last, more))
    (mine : ¬ after.UsedUp last flag thread more) (waiter : Waiter)
    (at_ : last.waiters[thread]? = some waiter)
    (call : waiter.call = .latchOrInterrupt index flag) :
    waiter.answer = some (.latch .interrupted) ∨ waiter.answer = none ∧
      last.isRaised flag = true ∧ (index < last.latches.length →
        ∃ final : Room, last.CanLook final ∧
          final.answer? thread = some (.latch .interrupted)) := by
  obtain ⟨transition, -⟩ := (advance_eq_some_iff notes).mp raised
  have sound := sound.step transition
  have held : after.Held thread index flag := by
    cases transition with
    | raised _ known =>
      refine ⟨by simp [isRaised, known], ?_⟩
      intro waiter at_ _
      have at_ : room.waiters[thread]? = some waiter := at_
      exact ⟨by simpa [answer?, at_] using waits, fun _ latch latch_ => closed latch latch_⟩
  rcases sound.held_of_replay thread index flag held later ran mine with held | stopped
  · obtain ⟨unanswered, positive⟩ := held.waiting waiter at_ call
    refine .inr ⟨unanswered, held.up, ?_⟩
    intro known
    obtain ⟨call', past, answer⟩ := waiter
    cases call
    cases unanswered
    have latch_ := List.getElem?_eq_getElem known
    obtain ⟨final, looks, ⟨passed, zero, -⟩ | ⟨flags, latch', ready, -⟩⟩ :=
      (sound.replay later ran).can_look thread index flag past _ at_ latch_
    · exact absurd zero (positive passed _ latch_)
    · obtain ⟨done, further, answered⟩ := ready.can_be_stopped (by
        rw [isRaised, flags]
        exact held.up)
      exact ⟨done, looks.trans further, answered⟩
  · obtain ⟨waiter', at_', by_⟩ := (isStopped_iff flag thread).mp stopped
    cases at_.symm.trans at_'
    exact .inl ((isStoppedBy_iff flag waiter).mp by_).2

/-- An interruptible wait on an open latch, with its flag down, can find the latch open. -/
theorem Sound.can_open (sound : room.Sound) (thread index flag : Nat) (past : Bool)
    (at_ : room.waiters[thread]? = some ⟨.latchOrInterrupt index flag, past, none⟩)
    (latch : Latch Nat) (latch_ : room.latches[index]? = some latch) (zero : latch.count = 0)
    (down : room.flags[flag]? = some false) :
    ∃ final : Room, room.CanLook final ∧ final.answer? thread = some (.latch .opened) := by
  obtain ⟨last, looks, ⟨-, -, answered⟩ | ⟨flags, latch', ready, count⟩⟩ :=
    sound.can_look thread index flag past latch at_ latch_
  · exact ⟨last, looks, answered⟩
  · obtain ⟨final, further, answered⟩ := ready.can_pass (flags ▸ down) (count.trans zero)
    exact ⟨final, looks.trans further, answered⟩

/-- In any room, whatever its threads do:
* each time a flag went up, it stopped one wait, or somebody took it, or it is up still; it goes
  down with the wait that it stops, so it stops no second one;
* a wait that ended because its latch was open did so at a count of zero;
* a raise before the latch opens stops the wait, unless somebody else uses up the flag: the wait is
  never answered otherwise, and as long as it is not answered, looks alone lead to this answer;
* a flag that is down stays down until somebody raises it and stops nobody, and looks alone end a
  wait on an open latch, which is answered as if there had never been a flag. -/
theorem interrupts_conserved (moves : List Move) (room : Room) (notes : List FlagNote)
    (ran : GatedRun.replay advance {} moves = some (room, notes)) :
    (∀ flag, notes.count (.lifted flag) =
      room.stops flag + notes.count (.taken flag) + (room.isRaised flag).toNat) ∧
    (∀ (move : Move) (after : Room) (told : List FlagNote) (flag thread : Nat),
      room.advance move = some (after, told) → room.isStopped flag thread = false →
      after.isStopped flag thread = true →
      room.isRaised flag = true ∧ after.isRaised flag = false) ∧
    (∀ thread, room.answer? thread = some (.latch .opened) → ∃ waiter index latch,
      room.waiters[thread]? = some waiter ∧ waiter.call.latch? = some index ∧
      room.latches[index]? = some latch ∧ latch.count = 0) ∧
    (∀ (thread index flag : Nat) (after : Room) (told : List FlagNote) (later : List Move)
      (last : Room) (more : List FlagNote) (waiter : Waiter), room.answer? thread = none →
      (∀ latch, room.latches[index]? = some latch → latch.count ≠ 0) →
      room.advance (.raise flag) = some (after, told) →
      GatedRun.replay advance after later = some (last, more) →
      ¬ after.UsedUp last flag thread more →
      last.waiters[thread]? = some waiter → waiter.call = .latchOrInterrupt index flag →
      waiter.answer = some (.latch .interrupted) ∨ waiter.answer = none ∧
        last.isRaised flag = true ∧ (index < last.latches.length → ∃ final : Room,
          last.CanLook final ∧ final.answer? thread = some (.latch .interrupted))) ∧
    ∀ (flag : Nat) (later : List Move) (last : Room) (more : List FlagNote),
      room.isRaised flag = false → GatedRun.replay advance room later = some (last, more) →
      .lifted flag ∉ more → last.isRaised flag = false ∧
      (∀ thread, last.isStopped flag thread = true → room.isStopped flag thread = true) ∧
      ∀ (thread index : Nat) (past : Bool) (latch : Latch Nat),
        last.waiters[thread]? = some ⟨.latchOrInterrupt index flag, past, none⟩ →
        last.latches[index]? = some latch → latch.count = 0 → flag < last.flags.length →
        ∃ final : Room, last.CanLook final ∧ final.answer? thread = some (.latch .opened) := by
  have sound := empty_sound.replay moves ran
  refine ⟨fun flag => lifted_count flag moves ran, ?_, ?_, ?_, ?_⟩
  · intro move after told flag thread stepped before stopped
    obtain ⟨transition, -⟩ := (advance_eq_some_iff told).mp stepped
    exact transition.isStopped_new flag thread stopped before
  · intro thread answered
    obtain ⟨waiter, at_, answer⟩ := Option.bind_eq_some_iff.mp answered
    obtain ⟨index, latch, waits, latch_, zero⟩ := sound.opened thread waiter at_ answer
    exact ⟨waiter, index, latch, at_, waits, latch_, zero⟩
  · intro thread index flag after told later last more waiter waits closed raised went mine
    exact sound.stopped_of_raised thread index flag waits closed raised later went mine waiter
  · intro flag later last more down went calm
    obtain ⟨still, nobody⟩ := down_of_replay flag down later went calm
    refine ⟨still, nobody, ?_⟩
    intro thread index past latch at_ latch_ zero known
    apply (sound.replay later went).can_open thread index flag past at_ latch latch_ zero
    simpa [isRaised, known] using still

/-- Two threads wait at one latch with one flag, and the first of them sleeps. -/
def twoWaits : List Move :=
  [.addLatch 1, .addFlag, .start (.latchOrInterrupt 0 0), .start (.latchOrInterrupt 0 0),
    .visit 0, .visit 0]

/-- The flag goes up before the latch opens: the first wait is stopped once it looks, and the second
one then finds the latch open. -/
theorem interrupts_conserved_two : ∃ (room after closed last : Room) (notes : List FlagNote),
    GatedRun.replay advance {} twoWaits = some (room, notes) ∧
    room.advance (.raise 0) = some (after, [.lifted 0]) ∧
    GatedRun.replay advance after [.countDown 0] = some (closed, []) ∧
    (∃ final : Room, closed.CanLook final ∧ final.answer? 0 = some (.latch .interrupted)) ∧
    GatedRun.replay advance closed [.visit 0] = some (last, []) ∧
    last.answer? 0 = some (.latch .interrupted) ∧ last.stops 0 = 1 ∧
    ∃ final : Room, last.CanLook final ∧ final.answer? 1 = some (.latch .opened) := by
  have early : GatedRun.replay advance {} twoWaits = some (_, _) := rfl
  have whole : GatedRun.replay advance {} (twoWaits ++ [.raise 0, .countDown 0, .visit 0]) =
      some (_, _) := rfl
  obtain ⟨-, -, -, stopped, -⟩ := interrupts_conserved _ _ _ early
  obtain ⟨-, -, -, -, calm⟩ := interrupts_conserved _ _ _ whole
  refine ⟨_, _, _, _, _, early, rfl, rfl, ?_, rfl, rfl, rfl, ?_⟩
  · have waits := stopped 0 0 0 _ _ [.countDown 0] _ _ ⟨.latchOrInterrupt 0 0, false, none⟩ rfl
      (by rintro latch ⟨⟩; decide) rfl rfl ?_ rfl rfl
    · exact (waits.resolve_left (by decide)).2.2 (by decide)
    -- Nobody else has been stopped yet.
    rintro (taken | ⟨other, -, -, stopped⟩)
    · cases taken
    · match other with
      | 0 | 1 | _ + 2 => cases stopped
  · exact (calm 0 [] _ _ rfl rfl (by decide)).2.2 1 0 false _ rfl rfl rfl (by decide)

end Room

end GatedRun.Sync
