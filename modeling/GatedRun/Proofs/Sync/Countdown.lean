import GatedRun.Proofs.Sync.Interrupt

/-!
# Counting down

A latch counts down by one at a time and stops at zero (`count_of_replay`). The step that reaches
zero wakes its sleepers, and no later step does. That is enough, since nobody falls asleep at an
open latch: a thread looks at the count and falls asleep in one step (`Rested`). So a wait ends only
at a count of zero, and from then on the first look of a wait ends it (`EndsAtOnce`), though it may
have to let somebody else go first who holds the lock.
-/

namespace GatedRun.Sync

namespace Room

variable {room after last : Room} {move : Move} {notes more : List FlagNote}

/-! ### The count -/

theorem LatchChange.count_eq {index : Nat} {latch changed : Latch Nat}
    (change : room.LatchChange move index latch changed) :
    changed.count = latch.count - [move].count (.countDown index) := by
  cases change with
  | left apart => simp [apart]
  | countedDown mine free => simp [mine, latch.count_countDown]
  | slept thread mine => simp [mine]
  | woke thread mine => simp [mine, Latch.wake]

/-- A count goes down by the number of times that it was counted down, and stops at zero. -/
theorem count_of_replay (index : Nat) (latch : Latch Nat) (at_ : room.latches[index]? = some latch)
    (moves : List Move) (ran : GatedRun.replay advance room moves = some (last, more)) :
    ∃ changed, last.latches[index]? = some changed ∧
      changed.count = latch.count - moves.count (.countDown index) := by
  induction moves generalizing room latch more with
  | nil =>
    obtain ⟨rfl, -⟩ := (replay_nil_iff room last more).mp ran
    exact ⟨latch, at_, rfl⟩
  | cons move moves ih =>
    obtain ⟨after, first, rest, stepped, went, rfl⟩ := (replay_cons_iff _ _ _ _ _).mp ran
    obtain ⟨transition, -⟩ := (advance_eq_some_iff first).mp stepped
    obtain ⟨middle, held, change⟩ := transition.latch_changed index latch at_
    obtain ⟨changed, final, count⟩ := ih middle held went
    refine ⟨changed, final, ?_⟩
    calc changed.count
        = latch.count - [move].count (.countDown index) - moves.count (.countDown index) := by
          rw [count, change.count_eq]
      _ = latch.count - ([move] ++ moves).count (.countDown index) := by
          rw [List.count_append, Nat.sub_sub]

/-! ### The sleepers -/

/-- Nobody sleeps at a latch that is open. -/
def Rested (room : Room) : Prop :=
  ∀ (index : Nat) (latch : Latch Nat), room.latches[index]? = some latch → latch.count = 0 →
    latch.asleep = []

theorem LatchChange.asleep_eq_nil {index : Nat} {latch changed : Latch Nat}
    (change : room.LatchChange move index latch changed)
    (rested : latch.count = 0 → latch.asleep = []) (zero : changed.count = 0) :
    changed.asleep = [] := by
  cases change with
  | left => exact rested zero
  | countedDown =>
    unfold Latch.countDown at zero ⊢
    split
    next open_ => exact rested open_
    · rfl
    next more => simp [more] at zero
  | slept thread mine positive => exact absurd zero positive
  | woke thread =>
    have none := rested zero
    simp [Latch.wake, none]

theorem Transition.latch_before (transition : room.Transition move after) (index : Nat)
    (changed : Latch Nat) (at_ : after.latches[index]? = some changed) :
    (∃ latch, room.latches[index]? = some latch ∧ room.LatchChange move index latch changed) ∨
      ∃ count, changed = Latch.new count := by
  rcases getElem?_before (room.LatchChange move index) room.latches after.latches index changed at_
    (transition.latch_changed index) with known | above
  · exact .inl known
  · right
    -- No step but the making of a latch makes the list longer.
    cases transition with
    | addedLatch count =>
      rw [List.getElem?_append_right above] at at_
      exact ⟨count, List.mem_singleton.mp (List.mem_of_getElem? at_)⟩
    | _ => simp_all

theorem empty_rested : Rested {} := by
  intro index latch at_
  cases at_

theorem Rested.step (rested : room.Rested) (transition : room.Transition move after) :
    after.Rested := by
  intro index changed at_ zero
  rcases transition.latch_before index changed at_ with ⟨latch, held, change⟩ | ⟨count, rfl⟩
  · exact change.asleep_eq_nil (rested index latch held) zero
  · rfl

theorem Rested.replay (rested : room.Rested) (moves : List Move)
    (ran : GatedRun.replay advance room moves = some (last, more)) : last.Rested :=
  replay_preserves (fun state _ => state.Rested) room last moves [] more
    (fun _ _ _ _ new _ rested stepped => rested.step ((advance_eq_some_iff new).mp stepped).1)
    rested ran

theorem CanLook.rested (looks : room.CanLook last) (rested : room.Rested) : last.Rested := by
  obtain ⟨moves, -, ran⟩ := looks
  exact rested.replay moves ran

/-! ### Waits at a latch -/

/-- A wait at a latch ends with a look of its own thread, and the count is zero then. -/
theorem Transition.ended_at_latch (transition : room.Transition move after)
    (thread index : Nat) (past : Bool) (answer : Answer)
    (at_ : after.waiters[thread]? = some ⟨.latch index, past, some answer⟩)
    (waits : room.answer? thread = none) :
    move = .visit thread ∧ answer = .latch .opened ∧
      ∃ latch, room.latches[index]? = some latch ∧ latch.count = 0 := by
  rcases transition.waiter_before thread _ at_ with
    ⟨before, -⟩ | ⟨old, before, mine, change⟩ | ⟨-, call, new⟩
  · simp [answer?, before] at waits
  · refine ⟨mine, ?_⟩
    cases change with
    | opened own call pastFlag latch at_latch _ latch_ zero =>
      cases at_latch
      exact ⟨rfl, latch, latch_, zero⟩
  · cases new

/-- A thread that waits at a latch and has not been answered is awake, its look ends the wait as
soon as nobody holds the lock, and looks alone lead there. -/
structure EndsAtOnce (room : Room) (thread index : Nat) : Prop where
  awake : room.isAsleep thread (.latch index) = false
  look : room.step (.visit thread) =
    if room.isFree index then some (room.answer thread (.latch .opened)) else none
  canLook : ∃ final : Room, room.CanLook final ∧
    final.answer? thread = some (.latch .opened)

theorem Rested.look (rested : room.Rested) (thread index : Nat) (past : Bool)
    (at_ : room.waiters[thread]? = some ⟨.latch index, past, none⟩) (latch : Latch Nat)
    (latch_ : room.latches[index]? = some latch) (zero : latch.count = 0) :
    room.isAsleep thread (.latch index) = false ∧ room.step (.visit thread) =
      if room.isFree index then some (room.answer thread (.latch .opened)) else none := by
  have awake : room.isAsleep thread (.latch index) = false := by
    simp [isAsleep, latch_, Latch.isAsleep, rested index latch latch_ zero]
  refine ⟨awake, ?_⟩
  simp [Room.step, at_, awake, visit, lookAtCount, latch_, Latch.visit, Latch.isOpen, zero]

theorem Sound.ends_at_once (sound : room.Sound) (rested : room.Rested) (thread index : Nat)
    (past : Bool) (at_ : room.waiters[thread]? = some ⟨.latch index, past, none⟩)
    (latch : Latch Nat) (latch_ : room.latches[index]? = some latch) (zero : latch.count = 0) :
    room.EndsAtOnce thread index := by
  obtain ⟨awake, look⟩ := rested.look thread index past at_ latch latch_ zero
  refine ⟨awake, look, ?_⟩
  -- Whoever holds the lock lets go of it, and then the thread looks.
  obtain ⟨middle, latch', looks, waiters, -, latch_', count⟩ :=
    sound.can_free index latch latch_
  have idle : past = false := by
    cases past with
    | false => rfl
    | true =>
      obtain ⟨-, index', flag, -, other, -⟩ := sound.past thread _ at_ rfl
      cases other
  have at_' : middle.waiters[thread]? = some ⟨.latch index, past, none⟩ := by
    rw [waiters, List.getElem?_map, at_, idle]
    rfl
  have free := isFree_release index latch.count waiters
  obtain ⟨-, look'⟩ := (looks.rested rested).look thread index past at_' latch' latch_'
    (count.trans zero)
  rw [if_pos free] at look'
  refine ⟨_, looks.trans ((step_transition look').canLook rfl), ?_⟩
  simp [answer?, answer, onWaiter, at_']

/-- At any latch, whatever the threads of its room do:
* its count is the one it was made with, less the number of times that it was counted down, and zero
  where that is more; it never goes up;
* a wait at it ends with a look of its own thread that finds a count of zero;
* once the count is zero nobody sleeps there, and from then on a wait there never falls asleep and
  ends with the first look that it takes. -/
theorem latch_counts_down (moves : List Move) (room : Room) (notes : List FlagNote)
    (ran : GatedRun.replay advance {} moves = some (room, notes)) :
    (∀ (count : Nat) (later : List Move) (last : Room) (more : List FlagNote),
      GatedRun.replay advance room (.addLatch count :: later) = some (last, more) →
      ∃ latch, last.latches[room.latches.length]? = some latch ∧
        latch.count = count - later.count (.countDown room.latches.length)) ∧
    (∀ (index : Nat) (latch : Latch Nat) (later : List Move) (last : Room)
      (more : List FlagNote), room.latches[index]? = some latch →
      GatedRun.replay advance room later = some (last, more) →
      ∃ changed, last.latches[index]? = some changed ∧ changed.count ≤ latch.count) ∧
    (∀ (move : Move) (after : Room) (told : List FlagNote) (thread index : Nat) (past : Bool)
      (answer : Answer), room.advance move = some (after, told) → room.answer? thread = none →
      after.waiters[thread]? = some ⟨.latch index, past, some answer⟩ →
      move = .visit thread ∧ answer = .latch .opened ∧
        ∃ latch, room.latches[index]? = some latch ∧ latch.count = 0) ∧
    ∀ (index : Nat) (latch : Latch Nat), room.latches[index]? = some latch → latch.count = 0 →
      latch.asleep = [] ∧
      ∀ (later : List Move) (last : Room) (more : List FlagNote) (thread : Nat) (past : Bool),
        GatedRun.replay advance room later = some (last, more) →
        last.waiters[thread]? = some ⟨.latch index, past, none⟩ →
        last.EndsAtOnce thread index := by
  have sound := empty_sound.replay moves ran
  have rested := empty_rested.replay moves ran
  refine ⟨?_, ?_, ?_, ?_⟩
  · intro count later last more went
    obtain ⟨after, first, rest, stepped, followed, -⟩ := (replay_cons_iff _ _ _ _ _).mp went
    obtain ⟨transition, -⟩ := (advance_eq_some_iff first).mp stepped
    cases transition with
    | addedLatch =>
      exact count_of_replay room.latches.length (Latch.new count) (by simp) later followed
  · intro index latch later last more at_ went
    obtain ⟨changed, held, count⟩ := count_of_replay index latch at_ later went
    exact ⟨changed, held, count ▸ Nat.sub_le _ _⟩
  · intro move after told thread index past answer stepped waits at_
    obtain ⟨transition, -⟩ := (advance_eq_some_iff told).mp stepped
    exact transition.ended_at_latch thread index past answer at_ waits
  · intro index latch at_ zero
    refine ⟨rested index latch at_ zero, ?_⟩
    intro later last more thread past went waits
    obtain ⟨changed, held, count⟩ := count_of_replay index latch at_ later went
    rw [zero, Nat.zero_sub] at count
    exact (sound.replay later went).ends_at_once (rested.replay later went) thread index past waits
      changed held count

/-- Two threads come to a latch, one of which wakes for no reason and one of which could be
interrupted; then the latch is counted down once more often than it needs. -/
def overrun : List Move :=
  [.addFlag, .start (.latch 0), .start (.latchOrInterrupt 0 0), .visit 0, .wake 0, .visit 0,
    .countDown 0, .visit 1, .visit 1, .countDown 0, .countDown 0]

/-- A third thread comes late, while the second one holds the lock. -/
theorem latch_counts_down_overrun : ∃ (room last : Room) (notes more : List FlagNote),
    GatedRun.replay advance {} (.addLatch 2 :: overrun) = some (room, notes) ∧
    (∃ latch, room.latches[0]? = some latch ∧ latch.count = 2 - overrun.count (.countDown 0)) ∧
    GatedRun.replay advance room [.start (.latch 0), .visit 1] = some (last, more) ∧
    last.isFree 0 = false ∧ last.EndsAtOnce 0 0 ∧ last.EndsAtOnce 2 0 := by
  have none : GatedRun.replay advance {} [] = some (_, _) := rfl
  have whole : GatedRun.replay advance {} (.addLatch 2 :: overrun) = some (_, _) := rfl
  obtain ⟨counts, -⟩ := latch_counts_down _ _ _ none
  obtain ⟨-, -, -, zero⟩ := latch_counts_down _ _ _ whole
  obtain ⟨-, ends⟩ := zero 0 _ rfl rfl
  exact ⟨_, _, _, _, whole, counts 2 overrun _ _ whole, rfl, rfl,
    ends [.start (.latch 0), .visit 1] _ _ 0 false rfl rfl,
    ends [.start (.latch 0), .visit 1] _ _ 2 false rfl rfl⟩

end Room

end GatedRun.Sync
