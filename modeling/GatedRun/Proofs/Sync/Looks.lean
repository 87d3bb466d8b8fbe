import GatedRun.Proofs.Sync.Flags

/-!
# Looks

What a wait comes to when those who wait take their turns and nobody else does anything. Somebody
may hold the lock of the latch, and he lets go of it with his next look. A sleeper looks once its
time is up. So an interruptible wait finds its flag up or, with the flag down, its latch open.
-/

namespace GatedRun.Sync

namespace Room

variable {room after last : Room} {move : Move}

/-- The looks of those who wait lead from a room to another. -/
def CanLook (room last : Room) : Prop :=
  ∃ looks : List Move, (∀ move ∈ looks, move.isLook = true) ∧
    GatedRun.replay advance room looks = some (last, [])

theorem CanLook.refl (room : Room) : room.CanLook room :=
  ⟨[], fun _ member => absurd member List.not_mem_nil, rfl⟩

theorem Transition.canLook (transition : room.Transition move after) (look : move.isLook = true) :
    room.CanLook after := by
  have quiet : room.told move = [] := by
    cases move with
    | visit | wake => rfl
    | _ => cases look
  refine ⟨[move], fun other member => ?_, ?_⟩
  · rw [List.mem_singleton.mp member]
    exact look
  · refine (replay_cons_iff _ _ _ _ _).mpr ⟨after, [], [], ?_, rfl, rfl⟩
    exact (advance_eq_some_iff []).mpr ⟨transition, quiet.symm⟩

theorem CanLook.trans (first : room.CanLook after) (second : after.CanLook last) :
    room.CanLook last := by
  obtain ⟨looks, are, ran⟩ := first
  obtain ⟨more, too, went⟩ := second
  refine ⟨looks ++ more, fun move member => ?_, ?_⟩
  · rcases List.mem_append.mp member with member | member
    · exact are move member
    · exact too move member
  · exact (replay_append_iff _ _ _ _ _).mpr ⟨after, [], [], ran, went, rfl⟩

/-! ### The lock of a latch -/

end Room

/-- A thread that holds the lock of a latch looks at the count and lets go. -/
def Waiter.release (index count : Nat) (waiter : Waiter) : Waiter :=
  if waiter.holds index then
    ⟨waiter.call, false, if count = 0 then some (.latch .opened) else none⟩
  else waiter

theorem Waiter.holds_release (index count : Nat) (waiter : Waiter) :
    (waiter.release index count).holds index = false := by
  unfold release
  split
  · rfl
  next idle => exact Bool.not_eq_true _ ▸ idle

namespace Room

variable {room after last : Room}

theorem release_of_free (index count : Nat) (free : room.isFree index = true) :
    room.waiters.map (Waiter.release index count) = room.waiters := by
  have idle (waiter : Waiter) (member : waiter ∈ room.waiters) :
      waiter.release index count = waiter := by
    rw [isFree, List.all_eq_true] at free
    exact if_neg (by simpa using free waiter member)
  rw [List.map_congr_left idle, List.map_id']

/-- Nobody but the holder is changed. -/
theorem Sound.release_of_holder (sound : room.Sound) (index count own : Nat) (holder : Waiter)
    (at_ : room.waiters[own]? = some holder) (holds : holder.holds index = true) :
    room.waiters.map (Waiter.release index count) =
      room.waiters.set own (holder.release index count) := by
  apply List.ext_getElem?
  intro thread
  rw [List.getElem?_map, List.getElem?_set]
  split
  next mine =>
    subst mine
    rw [at_, if_pos (List.getElem?_eq_some_iff.mp at_).1, Option.map_some]
  next apart =>
    cases there : room.waiters[thread]? with
    | none => rfl
    | some waiter =>
      have idle : ¬ waiter.holds index = true := fun also =>
        apart (sound.alone index own thread holder waiter at_ there holds also)
      simp [Waiter.release, idle]

/-- The lock of a latch becomes free, without that flags or counts change. -/
theorem Sound.can_free (sound : room.Sound) (index : Nat) (latch : Latch Nat)
    (latch_ : room.latches[index]? = some latch) : ∃ (last : Room) (latch' : Latch Nat),
      room.CanLook last ∧ last.waiters = room.waiters.map (Waiter.release index latch.count) ∧
      last.flags = room.flags ∧ last.latches[index]? = some latch' ∧
      latch'.count = latch.count := by
  by_cases free : room.isFree index = true
  · exact ⟨room, latch, .refl room, (release_of_free index _ free).symm, rfl, latch_, rfl⟩
  -- The holder is between its two looks.
  rw [Bool.not_eq_true, isFree, List.all_eq_false] at free
  obtain ⟨holder, member, holds⟩ := free
  have holds : holder.holds index = true := by simpa using holds
  obtain ⟨own, at_⟩ := List.getElem?_of_mem member
  have released := sound.release_of_holder index latch.count own holder at_ holds
  obtain ⟨call, past, answer⟩ := holder
  simp only [Waiter.holds, Bool.and_eq_true, beq_iff_eq] at holds
  obtain ⟨rfl, waits⟩ := holds
  obtain ⟨rfl, index', flag, latch', rfl, latch_', awake⟩ := sound.past own _ at_ rfl
  cases waits
  obtain rfl := Option.some.inj (latch_.symm.trans latch_')
  by_cases zero : latch.count = 0
  · have transition := Transition.opened own index _ true latch at_ (.inl ⟨flag, rfl, rfl⟩) latch_
      awake zero
    refine ⟨_, latch, transition.canLook rfl, ?_, rfl, latch_, rfl⟩
    rw [released]
    simp [Waiter.release, Waiter.holds, WaitCall.latch?, zero]
  · have transition := Transition.slept own index _ true latch at_ (.inl ⟨flag, rfl, rfl⟩) latch_
      awake zero
    have below := (List.getElem?_eq_some_iff.mp latch_).1
    refine ⟨_, _, transition.canLook rfl, ?_, rfl, List.getElem?_set_self below, rfl⟩
    rw [released]
    simp [Waiter.release, Waiter.holds, WaitCall.latch?, zero]

theorem isFree_release (index count : Nat)
    (waiters : after.waiters = room.waiters.map (Waiter.release index count)) :
    after.isFree index = true := by
  rw [isFree, waiters, List.all_map, List.all_eq_true]
  intro waiter _
  simp [Waiter.holds_release]

/-! ### One wait -/

/-- A thread that waits at a latch whose lock is free is about to look. -/
structure Ready (room : Room) (thread index flag : Nat) (latch : Latch Nat) : Prop where
  at_ : room.waiters[thread]? = some ⟨.latchOrInterrupt index flag, false, none⟩
  latch_ : room.latches[index]? = some latch
  awake : latch.isAsleep thread = false
  free : room.isFree index = true

/-- An interruptible wait that has not ended finds the lock free sooner or later and looks at its
flag, unless it was past the flag already and now finds the latch open. -/
theorem Sound.can_look (sound : room.Sound) (thread index flag : Nat) (past : Bool)
    (latch : Latch Nat)
    (at_ : room.waiters[thread]? = some ⟨.latchOrInterrupt index flag, past, none⟩)
    (latch_ : room.latches[index]? = some latch) : ∃ last : Room, room.CanLook last ∧
      (past = true ∧ latch.count = 0 ∧ last.answer? thread = some (.latch .opened) ∨
        last.flags = room.flags ∧
          ∃ latch', last.Ready thread index flag latch' ∧ latch'.count = latch.count) := by
  obtain ⟨middle, latch', looks, waiters, flags, latch_', count⟩ :=
    sound.can_free index latch latch_
  have at_' : middle.waiters[thread]? = some
      (Waiter.release index latch.count ⟨.latchOrInterrupt index flag, past, none⟩) := by
    rw [waiters, List.getElem?_map, at_]
    rfl
  by_cases passes : past = true ∧ latch.count = 0
  · obtain ⟨rfl, zero⟩ := passes
    refine ⟨middle, looks, .inl ⟨rfl, zero, ?_⟩⟩
    simp [answer?, at_', Waiter.release, Waiter.holds, WaitCall.latch?, zero]
  have waits : Waiter.release index latch.count ⟨.latchOrInterrupt index flag, past, none⟩ =
      ⟨.latchOrInterrupt index flag, false, none⟩ := by
    cases past <;> simp_all [Waiter.release, Waiter.holds, WaitCall.latch?]
  rw [waits] at at_'
  have free := isFree_release index latch.count waiters
  by_cases asleep : latch'.isAsleep thread = true
  · have transition := Transition.woke thread index _ false latch' at_' rfl latch_' asleep
    have below := (List.getElem?_eq_some_iff.mp latch_').1
    refine ⟨_, looks.trans (transition.canLook rfl), .inr ⟨flags, latch'.wake thread, ?_, count⟩⟩
    exact ⟨at_', List.getElem?_set_self below, by simp [Latch.isAsleep, Latch.wake], free⟩
  · refine ⟨middle, looks, .inr ⟨flags, latch', ⟨at_', latch_', ?_, free⟩, count⟩⟩
    simpa using asleep

variable {thread index flag : Nat} {latch : Latch Nat}

/-- A look at a raised flag ends the wait. -/
theorem Ready.can_be_stopped (ready : room.Ready thread index flag latch)
    (up : room.isRaised flag = true) :
    ∃ last : Room, room.CanLook last ∧ last.answer? thread = some (.latch .interrupted) := by
  have transition := Transition.interrupted thread index flag latch ready.at_ ready.latch_
    ready.awake ready.free ((isRaised_iff flag).mp up)
  refine ⟨_, transition.canLook rfl, ?_⟩
  simp [answer?, (List.getElem?_eq_some_iff.mp ready.at_).1]

/-- A look at a flag that is down and another one at an open latch end the wait. -/
theorem Ready.can_pass (ready : room.Ready thread index flag latch)
    (down : room.flags[flag]? = some false) (zero : latch.count = 0) :
    ∃ last : Room, room.CanLook last ∧ last.answer? thread = some (.latch .opened) := by
  have below := (List.getElem?_eq_some_iff.mp ready.at_).1
  have first := Transition.passedFlag thread index flag latch ready.at_ ready.latch_ ready.awake
    ready.free down
  let middle : Room := { room with
    waiters := room.waiters.set thread ⟨.latchOrInterrupt index flag, true, none⟩ }
  have at_' : middle.waiters[thread]? = some ⟨.latchOrInterrupt index flag, true, none⟩ :=
    List.getElem?_set_self below
  have second := Transition.opened thread index _ true latch at_' (.inl ⟨flag, rfl, rfl⟩)
    ready.latch_ ready.awake zero
  refine ⟨_, (first.canLook rfl).trans (second.canLook rfl), ?_⟩
  simp [answer?, middle, below]

end Room

end GatedRun.Sync
