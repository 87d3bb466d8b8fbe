import GatedRun.Proofs.Sync.Waiters

/-!
# Flags

A flag may be shared by any number of waits at any number of latches, and whoever wants may raise it
or take it down. Each time it goes up it comes down again once, unless it is up still: it stops one
wait, or somebody takes it (`Transition.conserved`).
-/

namespace GatedRun.Sync

/-- What becomes of a flag, other than that it stops a wait. -/
inductive FlagNote where
  /-- It was down and went up. -/
  | lifted (flag : Nat)
  /-- It was up and somebody took it down. -/
  | taken (flag : Nat)
  deriving DecidableEq, Repr

/-- A wait that ended because the flag was up. -/
def Waiter.isStoppedBy (flag : Nat) (waiter : Waiter) : Bool :=
  match waiter.call with
  | .latchOrInterrupt _ own => own == flag && waiter.answer == some (.latch .interrupted)
  | _ => false

/-- A step of a thread that waits. -/
def Move.isLook : Move → Bool
  | .visit _ | .wake _ => true
  | _ => false

namespace Room

/-- What a move lets others know of the flags. -/
def told (room : Room) : Move → List FlagNote
  | .raise flag => if room.isRaised flag then [] else [.lifted flag]
  | .take flag => if room.isRaised flag then [.taken flag] else []
  | _ => []

/-- The step of a room together with what becomes of the flags. -/
def advance (room : Room) (move : Move) : Option (Room × List FlagNote) :=
  (room.step move).map fun after => (after, room.told move)

/-- How many waits a flag has stopped. -/
def stops (room : Room) (flag : Nat) : Nat := room.waiters.countP (Waiter.isStoppedBy flag)

/-- Whether a flag has stopped the wait of a thread. -/
def isStopped (room : Room) (flag thread : Nat) : Bool :=
  room.waiters[thread]?.any (Waiter.isStoppedBy flag)

variable {room after : Room} {move : Move}

theorem advance_eq_some_iff (notes : List FlagNote) :
    room.advance move = some (after, notes) ↔
      room.Transition move after ∧ notes = room.told move := by
  simp only [advance, Option.map_eq_some_iff, Prod.mk.injEq]
  constructor
  · rintro ⟨next, stepped, rfl, rfl⟩
    exact ⟨step_transition stepped, rfl⟩
  · rintro ⟨transition, rfl⟩
    exact ⟨after, transition.step, rfl, rfl⟩

/-! ### Flags -/

theorem isRaised_iff (flag : Nat) : room.isRaised flag = true ↔ room.flags[flag]? = some true := by
  rw [isRaised, List.getD_eq_getElem?_getD]
  cases room.flags[flag]? <;> simp

theorem getD_set_flag (flags : List Bool) (own flag : Nat) (raised : Bool)
    (known : own < flags.length) :
    (flags.set own raised).getD flag false =
      if own = flag then raised else flags.getD flag false := by
  simp only [List.getD_eq_getElem?_getD, List.getElem?_set, known, if_true]
  split <;> rfl

theorem getD_add_flag (flags : List Bool) (flag : Nat) :
    (flags ++ [false]).getD flag false = flags.getD flag false := by
  simp only [List.getD_eq_getElem?_getD, List.getElem?_append]
  split
  · rfl
  next above =>
    rw [List.getElem?_eq_none (Nat.not_lt.mp above)]
    cases flag - flags.length <;> rfl

/-- A flag changes where somebody raises it or takes it down, or where it stops a wait. -/
theorem Transition.flag_cases (transition : room.Transition move after) (flag : Nat) :
    after.isRaised flag = room.isRaised flag ∨
      (move = .raise flag ∧ after.isRaised flag = true) ∨
      (move = .take flag ∧ after.isRaised flag = false) ∨
      ∃ thread, room.isStopped flag thread = false ∧ room.isRaised flag = true ∧
        after.isRaised flag = false ∧ after.isStopped flag thread = true := by
  cases transition with
  | addedFlag => exact .inl (by simp only [isRaised, getD_add_flag])
  | raised own known =>
    simp only [isRaised, getD_set_flag _ _ _ _ known]
    by_cases mine : own = flag
    · exact .inr (.inl ⟨by rw [mine], by simp [mine]⟩)
    · exact .inl (by simp [mine])
  | lowered own known =>
    simp only [isRaised, getD_set_flag _ _ _ _ known]
    by_cases mine : own = flag
    · exact .inr (.inr (.inl ⟨by rw [mine], by simp [mine]⟩))
    · exact .inl (by simp [mine])
  | interrupted thread index own latch at_ latch_ awake free up =>
    have known := (List.getElem?_eq_some_iff.mp up).1
    have below := (List.getElem?_eq_some_iff.mp at_).1
    by_cases mine : own = flag
    · subst mine
      refine .inr (.inr (.inr ⟨thread, ?_, (isRaised_iff own).mpr up, ?_, ?_⟩))
      · simp [isStopped, at_, Waiter.isStoppedBy]
      · simp only [isRaised, getD_set_flag _ _ _ _ known, if_true]
      · simp [isStopped, below, Waiter.isStoppedBy]
    · simp only [isRaised, getD_set_flag _ _ _ _ known, mine, if_false, true_or]
  | _ => exact .inl rfl

/-! ### Waits that a flag has stopped -/

theorem isStopped_iff (flag thread : Nat) : room.isStopped flag thread = true ↔
    ∃ waiter, room.waiters[thread]? = some waiter ∧ waiter.isStoppedBy flag = true :=
  Option.any_eq_true ..

theorem isStoppedBy_iff (flag : Nat) (waiter : Waiter) : waiter.isStoppedBy flag = true ↔
    (∃ index, waiter.call = .latchOrInterrupt index flag) ∧
      waiter.answer = some (.latch .interrupted) := by
  obtain ⟨call, past, answer⟩ := waiter
  cases call <;> simp [Waiter.isStoppedBy]

/-- A wait that a flag has stopped stays so. -/
theorem Transition.isStopped_kept (transition : room.Transition move after) (flag thread : Nat)
    (stopped : room.isStopped flag thread = true) : after.isStopped flag thread = true := by
  obtain ⟨waiter, at_, by_⟩ := (isStopped_iff flag thread).mp stopped
  have ended : waiter.answer ≠ none := by simp [((isStoppedBy_iff flag waiter).mp by_).2]
  have kept := transition.answered_kept thread waiter at_ ended
  exact (isStopped_iff flag thread).mpr ⟨waiter, kept, by_⟩

/-- A flag stops a wait only where it is up, and then it is down. -/
theorem Transition.isStopped_new (transition : room.Transition move after) (flag thread : Nat)
    (stopped : after.isStopped flag thread = true) (new : room.isStopped flag thread = false) :
    room.isRaised flag = true ∧ after.isRaised flag = false := by
  obtain ⟨waiter, at_, by_⟩ := (isStopped_iff flag thread).mp stopped
  have fresh : ¬ (room.waiters[thread]? = some waiter) := fun before => by
    cases new.symm.trans ((isStopped_iff flag thread).mpr ⟨waiter, before, by_⟩)
  rcases transition.waiter_before thread waiter at_ with
    ⟨before, -⟩ | ⟨old, before, rfl, change⟩ | ⟨-, call, rfl⟩
  · exact absurd before fresh
  · obtain ⟨⟨index, waits⟩, interrupted⟩ := (isStoppedBy_iff flag waiter).mp by_
    cases change with
    | interrupted index' own free up =>
      cases waits
      refine ⟨(isRaised_iff flag).mpr up, ?_⟩
      cases transition with
      | interrupted _ _ own latch at_' _ _ _ up' =>
        obtain ⟨-, rfl⟩ : index = _ ∧ flag = own := by simpa [before] using at_'
        have known := (List.getElem?_eq_some_iff.mp up').1
        simp only [isRaised, getD_set_flag _ _ _ _ known, if_true]
      | _ => simp_all
    | _ => cases interrupted
  · cases ((isStoppedBy_iff flag _).mp by_).2

/-- A wait that has not ended does not count, nor does one that ends in another way. -/
theorem stops_set_same (flag thread : Nat) (call : WaitCall) (past past' : Bool)
    (answer : Option Answer) (at_ : room.waiters[thread]? = some ⟨call, past, none⟩)
    (other : answer ≠ some (.latch .interrupted)) :
    (room.waiters.set thread ⟨call, past', answer⟩).countP (Waiter.isStoppedBy flag) =
      room.waiters.countP (Waiter.isStoppedBy flag) := by
  have counted := countP_set_add (Waiter.isStoppedBy flag) room.waiters thread _
    ⟨call, past', answer⟩ at_
  cases call <;> simpa [Waiter.isStoppedBy, other] using counted

/-- Each time a flag goes up, it comes down once: it stops one wait, or somebody takes it. -/
theorem Transition.conserved (flag : Nat) (transition : room.Transition move after) :
    after.stops flag + (room.told move).count (.taken flag) + (after.isRaised flag).toNat =
      room.stops flag + (room.told move).count (.lifted flag) + (room.isRaised flag).toNat := by
  cases transition with
  | addedFlag =>
    simp only [told, stops, isRaised, getD_add_flag]
    rfl
  | raised own known =>
    by_cases mine : own = flag
    · subst mine
      cases held : room.flags[own] <;> simp [told, stops, isRaised, known, held]
    · cases held : room.flags[own] <;> simp [told, stops, isRaised, known, held, mine]
  | lowered own known =>
    by_cases mine : own = flag
    · subst mine
      cases held : room.flags[own] <;> simp [told, stops, isRaised, known, held]
    · cases held : room.flags[own] <;> simp [told, stops, isRaised, known, held, mine]
  | started call =>
    have fresh : Waiter.isStoppedBy flag { call := call } = false := by
      cases call <;> simp [Waiter.isStoppedBy]
    simp only [told, stops, isRaised, List.countP_append, List.countP_singleton, fresh]
    rfl
  | interrupted thread index own latch at_ latch_ awake free up =>
    have known := (List.getElem?_eq_some_iff.mp up).1
    have counted := countP_set_add (Waiter.isStoppedBy flag) room.waiters thread _
      ⟨.latchOrInterrupt index own, false, some (.latch .interrupted)⟩ at_
    simp only [told, stops, isRaised, getD_set_flag _ _ _ _ known]
    by_cases mine : own = flag
    · subst mine
      have raised := (isRaised_iff own).mpr up
      rw [isRaised] at raised
      simp [Waiter.isStoppedBy] at counted
      simp only [raised, if_true, Bool.toNat_true, Bool.toNat_false, List.count_nil]
      omega
    · simp [Waiter.isStoppedBy, mine] at counted
      simp only [mine, if_false, List.count_nil]
      omega
  | passedFlag thread index own latch at_ =>
    simp [told, stops, isRaised, stops_set_same _ _ _ _ _ _ at_]
  | opened thread index call past latch at_ =>
    simp [told, stops, isRaised, stops_set_same _ _ _ _ _ _ at_]
  | slept thread index call past latch at_ =>
    simp [told, stops, isRaised, stops_set_same _ _ _ _ _ _ at_]
  | passedGate thread index past gate opened at_ =>
    simp [told, stops, isRaised, stops_set_same _ _ _ _ _ _ at_]
  | _ => rfl

end Room

end GatedRun.Sync
