import GatedRun.Proofs.Lists
import GatedRun.Session

/-!
# Replays

A machine of this library is a step function: given a state and a move it says which state comes
next and what the step lets others know, or that the move is not possible. A replay is such a
machine driven through a list of moves, so a statement about every replay is one about every
interleaving.

`replay_preserves` is the one induction over runs: what each step keeps, a whole replay keeps.
`replay_switch` finds the step at which a replay loses a property of its states. `observed` is what
somebody sees who looks at every move of a replay, in the state in which it is made.
-/

namespace GatedRun

variable {σ μ ν : Type}

/-- The state after a list of moves and everything they let others know, if each is possible. -/
def replay (step : σ → μ → Option (σ × List ν)) : σ → List μ → Option (σ × List ν)
  | state, [] => some (state, [])
  | state, move :: moves =>
    match step state move with
    | none => none
    | some (after, notes) =>
      match replay step after moves with
      | none => none
      | some (last, more) => some (last, notes ++ more)

variable {step : σ → μ → Option (σ × List ν)}

theorem replay_nil_iff (state last : σ) (notes : List ν) :
    replay step state [] = some (last, notes) ↔ last = state ∧ notes = [] := by
  simp only [replay, Option.some.injEq, Prod.mk.injEq]
  constructor
  · rintro ⟨rfl, rfl⟩
    exact ⟨rfl, rfl⟩
  · rintro ⟨rfl, rfl⟩
    exact ⟨rfl, rfl⟩

theorem replay_cons_iff (state last : σ) (move : μ) (moves : List μ) (notes : List ν) :
    replay step state (move :: moves) = some (last, notes) ↔
      ∃ after first more, step state move = some (after, first) ∧
        replay step after moves = some (last, more) ∧ notes = first ++ more := by
  constructor
  · intro ran
    simp only [replay] at ran
    split at ran
    · cases ran
    next after first stepped =>
      split at ran
      · cases ran
      next final more rest =>
        cases ran
        exact ⟨after, first, more, stepped, rest, rfl⟩
  · rintro ⟨after, first, more, stepped, rest, rfl⟩
    simp only [replay, stepped, rest]

/-- A replay of two lists of moves is one of the first and then one of the second. -/
theorem replay_append_iff (state last : σ) (moves more : List μ) (notes : List ν) :
    replay step state (moves ++ more) = some (last, notes) ↔
      ∃ middle first second, replay step state moves = some (middle, first) ∧
        replay step middle more = some (last, second) ∧ notes = first ++ second := by
  induction moves generalizing state notes with
  | nil =>
    constructor
    · intro ran
      exact ⟨state, [], notes, rfl, ran, rfl⟩
    · rintro ⟨middle, first, second, early, late, rfl⟩
      obtain ⟨rfl, rfl⟩ := (replay_nil_iff state middle first).mp early
      exact late
  | cons move moves ih =>
    rw [List.cons_append, replay_cons_iff]
    constructor
    · rintro ⟨after, one, rest, stepped, ran, rfl⟩
      obtain ⟨middle, first, second, early, late, rfl⟩ := (ih after rest).mp ran
      refine ⟨middle, one ++ first, second, ?_, late, (List.append_assoc _ _ _).symm⟩
      exact (replay_cons_iff state middle move moves _).mpr ⟨after, one, first, stepped, early, rfl⟩
    · rintro ⟨middle, whole, second, ran, late, rfl⟩
      obtain ⟨after, one, first, stepped, early, rfl⟩ :=
        (replay_cons_iff state middle move moves whole).mp ran
      exact ⟨after, one, first ++ second, stepped,
        (ih after _).mpr ⟨middle, first, second, early, late, rfl⟩, List.append_assoc _ _ _⟩

/-- What every step keeps, a replay keeps. The property may speak of all that was let known. -/
theorem replay_preserves (Holds : σ → List ν → Prop) (state last : σ) (moves : List μ)
    (known notes : List ν)
    (kept : ∀ state move after known notes, move ∈ moves → Holds state known →
      step state move = some (after, notes) → Holds after (known ++ notes))
    (initially : Holds state known) (ran : replay step state moves = some (last, notes)) :
    Holds last (known ++ notes) := by
  induction moves generalizing state known notes with
  | nil =>
    obtain ⟨rfl, rfl⟩ := (replay_nil_iff state last notes).mp ran
    simpa using initially
  | cons move moves ih =>
    obtain ⟨after, first, more, stepped, rest, rfl⟩ :=
      (replay_cons_iff state last move moves notes).mp ran
    have next := kept state move after known first List.mem_cons_self initially stepped
    rw [← List.append_assoc]
    refine ih after (known ++ first) more ?_ next rest
    intro state move after known notes member
    exact kept state move after known notes (List.mem_cons_of_mem _ member)

/-- A replay that starts with a property and ends without it loses it in one of its steps. -/
theorem replay_switch (Holds : σ → Prop) (state last : σ) (moves : List μ) (notes : List ν)
    (initially : Holds state) (lost : ¬ Holds last)
    (ran : replay step state moves = some (last, notes)) :
    ∃ before move after middle next first second third, moves = before ++ move :: after ∧
      notes = first ++ (second ++ third) ∧ replay step state before = some (middle, first) ∧
      Holds middle ∧ step middle move = some (next, second) ∧ ¬ Holds next ∧
      replay step next after = some (last, third) := by
  induction moves generalizing state notes with
  | nil =>
    obtain ⟨rfl, -⟩ := (replay_nil_iff state last notes).mp ran
    exact absurd initially lost
  | cons move moves ih =>
    obtain ⟨after, first, more, stepped, rest, rfl⟩ :=
      (replay_cons_iff state last move moves notes).mp ran
    by_cases still : Holds after
    · obtain ⟨before, switch, further, middle, next, early, second, third, rfl, rfl, reached,
        held, switched, gone, finished⟩ := ih after more still rest
      refine ⟨move :: before, switch, further, middle, next, first ++ early, second, third, rfl,
        by simp, ?_, held, switched, gone, finished⟩
      exact (replay_cons_iff _ _ _ _ _).mpr ⟨after, first, early, stepped, reached, rfl⟩
    -- The first move is the one already.
    · exact ⟨[], move, moves, state, after, [], first, more, rfl, rfl, rfl, initially, stepped,
        still, rest⟩

/-! ### What is seen of a replay -/

variable {ω : Type}

/-- What is seen of the moves of a replay, each in the state in which it is made. -/
def observed (step : σ → μ → Option (σ × List ν)) (look : σ → μ → Option ω) : σ → List μ → List ω
  | _, [] => []
  | state, move :: moves =>
    match step state move with
    | none => []
    | some (after, _) => (look state move).toList ++ observed step look after moves

variable {look : σ → μ → Option ω}

theorem observed_cons (state after : σ) (move : μ) (moves : List μ) (notes : List ν)
    (stepped : step state move = some (after, notes)) :
    observed step look state (move :: moves) =
      (look state move).toList ++ observed step look after moves := by
  simp only [observed, stepped]

theorem observed_append (state middle : σ) (moves more : List μ) (notes : List ν)
    (ran : replay step state moves = some (middle, notes)) :
    observed step look state (moves ++ more) =
      observed step look state moves ++ observed step look middle more := by
  induction moves generalizing state notes with
  | nil =>
    obtain ⟨rfl, -⟩ := (replay_nil_iff state middle notes).mp ran
    rfl
  | cons move moves ih =>
    obtain ⟨after, first, rest, stepped, early, rfl⟩ :=
      (replay_cons_iff state middle move moves notes).mp ran
    rw [List.cons_append, observed_cons state after move _ first stepped,
      observed_cons state after move _ first stepped, ih after rest early, List.append_assoc]

/-- What is seen of the moves alone is seen of a list of moves, whatever the states are. -/
theorem observed_eq_filterMap (look : μ → Option ω) (state last : σ) (moves : List μ)
    (notes : List ν) (ran : replay step state moves = some (last, notes)) :
    observed step (fun _ move => look move) state moves = moves.filterMap look := by
  induction moves generalizing state notes with
  | nil => rfl
  | cons move moves ih =>
    obtain ⟨after, first, more, stepped, rest, rfl⟩ :=
      (replay_cons_iff state last move moves notes).mp ran
    rw [observed_cons state after move moves first stepped, ih after more rest,
      filterMap_cons_toList]

/-- What every step keeps of a state, of all that was let known and of all that was seen so far, a
replay keeps. -/
theorem observed_preserves_known (look : σ → μ → Option ω) (Holds : σ → List ν → List ω → Prop)
    (state last : σ) (moves : List μ) (known notes : List ν) (seen : List ω)
    (kept : ∀ state move after known seen notes, move ∈ moves → Holds state known seen →
      step state move = some (after, notes) →
        Holds after (known ++ notes) (seen ++ (look state move).toList))
    (initially : Holds state known seen) (ran : replay step state moves = some (last, notes)) :
    Holds last (known ++ notes) (seen ++ observed step look state moves) := by
  induction moves generalizing state known seen notes with
  | nil =>
    obtain ⟨rfl, rfl⟩ := (replay_nil_iff state last notes).mp ran
    simpa [observed] using initially
  | cons move moves ih =>
    obtain ⟨after, first, more, stepped, rest, rfl⟩ :=
      (replay_cons_iff state last move moves notes).mp ran
    have next := kept state move after known seen first List.mem_cons_self initially stepped
    rw [observed_cons state after move moves first stepped, ← List.append_assoc,
      ← List.append_assoc]
    refine ih after _ more _ ?_ next rest
    intro state move after known seen notes member
    exact kept state move after known seen notes (List.mem_cons_of_mem _ member)

/-- What every step keeps of a state and of all that was seen so far, a replay keeps. -/
theorem observed_preserves (look : σ → μ → Option ω) (Holds : σ → List ω → Prop)
    (state last : σ) (moves : List μ) (seen : List ω) (notes : List ν)
    (kept : ∀ state move after seen notes, move ∈ moves → Holds state seen →
      step state move = some (after, notes) → Holds after (seen ++ (look state move).toList))
    (initially : Holds state seen) (ran : replay step state moves = some (last, notes)) :
    Holds last (seen ++ observed step look state moves) :=
  observed_preserves_known look (fun state _ seen => Holds state seen) state last moves [] notes
    seen (fun state move after _ seen notes => kept state move after seen notes) initially ran

end GatedRun
