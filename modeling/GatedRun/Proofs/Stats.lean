import GatedRun.Stats
import Mathlib.Data.Nat.Dist

/-!
# The spread of the starts

One pass over the starts of a run keeps the earliest and the latest, and their distance is the
spread. So the spread is the greatest distance between any two starts (`dist_le_startSpread`,
`exists_dist_eq_startSpread`), and all that it hangs on is which instants there are
(`startSpread_mono`): neither their order nor the tasks without a start matter.
-/

namespace GatedRun

namespace RunStats

variable {stats other : RunStats}

/-- The instants at which tasks started, in the order of submission. -/
def starts (stats : RunStats) : List Instant := stats.startedAt.filterMap id

theorem mem_starts (instant : Instant) :
    instant ∈ stats.starts ↔ some instant ∈ stats.startedAt := by
  simp [starts]

theorem length_starts : stats.starts.length = stats.startedCount :=
  List.length_filterMap_eq_countP

/-! ### One pass -/

/-- The two extremes do not look at each other, whatever the pass begins with. -/
theorem foldl_extremes (low high : Instant) (rest : List Instant) :
    rest.foldl (fun range instant => (min range.1 instant, max range.2 instant)) (low, high) =
      (rest.foldl min low, rest.foldl max high) := by
  induction rest generalizing low high with
  | nil => rfl
  | cons instant rest ih => exact ih (min low instant) (max high instant)

theorem extremes_eq (first : Instant) (rest : List Instant) :
    (first :: rest).min? = some (extremes first rest).1 ∧
      (first :: rest).max? = some (extremes first rest).2 := by
  rw [extremes, foldl_extremes, List.min?_cons', List.max?_cons']
  exact ⟨rfl, rfl⟩

/-- The extremes are instants of the list, and all others lie between them. -/
theorem extremes_bound (first : Instant) (rest : List Instant) :
    (extremes first rest).1 ∈ first :: rest ∧ (extremes first rest).2 ∈ first :: rest ∧
      ∀ instant ∈ first :: rest,
        (extremes first rest).1 ≤ instant ∧ instant ≤ (extremes first rest).2 := by
  obtain ⟨least, greatest⟩ := extremes_eq first rest
  obtain ⟨early, below⟩ := List.min?_eq_some_iff.mp least
  obtain ⟨late, above⟩ := List.max?_eq_some_iff.mp greatest
  exact ⟨early, late, fun instant member => ⟨below instant member, above instant member⟩⟩

theorem extremes_le (first : Instant) (rest : List Instant) :
    (extremes first rest).1 ≤ (extremes first rest).2 := by
  obtain ⟨-, late, between⟩ := extremes_bound first rest
  exact (between _ late).1

theorem startSpread_of_unstarted (none : stats.starts = []) : stats.startSpread = 0 := by
  rw [starts] at none
  simp only [startSpread, none]

theorem startSpread_of_started (first : Instant) (rest : List Instant)
    (some : stats.starts = first :: rest) :
    stats.startSpread = (extremes first rest).2 - (extremes first rest).1 := by
  rw [starts] at some
  simp only [startSpread, some]

/-! ### The greatest distance -/

theorem dist_le_startSpread (one another : Instant) (started : one ∈ stats.starts)
    (also : another ∈ stats.starts) : Nat.dist one another ≤ stats.startSpread := by
  cases all : stats.starts with
  | nil =>
    rw [all] at started
    cases started
  | cons first rest =>
    rw [all] at started also
    obtain ⟨-, -, between⟩ := extremes_bound first rest
    obtain ⟨oneAbove, oneBelow⟩ := between one started
    obtain ⟨anotherAbove, anotherBelow⟩ := between another also
    rw [startSpread_of_started first rest all, Nat.dist_eq_max_sub_min]
    exact tsub_le_tsub (Nat.max_le.mpr ⟨oneBelow, anotherBelow⟩)
      (Nat.le_min.mpr ⟨oneAbove, anotherAbove⟩)

theorem exists_dist_eq_startSpread (started : stats.starts ≠ []) :
    ∃ one ∈ stats.starts, ∃ another ∈ stats.starts,
      stats.startSpread = Nat.dist one another := by
  obtain ⟨first, rest, all⟩ := List.exists_cons_of_ne_nil started
  obtain ⟨early, late, -⟩ := extremes_bound first rest
  rw [all]
  refine ⟨_, early, _, late, ?_⟩
  rw [startSpread_of_started first rest all, Nat.dist_eq_sub_of_le (extremes_le first rest)]

/-- More instants are never closer together. -/
theorem startSpread_mono (more : stats.starts ⊆ other.starts) :
    stats.startSpread ≤ other.startSpread := by
  by_cases unstarted : stats.starts = []
  · rw [startSpread_of_unstarted unstarted]
    exact Nat.zero_le _
  · obtain ⟨one, started, another, also, same⟩ := exists_dist_eq_startSpread unstarted
    rw [same]
    exact dist_le_startSpread one another (more started) (more also)

theorem startSpread_congr (same : ∀ instant, instant ∈ stats.starts ↔ instant ∈ other.starts) :
    stats.startSpread = other.startSpread :=
  Nat.le_antisymm (startSpread_mono fun instant => (same instant).mp)
    (startSpread_mono fun instant => (same instant).mpr)

/-- The spread is the distance from the earliest start to the latest, which is never a difference
below zero, and nothing where fewer than two tasks have started. Neither the order of the starts nor
the entries without one change it, and a further start never makes it smaller. No two starts are
farther apart, and two of them are as far apart as that. -/
theorem spread_is_range (stats : RunStats) :
    (∀ earliest latest, stats.starts.min? = some earliest → stats.starts.max? = some latest →
      earliest ≤ latest ∧ stats.startSpread = latest - earliest) ∧
    (∀ first rest, (extremes first rest).1 ≤ (extremes first rest).2) ∧
    (stats.startedCount < 2 → stats.startSpread = 0) ∧
    (∀ other : RunStats, other.startedAt.Perm stats.startedAt →
      other.startSpread = stats.startSpread) ∧
    (∀ other : RunStats,
      other.startedAt.filter Option.isSome = stats.startedAt.filter Option.isSome →
      other.startSpread = stats.startSpread) ∧
    (∀ (other : RunStats) (before after : List (Option Instant)) (instant : Instant),
      stats.startedAt = before ++ after → other.startedAt = before ++ some instant :: after →
      stats.startSpread ≤ other.startSpread) ∧
    (∀ one another, some one ∈ stats.startedAt → some another ∈ stats.startedAt →
      Nat.dist one another ≤ stats.startSpread) ∧
    ((∃ instant, some instant ∈ stats.startedAt) →
      ∃ one another, some one ∈ stats.startedAt ∧ some another ∈ stats.startedAt ∧
        stats.startSpread = Nat.dist one another) := by
  refine ⟨?_, extremes_le, ?_, ?_, ?_, ?_, ?_, ?_⟩
  · intro earliest latest least greatest
    cases all : stats.starts with
    | nil =>
      rw [all] at least
      cases least
    | cons first rest =>
      obtain ⟨early, late⟩ := extremes_eq first rest
      rw [all, early] at least
      rw [all, late] at greatest
      obtain rfl := Option.some.inj least
      obtain rfl := Option.some.inj greatest
      exact ⟨extremes_le first rest, startSpread_of_started first rest all⟩
  · intro few
    rw [← length_starts] at few
    cases all : stats.starts with
    | nil => exact startSpread_of_unstarted all
    | cons only rest =>
      rw [all, List.length_cons] at few
      obtain rfl : rest = [] := List.eq_nil_of_length_eq_zero (by omega)
      rw [startSpread_of_started only [] all]
      exact Nat.sub_self only
  · intro other reordered
    apply startSpread_congr
    intro instant
    rw [mem_starts, mem_starts, reordered.mem_iff]
  · intro other alike
    have present (figures : RunStats) (instant : Instant) :
        instant ∈ figures.starts ↔ some instant ∈ figures.startedAt.filter Option.isSome := by
      rw [mem_starts, List.mem_filter]
      simp
    apply startSpread_congr
    intro instant
    rw [present, present, alike]
  · intro other before after instant few further
    apply startSpread_mono
    intro start started
    rw [mem_starts] at started ⊢
    rw [few, List.mem_append] at started
    rw [further, List.mem_append, List.mem_cons]
    exact started.imp_right .inr
  · intro one another started also
    exact dist_le_startSpread one another ((mem_starts one).mpr started)
      ((mem_starts another).mpr also)
  · rintro ⟨instant, started⟩
    have some : stats.starts ≠ [] := List.ne_nil_of_mem ((mem_starts instant).mpr started)
    obtain ⟨one, first, another, second, same⟩ := exists_dist_eq_startSpread some
    exact ⟨one, another, (mem_starts one).mp first, (mem_starts another).mp second, same⟩

/-- Four tasks of which the third has not started; the earliest start is neither first nor last. -/
def unorderedStarts : RunStats :=
  { poolSize := 2, taskCount := 4, startedAt := [some 5, some 3, none, some 7], elapsed := 9 }

theorem spread_is_range_unordered :
    unorderedStarts.startSpread = 4 ∧ Nat.dist 3 7 ≤ unorderedStarts.startSpread ∧
    ({ unorderedStarts with startedAt := [none, some 7, some 5, some 3] } : RunStats).startSpread =
      unorderedStarts.startSpread ∧
    ({ unorderedStarts with startedAt := [some 5, some 3, some 7] } : RunStats).startSpread =
      unorderedStarts.startSpread ∧
    unorderedStarts.startSpread ≤ ({ unorderedStarts with
      startedAt := [some 5, some 3, some 1, none, some 7] } : RunStats).startSpread ∧
    ∃ one another, some one ∈ unorderedStarts.startedAt ∧ some another ∈ unorderedStarts.startedAt ∧
      unorderedStarts.startSpread = Nat.dist one another := by
  obtain ⟨range, -, -, reordered, sparse, further, apart, attained⟩ :=
    spread_is_range unorderedStarts
  refine ⟨(range 3 7 rfl rfl).2, apart 3 7 (by decide) (by decide), ?_, ?_, ?_, ?_⟩
  · exact reordered _ (by decide)
  · exact sparse _ rfl
  · exact further _ [some 5, some 3] [none, some 7] 1 rfl rfl
  · exact attained ⟨5, by decide⟩

end RunStats

end GatedRun
