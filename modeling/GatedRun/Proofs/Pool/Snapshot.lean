import GatedRun.Proofs.Pool.Conservation

/-!
# Snapshots of a pool

The counters of a pool are read one after the other, while its workers go on and callers submit. A
snapshot can therefore show counters that never stood side by side, and even more jobs over than
were submitted. Since the number submitted is read first and the others never fall, it can only show
too few jobs as pending, and only as many too few as were counted as over in the meantime
(`Sound.pending_across`).
-/

namespace GatedRun

/-! ### The difference that stops at zero -/

/-- The difference of two machine words, or zero where there is none. -/
def wordDifference (left right : USize) : USize := if right ≤ left then left - right else 0

theorem toNat_wordDifference (left right : USize) :
    (wordDifference left right).toNat = left.toNat - right.toNat := by
  unfold wordDifference
  split
  next enough => exact USize.toNat_sub_of_le left right enough
  next short =>
    have below : left.toNat < right.toNat := by
      rw [USize.le_iff_toNat_le] at short
      exact Nat.lt_of_not_le short
    rw [USize.toNat_zero, Nat.sub_eq_zero_of_le (Nat.le_of_lt below)]

theorem PoolStats.pending_eq_max (stats : PoolStats) : (stats.pending : Int) =
    max 0 ((stats.submitted : Int) - stats.completed - stats.panicked) := by
  unfold pending
  omega

/-- On machine words the number is the same: the differences stop at zero one by one, and no sum is
formed that a word could not hold. -/
theorem PoolStats.pending_of_words (workers : Nat) (submitted completed panicked : USize) :
    (wordDifference (wordDifference submitted completed) panicked).toNat =
      pending ⟨workers, submitted.toNat, completed.toNat, panicked.toNat⟩ := by
  rw [toNat_wordDifference, toNat_wordDifference, pending]

namespace Pool

variable {J : Type} {first second third : Pool J} {notes told more : List (PoolNote J)}

/-! ### Three reads -/

/-- The jobs that are submitted and not yet counted as over. -/
def unfinished (pool : Pool J) : Int := (pool.submitted : Int) - pool.completed - pool.panicked

theorem Sound.unfinished_nonneg (sound : first.Sound notes) : 0 ≤ first.unfinished := by
  have total := sound.submitted_eq
  unfold unfinished
  omega

/-- Whatever happens between the reads, the snapshot shows no more jobs as pending than there were
at the first of them, and fewer only by jobs that were counted as over since. -/
theorem Sound.pending_across (sound : first.Sound notes) (between later : List (PoolMove J))
    (ran : GatedRun.replay Pool.step first between = some (second, told))
    (went : GatedRun.replay Pool.step second later = some (third, more)) :
    first.unfinished - (first.reports (between ++ later)).length ≤
        (statsAcross first second third).pending ∧
      ((statsAcross first second third).pending : Int) ≤ first.unfinished := by
  have whole := (replay_append_iff first third between later (told ++ more)).mpr
    ⟨second, told, more, ran, went, rfl⟩
  have all := over_of_replay (between ++ later) third whole
  -- Neither of the two reads can miss what was counted before the first one.
  have early := counters_le_of_replay between second ran
  have late := counters_le_of_replay later third went
  have nonneg := sound.unfinished_nonneg
  simp only [unfinished, statsAcross, PoolStats.pending] at nonneg ⊢
  constructor <;> omega

/-- A snapshot that is read while the threads of a pool go on shows no more jobs as pending than
there were when the number submitted was read, and fewer at most by those that were counted as over
before its last read; so it is exact if there were none. And what any counters show as pending is
their difference in exact integers, or zero if that is negative, also where the machine's words
would be too small for a sum of them. -/
theorem snapshot_bound (width : Nat) (config : Config) (fresh : Pool J)
    (created : create width config = .ok fresh) (moves : List (PoolMove J)) (first : Pool J)
    (notes : List (PoolNote J)) (ran : GatedRun.replay step fresh moves = some (first, notes)) :
    (∀ (between later : List (PoolMove J)) (second third : Pool J)
      (told more : List (PoolNote J)),
      GatedRun.replay step first between = some (second, told) →
      GatedRun.replay step second later = some (third, more) →
      max 0 (first.unfinished - (first.reports (between ++ later)).length) ≤
        ((statsAcross first second third).pending : Int) ∧
      ((statsAcross first second third).pending : Int) ≤ first.unfinished ∧
      (first.reports (between ++ later) = [] →
        ((statsAcross first second third).pending : Int) = first.unfinished)) ∧
    (∀ stats : PoolStats, (stats.pending : Int) =
      max 0 ((stats.submitted : Int) - stats.completed - stats.panicked)) ∧
    ∀ (workers : Nat) (submitted completed panicked : USize),
      (wordDifference (wordDifference submitted completed) panicked).toNat =
        PoolStats.pending ⟨workers, submitted.toNat, completed.toNat, panicked.toNat⟩ := by
  have sound : first.SoundFor width config notes :=
    (create_soundFor width config created).replay moves ran
  refine ⟨?_, PoolStats.pending_eq_max, PoolStats.pending_of_words⟩
  intro between later second third told more early late
  obtain ⟨least, most⟩ := sound.pending_across between later early late
  refine ⟨Int.max_le.mpr ⟨Int.natCast_nonneg _, least⟩, most, ?_⟩
  intro none
  rw [none, List.length_nil] at least
  omega

/-- Two of three jobs are over and yet to be counted when the first read is made. -/
def bothOver : List (PoolMove Nat) :=
  [.spawn .given, .spawn .given, .count 0 7, .send 0, .count 0 8, .send 0, .count 1 9, .send 1,
    .work 0, .work 0, .work 1, .work 1, .finish 0 .returned, .finish 1 .unwound]

/-- Another job is submitted before the second read is made, and both jobs are counted after it, so
that the snapshot misses the one that returned. -/
theorem snapshot_bound_straddled : ∃ (first second third : Pool Nat)
    (notes told more : List (PoolNote Nat)),
    GatedRun.replay step (unstarted {} 2) bothOver = some (first, notes) ∧
    GatedRun.replay step first [.count 0 6, .send 0] = some (second, told) ∧
    GatedRun.replay step second [.work 0, .work 1] = some (third, more) ∧
    first.unfinished = 3 ∧ third.unfinished = 2 ∧
    first.reports [.count 0 6, .send 0, .work 0, .work 1] = [.returned, .unwound] ∧
    statsAcross first second third = ⟨2, 3, 0, 1⟩ ∧
    max 0 (first.unfinished - 2) ≤ ((statsAcross first second third).pending : Int) ∧
    ((statsAcross first second third).pending : Int) ≤ first.unfinished ∧
    (statsAcross first first first).pending = first.unfinished := by
  have ran : GatedRun.replay step (unstarted {} 2) bothOver = some (_, _) := rfl
  obtain ⟨bound, -, -⟩ := snapshot_bound 2 {} _ rfl _ _ _ ran
  obtain ⟨least, most, -⟩ := bound [.count 0 6, .send 0] [.work 0, .work 1] _ _ _ _ rfl rfl
  obtain ⟨-, -, calm⟩ := bound [] [] _ _ _ _ rfl rfl
  exact ⟨_, _, _, _, _, _, ran, rfl, rfl, rfl, rfl, rfl, rfl, least, most, calm rfl⟩

end Pool

end GatedRun
