import GatedRun.SpreadSummary

/-!
# Order statistics of spreads

A series has one ascending order, however it is sorted (`eq_sorted`), and the three figures of its
summary are read off at three places of it. An element of an ascending list parts it into those that
are not greater and those that are not smaller (`parted`), and that says all about the figures.
-/

namespace GatedRun

namespace SpreadSummary

variable {spreads other arranged : List Nat} {summary : SpreadSummary}

/-! ### The ascending order -/

theorem sorted_perm (spreads : List Nat) : (sorted spreads).Perm spreads :=
  List.mergeSort_perm spreads _

theorem sorted_ascending (spreads : List Nat) : (sorted spreads).Pairwise (· ≤ ·) := by
  have ascending : (sorted spreads).Pairwise fun one another => decide (one ≤ another) = true :=
    List.pairwise_mergeSort (by simpa using fun _ _ _ => Nat.le_trans)
      (by simpa using Nat.le_total) spreads
  simpa using ascending

/-- Equal elements cannot be told apart, so it does not matter in which way a series is sorted. -/
theorem eq_sorted (reordered : arranged.Perm spreads) (ascending : arranged.Pairwise (· ≤ ·)) :
    arranged = sorted spreads :=
  List.Perm.eq_of_pairwise (fun _ _ _ _ => Nat.le_antisymm) ascending (sorted_ascending spreads)
    (reordered.trans (sorted_perm spreads).symm)

theorem sorted_congr (reordered : other.Perm spreads) : sorted other = sorted spreads :=
  eq_sorted ((sorted_perm other).trans reordered) (sorted_ascending other)

theorem parted (ascending : arranged.Pairwise (· ≤ ·)) (place element : Nat)
    (at_ : arranged[place]? = some element) : ∃ before after,
      arranged = before ++ element :: after ∧ before.length = place ∧
      (∀ lower ∈ before, lower ≤ element) ∧ ∀ higher ∈ after, element ≤ higher := by
  obtain ⟨below, rfl⟩ := List.getElem?_eq_some_iff.mp at_
  have split : arranged = arranged.take place ++ arranged[place] :: arranged.drop (place + 1) := by
    rw [← List.drop_eq_getElem_cons below, List.take_append_drop]
  rw [split, List.pairwise_append, List.pairwise_cons] at ascending
  obtain ⟨-, ⟨behind, -⟩, across⟩ := ascending
  exact ⟨_, _, split, List.length_take_of_le (Nat.le_of_lt below),
    fun lower member => across lower member _ List.mem_cons_self, behind⟩

/-- No more elements are smaller than there are places in front, and no more are greater than there
are behind. -/
theorem countP_of_place (ascending : arranged.Pairwise (· ≤ ·)) (place element : Nat)
    (at_ : arranged[place]? = some element) :
    arranged.countP (· < element) ≤ place ∧
      arranged.countP (element < ·) ≤ arranged.length - 1 - place := by
  obtain ⟨before, after, rfl, rfl, lower, higher⟩ := parted ascending place element at_
  have front : before.countP (element < ·) = 0 := by
    simpa [List.countP_eq_zero] using lower
  have back : after.countP (· < element) = 0 := by
    simpa [List.countP_eq_zero] using higher
  have fewBefore := before.countP_le_length (p := (· < element))
  have fewAfter := after.countP_le_length (p := (element < ·))
  simp only [List.countP_append, List.countP_cons, front, back, Nat.lt_irrefl, decide_false,
    Bool.false_eq_true, if_false, List.length_append, List.length_cons]
  omega

/-! ### The figures -/

theorem ofSpreads_eq_none_iff : ofSpreads spreads = none ↔ spreads = [] := by
  have length := (sorted_perm spreads).length_eq
  unfold ofSpreads
  split
  next empty =>
    rw [empty] at length
    simpa using List.eq_nil_of_length_eq_zero length.symm
  next least rest filled =>
    rw [filled] at length
    simp only [reduceCtorEq, false_iff]
    rintro rfl
    cases length

/-- The figures are the first, the middle and the last of the elements in ascending order. -/
theorem places_of_ofSpreads (summed : ofSpreads spreads = some summary) :
    summary.samples = spreads.length ∧ (sorted spreads)[0]? = some summary.min ∧
      (sorted spreads)[spreads.length / 2]? = some summary.median ∧
      (sorted spreads)[spreads.length - 1]? = some summary.max := by
  have length := (sorted_perm spreads).length_eq
  unfold ofSpreads at summed
  split at summed
  · cases summed
  next least rest filled =>
    cases summed
    rw [filled] at length
    have middle : spreads.length / 2 < (least :: rest).length := by
      rw [length]
      have some : 0 < spreads.length := by simp [← length]
      omega
    refine ⟨rfl, by rw [filled]; rfl, ?_, ?_⟩
    · rw [filled, List.getD_eq_getElem?_getD, List.getElem?_eq_getElem middle, Option.getD_some]
    · rw [filled, ← length, ← List.getLast?_eq_getElem?]
      exact List.getLast?_eq_some_getLast _

/-- What the figures of a series say of it. -/
structure Describes (summary : SpreadSummary) (spreads : List Nat) : Prop where
  samples : summary.samples = spreads.length
  /-- Wherever the series is in ascending order, the figures are found at these places. -/
  places : ∀ arranged : List Nat, arranged.Perm spreads → arranged.Pairwise (· ≤ ·) →
    arranged[0]? = some summary.min ∧ arranged[spreads.length / 2]? = some summary.median ∧
      arranged[spreads.length - 1]? = some summary.max
  least : summary.min ∈ spreads ∧ ∀ spread ∈ spreads, summary.min ≤ spread
  greatest : summary.max ∈ spreads ∧ ∀ spread ∈ spreads, spread ≤ summary.max
  median : summary.median ∈ spreads
  fewSmaller : spreads.countP (· < summary.median) ≤ spreads.length / 2
  fewGreater : spreads.countP (summary.median < ·) ≤ spreads.length - 1 - spreads.length / 2
  ordered : summary.min ≤ summary.median ∧ summary.median ≤ summary.max

theorem describes_of_ofSpreads (summed : ofSpreads spreads = some summary) :
    summary.Describes spreads := by
  obtain ⟨samples, first, middle, last⟩ := places_of_ofSpreads summed
  have perm := sorted_perm spreads
  have ascending := sorted_ascending spreads
  have held (place element : Nat) (at_ : (sorted spreads)[place]? = some element) :
      element ∈ spreads := perm.mem_iff.mp (List.mem_of_getElem? at_)
  have least (spread : Nat) (member : spread ∈ spreads) : summary.min ≤ spread := by
    obtain ⟨before, after, split, none, -, behind⟩ := parted ascending 0 _ first
    obtain rfl := List.eq_nil_of_length_eq_zero none
    rw [← perm.mem_iff, split, List.nil_append, List.mem_cons] at member
    rcases member with rfl | member
    · exact Nat.le_refl _
    · exact behind spread member
  have greatest (spread : Nat) (member : spread ∈ spreads) : spread ≤ summary.max := by
    obtain ⟨before, after, split, all, inFront, -⟩ := parted ascending _ _ last
    -- As many are in front of the last as there are others, so none is behind it.
    have length := perm.length_eq
    rw [split, List.length_append, List.length_cons] at length
    obtain rfl : after = [] := List.eq_nil_of_length_eq_zero (by omega)
    rw [← perm.mem_iff, split, List.mem_append, List.mem_singleton] at member
    rcases member with member | rfl
    · exact inFront spread member
    · exact Nat.le_refl _
  have median := held _ _ middle
  obtain ⟨fewSmaller, fewGreater⟩ := countP_of_place ascending _ _ middle
  rw [perm.countP_eq] at fewSmaller
  rw [perm.countP_eq, perm.length_eq] at fewGreater
  exact {
    samples
    places := fun arranged reordered up => by
      rw [eq_sorted reordered up]
      exact ⟨first, middle, last⟩
    least := ⟨held _ _ first, least⟩
    greatest := ⟨held _ _ last, greatest⟩
    median
    fewSmaller
    fewGreater
    ordered := ⟨least _ median, greatest _ median⟩ }

theorem ofSpreads_congr (reordered : other.Perm spreads) : ofSpreads other = ofSpreads spreads := by
  unfold ofSpreads
  rw [sorted_congr reordered, reordered.length_eq]

end SpreadSummary

end GatedRun
