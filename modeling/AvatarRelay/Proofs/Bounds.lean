/-
# Numbers brought into range

How single-precision numbers are ordered as long as no NaN comes in, and what clamping
makes of them. From it follows that a configuration that was brought into range has scale
bounds in order, so that every scale it clamps lies between them.
-/

import AvatarRelay.Avatar.Basic
import AvatarRelay.Config.Basic

namespace AvatarRelay

namespace Binary32

variable {number first second third low high : Binary32}

theorem isNaN_of_isFinite (finite : number.isFinite = true) : number.isNaN = false := by
  rw [isFinite, decide_eq_true_eq] at finite
  rw [isNaN, decide_eq_false_iff_not]
  omega

theorem le_iff : first ≤ second ↔
    first.isNaN = false ∧ second.isNaN = false ∧ first.rank ≤ second.rank := by
  change ordered first second = true ∧ _ ↔ _
  rw [ordered, Bool.and_eq_true, Bool.not_eq_true', Bool.not_eq_true', and_assoc]

theorem lt_iff : first < second ↔
    first.isNaN = false ∧ second.isNaN = false ∧ first.rank < second.rank := by
  change ordered first second = true ∧ _ ↔ _
  rw [ordered, Bool.and_eq_true, Bool.not_eq_true', Bool.not_eq_true', and_assoc]

theorem numEq_iff : first.numEq second = true ↔
    first.isNaN = false ∧ second.isNaN = false ∧ first.rank = second.rank := by
  rw [numEq, ordered, Bool.and_eq_true, Bool.and_eq_true, Bool.not_eq_true', Bool.not_eq_true',
    decide_eq_true_eq, and_assoc]

theorem numEq_trans (one : first.numEq second = true) (two : second.numEq third = true) :
    first.numEq third = true := by
  obtain ⟨real, -, rank⟩ := numEq_iff.mp one
  obtain ⟨-, last, rankLast⟩ := numEq_iff.mp two
  exact numEq_iff.mpr ⟨real, last, rank.trans rankLast⟩

theorem le_of_numEq (same : first.numEq second = true) : second ≤ first := by
  obtain ⟨one, two, ranks⟩ := numEq_iff.mp same
  exact le_iff.mpr ⟨two, one, Int.le_of_eq ranks.symm⟩

theorem le_refl (real : number.isNaN = false) : number ≤ number :=
  le_iff.mpr ⟨real, real, Int.le_refl _⟩

theorem le_trans (one : first ≤ second) (two : second ≤ third) : first ≤ third := by
  obtain ⟨real, -, ranks⟩ := le_iff.mp one
  obtain ⟨-, last, ranksLast⟩ := le_iff.mp two
  exact le_iff.mpr ⟨real, last, Int.le_trans ranks ranksLast⟩

theorem le_of_lt (less : first < second) : first ≤ second := by
  obtain ⟨one, two, ranks⟩ := lt_iff.mp less
  exact le_iff.mpr ⟨one, two, Int.le_of_lt ranks⟩

theorem lt_of_le_of_lt (le : first ≤ second) (less : second < third) : first < third := by
  obtain ⟨real, -, ranks⟩ := le_iff.mp le
  obtain ⟨-, last, ranksLast⟩ := lt_iff.mp less
  exact lt_iff.mpr ⟨real, last, Int.lt_of_le_of_lt ranks ranksLast⟩

theorem le_of_not_lt (one : first.isNaN = false) (two : second.isNaN = false)
    (notAbove : ¬ second < first) : first ≤ second := by
  rw [lt_iff] at notAbove
  exact le_iff.mpr ⟨one, two, Int.not_lt.mp fun ranks => notAbove ⟨two, one, ranks⟩⟩

theorem lt_of_not_le (one : first.isNaN = false) (two : second.isNaN = false)
    (above : ¬ first ≤ second) : second < first := by
  rw [le_iff] at above
  exact lt_iff.mpr ⟨two, one, Int.not_le.mp fun ranks => above ⟨one, two, ranks⟩⟩

theorem not_lt_of_le (le : first ≤ second) : ¬ second < first := by
  intro less
  have ranks := (le_iff.mp le).2.2
  have other := (lt_iff.mp less).2.2
  omega

theorem natAbs_rank (number : Binary32) : number.rank.natAbs = number.pattern := by
  unfold rank
  split
  · rw [Int.natAbs_neg, Int.natAbs_natCast]
  · exact Int.natAbs_natCast _

theorem isFinite_of_within (lowFinite : low.isFinite = true) (highFinite : high.isFinite = true)
    (above : low ≤ number) (below : number ≤ high) : number.isFinite = true := by
  rw [isFinite, decide_eq_true_eq, ← natAbs_rank] at *
  have least := (le_iff.mp above).2.2
  have greatest := (le_iff.mp below).2.2
  omega

theorem clamp_within (real : number.isNaN = false) (inOrder : low ≤ high) :
    low ≤ number.clamp low high ∧ number.clamp low high ≤ high := by
  obtain ⟨lowReal, highReal, -⟩ := le_iff.mp inOrder
  unfold clamp
  split
  · exact ⟨le_refl lowReal, inOrder⟩
  next notBelow =>
  split
  · exact ⟨inOrder, le_refl highReal⟩
  next notAbove =>
  exact ⟨le_of_not_lt lowReal real notBelow, le_of_not_lt real highReal notAbove⟩

theorem clamp_of_within (above : low ≤ number) (below : number ≤ high) :
    number.clamp low high = number := by
  rw [clamp, if_neg (not_lt_of_le above), if_neg (not_lt_of_le below)]

end Binary32

namespace ScaleBounds

/-- The bounds are in order, so neither is a NaN. -/
def Ordered (bounds : ScaleBounds) : Prop :=
  bounds.low ≤ bounds.high

theorem isFinite_smallest : smallest.isFinite = true := by
  decide +kernel

theorem isFinite_greatest : greatest.isFinite = true := by
  decide +kernel

theorem ordered_widest : widest.Ordered := by
  unfold Ordered
  decide +kernel

/-- Bounds in the wrong order are swapped. -/
theorem swapped_ordered {low high : Binary32} (lowReal : low.isNaN = false)
    (highReal : high.isNaN = false) :
    Ordered ⟨if decide (high < low) then high else low,
      if decide (high < low) then low else high⟩ := by
  unfold Ordered
  by_cases inverted : high < low
  · rw [decide_eq_true inverted]
    exact Binary32.le_of_lt inverted
  · rw [decide_eq_false inverted]
    exact Binary32.le_of_not_lt lowReal highReal inverted

theorem Ordered.clamp_within {bounds : ScaleBounds} (ordered : bounds.Ordered)
    {scale : Binary32} (finite : scale.isFinite = true) :
    bounds.low ≤ bounds.clamp scale ∧ bounds.clamp scale ≤ bounds.high :=
  Binary32.clamp_within (Binary32.isNaN_of_isFinite finite) ordered

end ScaleBounds

namespace Config

theorem usableScale_within {fallback : Binary32} (finite : fallback.isFinite = true)
    (scale : Binary32) :
    ScaleBounds.smallest ≤ usableScale fallback scale ∧
      usableScale fallback scale ≤ ScaleBounds.greatest := by
  refine Binary32.clamp_within ?_ ScaleBounds.ordered_widest
  unfold finiteOr
  split
  · next usable => exact Binary32.isNaN_of_isFinite usable
  · exact Binary32.isNaN_of_isFinite finite

theorem ordered_normalize (config : Config) : config.normalize.scaleBounds.Ordered := by
  have low := (usableScale_within ScaleBounds.isFinite_smallest config.minScale).1
  have high := (usableScale_within ScaleBounds.isFinite_greatest config.maxScale).1
  rw [scaleBounds, normalize]
  exact ScaleBounds.swapped_ordered (Binary32.le_iff.mp low).2.1 (Binary32.le_iff.mp high).2.1

end Config

end AvatarRelay
