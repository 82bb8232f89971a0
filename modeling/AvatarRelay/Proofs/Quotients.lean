/-
# Quotients

Rounding does not take a quotient below a number that it has reached. So a number divided by
one that is no larger, and positive, comes to at least one, and no draw lies above it.
-/

import AvatarRelay.Proofs.Magnitudes

namespace AvatarRelay

-- Powers are those of the core library, whatever other instances are in scope.
attribute [local instance (2000)] instPowNat

namespace Binary32

variable {first second : Binary32}

theorem one_le_div (positive : 0 < second) (le : second ≤ first)
    (finite : second.isFinite = true) : 1 ≤ first / second := by
  have two := nonneg_of_pos positive
  have one : 0 ≤ first := le_trans two le
  have patterns := (le_iff_pattern two one).mp le
  obtain ⟨unsigned, above⟩ := of_pos positive
  cases bounded : first.isFinite with
  | true =>
    obtain ⟨nonneg, pattern⟩ := div_of_nonneg one bounded positive finite
    rw [le_iff_pattern (by decide) nonneg, pattern]
    refine le_nearestPattern (units_pos above) (by decide) ?_
    rw [units_one]
    exact Nat.mul_le_mul_right _ (unitsOfPattern_mono patterns)
  | false =>
    have unbounded := isInfinite_of_real (isNaN_of_nonneg one) bounded
    have signless : first.signBit = false := Bool.eq_false_iff.mpr fun signed =>
      Nat.ne_of_gt (above.trans_le patterns) ((nonneg_iff.mp one).2 signed)
    have quotient : first / second = ofPattern false infinityPattern := by
      change Binary32.div first second = _
      simp only [Binary32.div, isNaN_of_nonneg one, isNaN_of_nonneg two, unbounded, signless,
        unsigned, isInfinite_of_isFinite finite, Bool.or_self, Bool.false_eq_true, if_false,
        if_true, bne_self_eq_false]
    rw [quotient]
    decide

end Binary32

theorem Random.unit_le_div (random : Random) {limit distance : Binary32} (positive : 0 < distance)
    (within : distance ≤ limit) (finite : distance.isFinite = true) :
    random.unit.1 ≤ limit / distance :=
  Binary32.le_of_lt (random.unit_lt (Binary32.one_le_div positive within finite))

end AvatarRelay
