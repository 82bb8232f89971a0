/-
# Sums and differences

A sum is rounded once, so it keeps to the side of every number that the exact sum is on: it does
not fall below its first part if the second is not negative, and a difference does not exceed
what it is taken from. Rounding may make a difference larger than it is, but a power of two is
not passed on the way; so half of what a number lacks of one, rounded twice, still is no more
than what it lacks.
-/

import AvatarRelay.Proofs.Magnitudes

namespace AvatarRelay.Binary32

-- Powers are those of the core library, whatever other instances are in scope.
attribute [local instance (2000)] instPowNat

variable {number first second bound : Binary32}

@[simp]
theorem pattern_neg (number : Binary32) : (-number).pattern = number.pattern :=
  pattern_ofPattern _ (Nat.mod_lt _ (by decide))

@[simp]
theorem signBit_neg (number : Binary32) : (-number).signBit = !number.signBit :=
  signBit_ofPattern _ _

theorem signedUnits_neg (number : Binary32) : (-number).signedUnits = -number.signedUnits := by
  rw [signedUnits, signedUnits, units, units, pattern_neg, signBit_neg]
  cases number.signBit with
  | false => rfl
  | true => exact (Int.neg_neg _).symm

theorem signedUnits_of_nonneg (nonneg : 0 ≤ number) : number.signedUnits = number.units := by
  rw [signedUnits]
  split
  · next signed =>
    rw [units_of_pattern_zero ((nonneg_iff.mp nonneg).2 signed)]
    rfl
  · rfl

theorem le_of_signBit (real : number.isNaN = false) (signed : number.signBit = true)
    (nonneg : 0 ≤ bound) : number ≤ bound := by
  rw [le_iff, rank_of_nonneg nonneg, rank, signed, if_pos rfl]
  exact ⟨real, isNaN_of_nonneg nonneg, by omega⟩

/-- Rounding does not take a quotient above a power of two that it does not exceed. -/
theorem units_nearestPattern_le_pow {numerator denominator places : Nat}
    (positive : 0 < denominator) (le : numerator ≤ denominator * 2 ^ places) :
    unitsOfPattern (nearestPattern numerator denominator) ≤ 2 ^ places := by
  obtain ⟨pattern, power⟩ : ∃ pattern, unitsOfPattern pattern = 1 * 2 ^ places :=
    exists_unitsOfPattern_eq (Nat.two_pow_pos _) places
  rw [Nat.one_mul] at power
  rw [← power] at le ⊢
  exact unitsOfPattern_mono (nearestPattern_le positive le)

theorem add_of_isFinite (finite : first.isFinite = true) (finiteToo : second.isFinite = true) :
    let sum := first.signedUnits + second.signedUnits
    first + second =
      ofUnits (if sum = 0 then first.signBit && second.signBit else sum < 0) sum.natAbs 1 := by
  change Binary32.add first second = _
  simp only [Binary32.add, isNaN_of_isFinite finite, isNaN_of_isFinite finiteToo,
    isInfinite_of_isFinite finite, isInfinite_of_isFinite finiteToo, Bool.or_self,
    Bool.false_eq_true, if_false]

/-- A sum of units that is not negative is rounded to a number that is not. -/
theorem nonneg_of_sum {sum : Int} (nonneg : 0 ≤ sum) (signed : Bool) :
    0 ≤ ofUnits (if sum = 0 then signed else sum < 0) sum.natAbs 1 := by
  refine nonneg_ofUnits fun negative => ?_
  split at negative
  · omega
  · have below := of_decide_eq_true negative
    omega

section Nonneg

variable (one : 0 ≤ first) (finite : first.isFinite = true)
  (two : 0 ≤ second) (finiteToo : second.isFinite = true)

include one finite two finiteToo

theorem add_of_nonneg :
    0 ≤ first + second ∧
      (first + second).pattern = nearestPattern (first.units + second.units) 1 := by
  rw [add_of_isFinite finite finiteToo, signedUnits_of_nonneg one, signedUnits_of_nonneg two,
    pattern_ofUnits]
  exact ⟨nonneg_of_sum (by omega) _, congrArg (nearestPattern · 1) (by omega)⟩

theorem le_add_left : first ≤ first + second := by
  obtain ⟨nonneg, pattern⟩ := add_of_nonneg one finite two finiteToo
  rw [le_iff_pattern one nonneg, pattern]
  refine le_nearestPattern Nat.one_pos ?_ ?_
  · exact Nat.le_of_lt (of_decide_eq_true finite)
  · rw [Nat.one_mul]
    exact Nat.le_add_right _ _

/-- A sum stays within every number that the exact sum stays within. -/
theorem add_le_of_units (nonneg : 0 ≤ bound)
    (within : first.units + second.units ≤ bound.units) : first + second ≤ bound := by
  obtain ⟨sumNonneg, pattern⟩ := add_of_nonneg one finite two finiteToo
  rw [le_iff_pattern sumNonneg nonneg, pattern]
  exact nearestPattern_le Nat.one_pos (by rwa [Nat.one_mul])

/-- A difference is a number, with a sign if more is taken away than is there; otherwise it is
rounded once. -/
theorem sub_cases :
    (first - second).isNaN = false ∧
      (first.units < second.units ∧ (first - second).signBit = true ∨
        second.units ≤ first.units ∧ 0 ≤ first - second ∧
          (first - second).pattern = nearestPattern (first.units - second.units) 1) := by
  have finiteNeg : (-second).isFinite = true := by
    rw [isFinite, pattern_neg]
    exact finiteToo
  rw [show first - second = first + -second from rfl, add_of_isFinite finite finiteNeg,
    signedUnits_neg, signedUnits_of_nonneg one, signedUnits_of_nonneg two, isNaN,
    pattern_ofUnits, signBit_ofUnits]
  refine ⟨decide_eq_false (Nat.not_lt.mpr (Nat.min_le_right _ _)), ?_⟩
  rcases Nat.lt_or_ge first.units second.units with less | le
  · left
    rw [if_neg (by omega)]
    exact ⟨less, decide_eq_true (by omega)⟩
  · right
    exact ⟨le, nonneg_of_sum (by omega) _, congrArg (nearestPattern · 1) (by omega)⟩

theorem sub_le_left : first - second ≤ first := by
  obtain ⟨real, ⟨-, signed⟩ | ⟨le, nonneg, pattern⟩⟩ := sub_cases one finite two finiteToo
  · exact le_of_signBit real signed one
  · rw [le_iff_pattern nonneg one, pattern]
    refine nearestPattern_le Nat.one_pos ?_
    rw [Nat.one_mul]
    exact Nat.sub_le _ _

end Nonneg

/-- The larger of zero and a number that stays within a bound stays within it as well. -/
theorem max_zero_within (within : number ≤ bound) (nonneg : 0 ≤ bound) :
    0 ≤ number.max 0 ∧ number.max 0 ≤ bound := by
  have real := (le_iff.mp within).1
  rw [Binary32.max, real, if_neg Bool.false_ne_true]
  split
  · exact ⟨le_refl rfl, nonneg⟩
  · next notBelow => exact ⟨le_of_not_lt rfl real notBelow, within⟩

theorem units_half : (0.5 : Binary32).units = 2 ^ (unitPlaces - 1) := by
  decide

/-- A number of units that was rounded, halved and rounded again is no larger than it was: neither
rounding takes it past the power of two above it, or past the one below it. -/
theorem units_halved_le (amount : Nat) :
    unitsOfPattern (nearestPattern
      (2 ^ (unitPlaces - 1) * unitsOfPattern (nearestPattern amount 1)) (2 ^ unitPlaces)) ≤
      amount := by
  rcases Nat.eq_zero_or_pos amount with rfl | positive
  · rw [nearestPattern_zero, show unitsOfPattern 0 = 0 from rfl, Nat.mul_zero,
      nearestPattern_zero]
    exact Nat.le_refl 0
  · have below : amount ≤ 1 * 2 ^ (amount.log2 + 1) := by
      rw [Nat.one_mul]
      exact Nat.le_of_lt Nat.lt_log2_self
    have rounded := units_nearestPattern_le_pow Nat.one_pos below
    have halved : 2 ^ (unitPlaces - 1) * unitsOfPattern (nearestPattern amount 1) ≤
        2 ^ unitPlaces * 2 ^ amount.log2 := calc
      _ ≤ 2 ^ (unitPlaces - 1) * 2 ^ (amount.log2 + 1) := Nat.mul_le_mul_left _ rounded
      _ = 2 ^ unitPlaces * 2 ^ amount.log2 := by
        rw [Nat.pow_succ', ← Nat.mul_assoc, ← Nat.pow_succ]
        rfl
    exact (units_nearestPattern_le_pow (Nat.two_pow_pos _) halved).trans
      (Nat.log2_self_le (Nat.ne_of_gt positive))

/-- A number between zero and one that moves halfway to one does not fall and does not pass
one. -/
theorem halfway_within (nonneg : 0 ≤ number) (share : number ≤ 1) :
    number ≤ number + 0.5 * (1 - number) ∧ number + 0.5 * (1 - number) ≤ 1 := by
  have unit : (0 : Binary32) ≤ 1 ∧ (1 : Binary32).isFinite = true := by decide
  have half : (0 : Binary32) ≤ 0.5 ∧ (0.5 : Binary32).isFinite = true := by decide
  have finite := isFinite_of_le nonneg share unit.2
  have units : number.units ≤ (1 : Binary32).units :=
    unitsOfPattern_mono ((le_iff_pattern nonneg unit.1).mp share)
  have restLe := sub_le_left unit.1 unit.2 nonneg finite
  obtain ⟨-, ⟨less, -⟩ | ⟨-, restNonneg, restPattern⟩⟩ := sub_cases unit.1 unit.2 nonneg finite
  · exact absurd units (Nat.not_le.mpr less)
  have restFinite := isFinite_of_le restNonneg restLe unit.2
  obtain ⟨stepNonneg, stepPattern⟩ := mul_of_nonneg half.1 half.2 restNonneg restFinite
  have stepFinite :=
    isFinite_of_le stepNonneg (mul_le_left half.1 half.2 restNonneg restLe) half.2
  have step : (0.5 * (1 - number)).units ≤ (1 : Binary32).units - number.units := by
    rw [Binary32.units, stepPattern, units_half, Binary32.units, restPattern]
    exact units_halved_le _
  refine ⟨le_add_left nonneg finite stepNonneg stepFinite,
    add_le_of_units nonneg finite stepNonneg stepFinite unit.1 ?_⟩
  exact (Nat.add_le_add_left step _).trans_eq (Nat.add_sub_cancel' units)

end AvatarRelay.Binary32
