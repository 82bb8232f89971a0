/-
# Rounding to the nearest pattern

The rounding of a quotient is told pattern by pattern: the result lies above a pattern exactly
if the quotient lies above the middle between the magnitudes of the pattern and of the next
one, or on it if the pattern is odd. All bounds on rounded results are read off from this one
fact. In particular rounding keeps to the side of every magnitude that a quotient is on.
-/

import Mathlib.Order.Monotone.Basic
import AvatarRelay.Binary32.Basic

namespace AvatarRelay.Binary32

-- Powers are those of the core library, whatever other instances are in scope.
attribute [local instance (2000)] instPowNat

/-- The magnitude of a pattern that is put together from a binade and a significand. Outside
the lowest binade the significand has its leading bit. -/
theorem unitsOfPattern_binade {binade significand : Nat}
    (normal : binade = 0 ∨ 2 ^ fractionPlaces ≤ significand)
    (fits : significand ≤ 2 ^ (fractionPlaces + 1)) :
    unitsOfPattern (binade * 2 ^ fractionPlaces + significand) = significand * 2 ^ binade := by
  have whole : 2 ^ fractionPlaces = 8388608 := rfl
  rw [Nat.pow_succ, whole] at fits
  rw [whole] at normal
  unfold unitsOfPattern
  split
  · next subnormal =>
    rw [whole] at subnormal
    have lowest : binade = 0 := by omega
    rw [lowest, Nat.pow_zero]
    omega
  next above =>
  rw [whole] at above ⊢
  rcases Nat.eq_or_lt_of_le fits with top | below
  · have exponent : (binade * 8388608 + significand) / 8388608 - 1 = binade + 1 := by omega
    have fraction : (binade * 8388608 + significand) % 8388608 = 0 := by omega
    rw [exponent, fraction, Nat.pow_succ, top, Nat.add_zero, ← Nat.mul_assoc,
      Nat.mul_right_comm]
  · have exponent : (binade * 8388608 + significand) / 8388608 - 1 = binade := by omega
    have fraction : 8388608 + (binade * 8388608 + significand) % 8388608 = significand := by
      omega
    rw [exponent, fraction]

/-- Every pattern is put together from a binade and a significand, and the next pattern has the
next significand in the same binade. -/
theorem exists_binade (pattern : Nat) : ∃ binade significand,
    pattern = binade * 2 ^ fractionPlaces + significand ∧
      (binade = 0 ∨ 2 ^ fractionPlaces ≤ significand) ∧
      significand < 2 ^ (fractionPlaces + 1) ∧
      unitsOfPattern pattern = significand * 2 ^ binade ∧
      unitsOfPattern (pattern + 1) = (significand + 1) * 2 ^ binade := by
  obtain ⟨binade, significand, rfl, normal, fits⟩ : ∃ binade significand,
      pattern = binade * 2 ^ fractionPlaces + significand ∧
        (binade = 0 ∨ 2 ^ fractionPlaces ≤ significand) ∧
        significand < 2 ^ (fractionPlaces + 1) := by
    refine ⟨pattern / 2 ^ fractionPlaces - 1,
      pattern - (pattern / 2 ^ fractionPlaces - 1) * 2 ^ fractionPlaces, ?_⟩
    simp only [fractionPlaces, Nat.reduceAdd, Nat.reducePow]
    omega
  refine ⟨binade, significand, rfl, normal, fits,
    unitsOfPattern_binade normal (Nat.le_of_lt fits), ?_⟩
  rw [Nat.add_assoc]
  exact unitsOfPattern_binade (normal.imp_right Nat.le_succ_of_le) fits

theorem unitsOfPattern_strictMono : StrictMono unitsOfPattern := by
  refine strictMono_nat_of_lt_succ fun pattern => ?_
  obtain ⟨binade, significand, -, -, -, here, next⟩ := exists_binade pattern
  rw [here, next]
  exact Nat.mul_lt_mul_of_pos_right (Nat.lt_succ_self _) (Nat.two_pow_pos _)

theorem unitsOfPattern_mono {small large : Nat} (le : small ≤ large) :
    unitsOfPattern small ≤ unitsOfPattern large :=
  unitsOfPattern_strictMono.monotone le

/-- The step from a magnitude to the next one is one unit, or a small part of the magnitude. -/
theorem unitsOfPattern_succ (pattern : Nat) :
    unitsOfPattern (pattern + 1) = unitsOfPattern pattern + 1 ∧
        pattern % 2 = unitsOfPattern pattern % 2 ∨
      2 ^ fractionPlaces ≤ unitsOfPattern pattern ∧
        2 ^ fractionPlaces * unitsOfPattern (pattern + 1) ≤
          (2 ^ fractionPlaces + 1) * unitsOfPattern pattern := by
  obtain ⟨binade, significand, rfl, normal, -, here, next⟩ := exists_binade pattern
  rw [here, next]
  rcases normal with rfl | leading
  · left
    omega
  · right
    refine ⟨leading.trans (Nat.le_mul_of_pos_right _ (Nat.two_pow_pos _)), ?_⟩
    rw [← Nat.mul_assoc, ← Nat.mul_assoc]
    refine Nat.mul_le_mul_right _ ?_
    rw [Nat.mul_succ, Nat.add_mul, Nat.one_mul]
    exact Nat.add_le_add_left leading _

/-- Twice a magnitude is the magnitude of another pattern: of the same significand in the next
binade, or of twice the significand if that has no leading bit yet. -/
theorem exists_double (pattern : Nat) :
    ∃ double, unitsOfPattern double = 2 * unitsOfPattern pattern := by
  obtain ⟨binade, significand, -, normal, fits, here, -⟩ := exists_binade pattern
  rw [here]
  by_cases leading : 2 ^ fractionPlaces ≤ significand
  · refine ⟨(binade + 1) * 2 ^ fractionPlaces + significand, ?_⟩
    rw [unitsOfPattern_binade (Or.inr leading) (Nat.le_of_lt fits), Nat.pow_succ',
      Nat.mul_left_comm]
  · obtain rfl : binade = 0 := normal.resolve_right leading
    refine ⟨0 * 2 ^ fractionPlaces + 2 * significand, ?_⟩
    rw [unitsOfPattern_binade (Or.inl rfl), Nat.mul_assoc]
    rw [Nat.pow_succ']
    exact Nat.mul_le_mul_left 2 (Nat.le_of_not_le leading)

/-- What fits into a significand is a magnitude, whatever power of two it is scaled by. -/
theorem exists_unitsOfPattern_eq {significand : Nat}
    (fits : significand ≤ 2 ^ (fractionPlaces + 1)) (places : Nat) :
    ∃ pattern, unitsOfPattern pattern = significand * 2 ^ places := by
  induction places with
  | zero => exact ⟨0 * 2 ^ fractionPlaces + significand, unitsOfPattern_binade (Or.inl rfl) fits⟩
  | succ places ih =>
    obtain ⟨pattern, here⟩ := ih
    obtain ⟨double, next⟩ := exists_double pattern
    exact ⟨double, by rw [next, here, Nat.pow_succ', Nat.mul_left_comm]⟩

/-- A rounded quotient exceeds a number if the quotient lies above the middle between the
number and the next one, or on it if the number is odd. -/
theorem lt_roundDiv_iff {numerator denominator : Nat} (positive : 0 < denominator)
    (number : Nat) :
    number < roundDiv numerator denominator ↔
      denominator * (2 * number + 1) < 2 * numerator ∨
        denominator * (2 * number + 1) = 2 * numerator ∧ number % 2 = 1 := by
  have whole := Nat.div_add_mod numerator denominator
  have small := Nat.mod_lt numerator positive
  simp only [roundDiv]
  generalize numerator / denominator = quotient at *
  generalize numerator % denominator = remainder at *
  rw [Nat.mul_add, Nat.mul_one, Nat.mul_left_comm]
  rcases Nat.lt_trichotomy number quotient with below | rfl | above
  · have product : denominator * (number + 1) ≤ denominator * quotient :=
      Nat.mul_le_mul_left _ below
    rw [Nat.mul_add, Nat.mul_one] at product
    have least : number < if denominator < 2 * remainder then quotient + 1
        else if 2 * remainder = denominator then quotient + quotient % 2 else quotient := by
      split
      · omega
      split
      · omega
      · exact below
    exact iff_of_true least (Or.inl (by omega))
  · split
    · omega
    split
    · omega
    · omega
  · have product : denominator * (quotient + 1) ≤ denominator * number :=
      Nat.mul_le_mul_left _ above
    rw [Nat.mul_add, Nat.mul_one] at product
    have most : ¬ number < if denominator < 2 * remainder then quotient + 1
        else if 2 * remainder = denominator then quotient + quotient % 2 else quotient := by
      split
      · omega
      split
      · omega
      · omega
    exact iff_of_false most (by omega)

/-- Rounding does not take a quotient below a number that it has reached. -/
theorem le_roundDiv {numerator denominator number : Nat} (positive : 0 < denominator)
    (le : denominator * number ≤ numerator) : number ≤ roundDiv numerator denominator := by
  rcases number with _ | number
  · exact Nat.zero_le _
  refine (lt_roundDiv_iff positive number).mpr (Or.inl ?_)
  rw [Nat.mul_add, Nat.mul_one] at le ⊢
  rw [Nat.mul_left_comm]
  omega

theorem roundDiv_le {numerator denominator number : Nat} (positive : 0 < denominator)
    (le : numerator ≤ denominator * number) : roundDiv numerator denominator ≤ number := by
  refine Nat.le_of_not_lt fun above => ?_
  have beyond := (lt_roundDiv_iff positive number).mp above
  rw [Nat.mul_add, Nat.mul_one, Nat.mul_left_comm] at beyond
  omega

/-- The binade that a quotient is rounded in: outside the lowest one the quotient has its leading
bit in the significand, and it stays below the next binade. -/
theorem exists_nearestPattern (numerator : Nat) {denominator : Nat} (positive : 0 < denominator) :
    ∃ binade, nearestPattern numerator denominator =
        min (binade * 2 ^ fractionPlaces + roundDiv numerator (denominator * 2 ^ binade))
          infinityPattern ∧
      (binade = 0 ∨ denominator * 2 ^ binade * 2 ^ fractionPlaces ≤ numerator) ∧
      numerator < denominator * 2 ^ binade * 2 ^ (fractionPlaces + 1) := by
  let quotient := numerator / denominator
  refine ⟨quotient.log2 - fractionPlaces, rfl, ?_, ?_⟩
  · by_cases low : quotient.log2 ≤ fractionPlaces
    · exact Or.inl (Nat.sub_eq_zero_of_le low)
    · right
      have nonzero : quotient ≠ 0 := by
        intro zero
        rw [zero, Nat.log2_zero] at low
        exact low (Nat.zero_le _)
      have least : denominator * 2 ^ quotient.log2 ≤ numerator :=
        (Nat.mul_le_mul_left _ (Nat.log2_self_le nonzero)).trans (Nat.mul_div_le _ _)
      rwa [Nat.mul_assoc, ← Nat.pow_add, Nat.sub_add_cancel (Nat.le_of_not_le low)]
  · have next : quotient < 2 ^ (quotient.log2 - fractionPlaces + (fractionPlaces + 1)) :=
      Nat.lt_log2_self.trans_le (Nat.pow_le_pow_right Nat.two_pos (by omega))
    rw [Nat.mul_assoc, ← Nat.pow_add, Nat.mul_comm]
    exact (Nat.div_lt_iff_lt_mul positive).mp next

/-- A quotient is rounded to a pattern above a given one exactly if it lies above the middle
between the magnitudes of this pattern and of the next one, or on it if the pattern is odd. -/
theorem lt_nearestPattern_iff {numerator denominator : Nat} (positive : 0 < denominator)
    {pattern : Nat} (finite : pattern < infinityPattern) :
    pattern < nearestPattern numerator denominator ↔
      denominator * (unitsOfPattern pattern + unitsOfPattern (pattern + 1)) < 2 * numerator ∨
        denominator * (unitsOfPattern pattern + unitsOfPattern (pattern + 1)) = 2 * numerator ∧
          pattern % 2 = 1 := by
  obtain ⟨top, result, leading, below⟩ := exists_nearestPattern numerator positive
  obtain ⟨binade, significand, rfl, normal, fits, here, next⟩ := exists_binade pattern
  rw [result, Nat.lt_min, and_iff_left finite, here, next]
  have middle : denominator * (significand * 2 ^ binade + (significand + 1) * 2 ^ binade) =
      denominator * 2 ^ binade * (2 * significand + 1) := by
    rw [← Nat.add_mul, Nat.mul_comm _ (2 ^ binade), ← Nat.mul_assoc]
    congr 1
    omega
  have grid (binade : Nat) : 0 < denominator * 2 ^ binade :=
    Nat.mul_pos positive (Nat.two_pow_pos binade)
  have finer {lower upper : Nat} (less : lower < upper) :
      denominator * 2 ^ lower * 2 ≤ denominator * 2 ^ upper := by
    rw [Nat.mul_assoc, ← Nat.pow_succ]
    exact Nat.mul_le_mul_left _ (Nat.pow_le_pow_right Nat.two_pos less)
  have most := roundDiv_le (grid top) (Nat.le_of_lt below)
  have least := leading.imp_right (le_roundDiv (grid top))
  have scale := grid binade
  rw [middle]
  simp only [Nat.pow_succ, show 2 ^ fractionPlaces = 8388608 from rfl] at *
  rcases Nat.lt_trichotomy binade top with less | rfl | more
  · have product : denominator * 2 ^ binade * (2 * significand + 1) ≤
        denominator * 2 ^ binade * 33554431 := Nat.mul_le_mul_left _ (by omega)
    have finer := finer less
    exact iff_of_true (by omega) (Or.inl (by omega))
  · rw [Nat.add_lt_add_iff_left, lt_roundDiv_iff scale]
    have parity : (binade * 8388608 + significand) % 2 = significand % 2 := by omega
    rw [parity]
  · have product : denominator * 2 ^ binade * 16777217 ≤
        denominator * 2 ^ binade * (2 * significand + 1) := Nat.mul_le_mul_left _ (by omega)
    have finer := finer more
    exact iff_of_false (by omega) (by omega)

/-- Rounding does not take a quotient below a magnitude that it has reached. -/
theorem le_nearestPattern {numerator denominator pattern : Nat} (positive : 0 < denominator)
    (fits : pattern ≤ infinityPattern) (le : denominator * unitsOfPattern pattern ≤ numerator) :
    pattern ≤ nearestPattern numerator denominator := by
  rcases pattern with _ | pattern
  · exact Nat.zero_le _
  have less : unitsOfPattern pattern < unitsOfPattern (pattern + 1) :=
    unitsOfPattern_strictMono (Nat.lt_succ_self _)
  have product := Nat.mul_lt_mul_of_pos_left less positive
  refine (lt_nearestPattern_iff positive fits).mpr (Or.inl ?_)
  rw [Nat.mul_add]
  omega

theorem nearestPattern_le {numerator denominator pattern : Nat} (positive : 0 < denominator)
    (le : numerator ≤ denominator * unitsOfPattern pattern) :
    nearestPattern numerator denominator ≤ pattern := by
  refine Nat.le_of_not_lt fun above => ?_
  have less : unitsOfPattern pattern < unitsOfPattern (pattern + 1) :=
    unitsOfPattern_strictMono (Nat.lt_succ_self _)
  have product := Nat.mul_lt_mul_of_pos_left less positive
  have finite : pattern < infinityPattern := above.trans_le (Nat.min_le_right _ _)
  have beyond := (lt_nearestPattern_iff positive finite).mp above
  rw [Nat.mul_add] at beyond
  omega

theorem nearestPattern_unitsOfPattern {pattern : Nat} (fits : pattern ≤ infinityPattern) :
    nearestPattern (unitsOfPattern pattern) 1 = pattern := by
  have exact : 1 * unitsOfPattern pattern = unitsOfPattern pattern := Nat.one_mul _
  exact Nat.le_antisymm (nearestPattern_le Nat.one_pos exact.ge)
    (le_nearestPattern Nat.one_pos fits exact.le)

theorem nearestPattern_mono {small large denominator : Nat} (positive : 0 < denominator)
    (le : small ≤ large) : nearestPattern small denominator ≤ nearestPattern large denominator := by
  refine Nat.le_of_not_lt fun above => ?_
  have finite : nearestPattern large denominator < infinityPattern :=
    above.trans_le (Nat.min_le_right _ _)
  have beyond := (lt_nearestPattern_iff positive finite).mp above
  exact Nat.lt_irrefl _ ((lt_nearestPattern_iff positive finite).mpr (by omega))

end AvatarRelay.Binary32
