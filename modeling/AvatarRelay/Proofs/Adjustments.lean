/-
# Which way the full rate distance moves

A receiver over budget is never left with a larger distance. One well under it is always given
a factor of more than a tenth above one, but the distance has to be rounded: what it gains must
be half a unit at least, so a distance of zero stays what it is whatever the factor, and the
smallest distances above it may. From five units on every factor is enough.
-/

import AvatarRelay.Proofs.Magnitudes
import AvatarRelay.RateControl

namespace AvatarRelay

-- Powers are those of the core library, whatever other instances are in scope.
attribute [local instance (2000)] instPowNat

namespace Binary32

variable {number first second factor : Binary32}

/-- Times the factor, the number gains more than half a unit, or just half a unit if it is an
odd number of them. -/
def GrowsBy (number factor : Binary32) : Prop :=
  2 ^ unitPlaces * (2 * number.units + 1) < 2 * (number.units * factor.units) ∨
    2 ^ unitPlaces * (2 * number.units + 1) = 2 * (number.units * factor.units) ∧
      number.units % 2 = 1

instance (number factor : Binary32) : Decidable (number.GrowsBy factor) :=
  inferInstanceAs (Decidable (_ ∨ _))

/-- The least factor that is counted on, a little more than one and a tenth. -/
theorem unitsOfPattern_growth : unitsOfPattern 0x3f8ccccd = 9227469 * 2 ^ (126 : Nat) := by
  decide

section Growth

variable (large : unitsOfPattern 0x3f8ccccd ≤ factor.units)

include large

theorem growth_le_units_mul (number : Binary32) :
    number.units * (9227469 * 2 ^ (126 : Nat)) ≤ number.units * factor.units := by
  rw [unitsOfPattern_growth] at large
  exact Nat.mul_le_mul_left _ large

/-- The product with such a factor is rounded to a larger number exactly if the number grows by
the factor. In the higher binades both are so: what the number gains exceeds the step to the
next one. -/
theorem lt_nearestPattern_mul_iff (finite : number.isFinite = true) :
    number.pattern < nearestPattern (number.units * factor.units) (2 ^ unitPlaces) ↔
      number.GrowsBy factor := by
  have product := growth_le_units_mul large number
  rw [lt_nearestPattern_iff (Nat.two_pow_pos _) (of_decide_eq_true finite), GrowsBy]
  change 2 ^ unitPlaces * (number.units + _) < _ ∨ 2 ^ unitPlaces * (number.units + _) = _ ∧ _ ↔ _
  rcases unitsOfPattern_succ number.pattern with ⟨next, parity⟩ | ⟨many, next⟩
  · change _ = number.units + 1 at next
    change _ = number.units % 2 at parity
    rw [next, parity, ← Nat.add_assoc, ← Nat.two_mul]
  · change _ ≤ number.units at many
    change _ ≤ _ * number.units at next
    simp only [unitPlaces, fractionPlaces] at many next ⊢
    exact iff_of_true (Or.inl (by omega)) (Or.inl (by omega))

/-- Five units are enough to grow by such a factor. -/
theorem growsBy_of_units (enough : 5 ≤ number.units) : number.GrowsBy factor := by
  have product := growth_le_units_mul large number
  left
  rw [unitPlaces]
  omega

/-- A product with such a factor is no smaller than the number, and larger exactly if the number
grows by the factor. -/
theorem product_spec (nonneg : 0 ≤ number) (finite : number.isFinite = true)
    (factorNonneg : 0 ≤ factor) (factorFinite : factor.isFinite = true) :
    0 ≤ number * factor ∧ number ≤ number * factor ∧
      (number < number * factor ↔ number.GrowsBy factor) := by
  obtain ⟨product, pattern⟩ := mul_of_nonneg nonneg finite factorNonneg factorFinite
  refine ⟨product, ?_, ?_⟩
  · rw [le_iff_pattern nonneg product, pattern]
    refine le_nearestPattern (Nat.two_pow_pos _) (Nat.le_of_lt (of_decide_eq_true finite)) ?_
    rw [Nat.mul_comm (2 ^ unitPlaces)]
    refine Nat.mul_le_mul_left _ (Nat.le_trans ?_ large)
    decide
  · rw [lt_iff_pattern nonneg product, pattern]
    exact lt_nearestPattern_mul_iff large finite

end Growth

/-- Zero grows by nothing. -/
theorem not_growsBy_of_zero (zero : number.pattern = 0) : ¬ number.GrowsBy factor := by
  rw [GrowsBy, units_of_pattern_zero zero, Nat.zero_mul]
  decide

theorem growsBy_of_infinite (nonzero : number.pattern ≠ 0)
    (unbounded : factor.pattern = infinityPattern) : number.GrowsBy factor := by
  have some : 0 < number.units := units_pos (Nat.pos_of_ne_zero nonzero)
  have large : 2 ^ (151 : Nat) ≤ factor.units := by
    rw [units, unbounded]
    decide
  have product := Nat.mul_le_mul_left number.units large
  left
  rw [unitPlaces]
  omega

theorem min_cases (first second : Binary32) :
    first.min second = first ∨ first.min second = second := by
  unfold Binary32.min
  split
  · exact Or.inr rfl
  split
  · exact Or.inr rfl
  · exact Or.inl rfl

theorem not_lt_zero (nonneg : 0 ≤ number) : ¬ number < 0 := fun less =>
  Nat.not_lt_zero _ ((lt_iff_pattern nonneg (by decide)).mp less)

theorem max_zero (nonneg : 0 ≤ number) : number.max 0 = number := by
  rw [Binary32.max, isNaN_of_nonneg nonneg, if_neg Bool.false_ne_true,
    if_neg (not_lt_zero nonneg)]

theorem clamp_of_nonneg (nonneg : 0 ≤ number) (high : Binary32) :
    number.clamp 0 high = if high < number then high else number :=
  if_neg (not_lt_zero nonneg)

/-- A zero times infinity is a NaN, and any other number that is not negative is infinite. -/
theorem mul_of_infinite (one : 0 ≤ first) (finite : first.isFinite = true) (two : 0 ≤ second)
    (unbounded : second.isInfinite = true) :
    first * second = if first.isZero then nan else infinity := by
  have pattern : second.pattern = infinityPattern := of_decide_eq_true unbounded
  have unsigned : second.signBit = false := Bool.eq_false_iff.mpr fun signed => by
    rw [(nonneg_iff.mp two).2 signed] at pattern
    exact absurd pattern (by decide)
  have nonzero : second.isZero = false := by
    rw [isZero, pattern]
    decide
  change Binary32.mul first second = _
  simp only [Binary32.mul, isNaN_of_nonneg one, isNaN_of_nonneg two, nonzero,
    isInfinite_of_isFinite finite, unbounded, unsigned, Bool.or_false, Bool.false_or,
    Bool.bne_false, Bool.false_eq_true, if_false, if_true]
  split
  · rfl
  · next above =>
    have signless : first.signBit = false := Bool.eq_false_iff.mpr fun signed =>
      above (decide_eq_true ((nonneg_iff.mp one).2 signed))
    rw [signless]
    decide

end Binary32

namespace RateController

open Binary32

variable {controller : RateController} {observed current farthest : Binary32}

theorem middleShare_spec :
    0 ≤ middleShare ∧ middleShare ≤ 1 ∧ middleShare.units = 15099494 * 2 ^ (125 : Nat) := by
  decide

theorem acceptableShare_spec : 0 ≤ acceptableShare ∧ acceptableShare ≤ 1 ∧
    acceptableShare.units = 13421773 * 2 ^ (125 : Nat) := by
  decide

section Budget

variable (budget : 0 < controller.targetKbps)
  (budgetFinite : controller.targetKbps.isFinite = true)

include budget budgetFinite

theorem share_spec {share : Binary32} (nonneg : 0 ≤ share) (part : share ≤ 1) :
    0 ≤ controller.targetKbps * share ∧
      (controller.targetKbps * share).isFinite = true ∧
      controller.targetKbps * share ≤ controller.targetKbps ∧
      (controller.targetKbps * share).pattern =
        nearestPattern (controller.targetKbps.units * share.units) (2 ^ unitPlaces) := by
  have target := nonneg_of_pos budget
  obtain ⟨product, pattern⟩ := mul_of_nonneg target budgetFinite nonneg
    (isFinite_of_le nonneg part (by decide))
  have le := mul_le_left target budgetFinite nonneg part
  exact ⟨product, isFinite_of_le product le budgetFinite, le, pattern⟩

theorem middleFactor_spec (measured : 0 < observed) (finite : observed.isFinite = true) :
    0 ≤ controller.middleFactor observed ∧
      (controller.middleFactor observed).pattern =
        nearestPattern ((controller.targetKbps * middleShare).units * 2 ^ unitPlaces)
          observed.units := by
  obtain ⟨nonneg, part, -⟩ := middleShare_spec
  obtain ⟨aim, aimFinite, -⟩ := share_spec budget budgetFinite nonneg part
  exact div_of_nonneg aim aimFinite measured finite

/-- Over budget the factor does not exceed one. -/
theorem middleFactor_le_one (excess : controller.targetKbps < observed)
    (finite : observed.isFinite = true) : controller.middleFactor observed ≤ 1 := by
  obtain ⟨nonneg, part, -⟩ := middleShare_spec
  obtain ⟨aim, aimFinite, within, -⟩ := share_spec budget budgetFinite nonneg part
  have measured : 0 < observed := lt_of_le_of_lt (nonneg_of_pos budget) excess
  exact div_le_one aim aimFinite measured finite (le_trans within (le_of_lt excess))

/-- Well under budget the factor is more than a tenth above one. What is well under the budget
lies below a rounded share of it, and so by half a step at least below the share itself; the aim
lies at most half a step below its own share. Steps are one unit, or a small part of the aim. -/
theorem middleFactor_large (measured : 0 < observed) (finite : observed.isFinite = true)
    (under : observed < controller.targetKbps * acceptableShare) :
    unitsOfPattern 0x3f8ccccd ≤ (controller.middleFactor observed).units := by
  obtain ⟨nonneg, part, middle⟩ := middleShare_spec
  obtain ⟨aim, aimFinite, -, aimed⟩ := share_spec budget budgetFinite nonneg part
  obtain ⟨nonnegToo, partToo, acceptable⟩ := acceptableShare_spec
  obtain ⟨edge, -, -, edged⟩ := share_spec budget budgetFinite nonnegToo partToo
  obtain ⟨-, factor⟩ := middleFactor_spec budget budgetFinite measured finite
  have below := (lt_iff_pattern (nonneg_of_pos measured) edge).mp under
  rw [edged, lt_nearestPattern_iff (Nat.two_pow_pos _) (of_decide_eq_true finite),
    acceptable] at below
  have next : observed.units < unitsOfPattern (observed.pattern + 1) :=
    unitsOfPattern_strictMono (Nat.lt_succ_self _)
  have near := Nat.not_lt.mpr (Nat.le_of_eq aimed.symm)
  rw [lt_nearestPattern_iff (Nat.two_pow_pos _) (of_decide_eq_true aimFinite), middle,
    not_or] at near
  have reached : observed.units * unitsOfPattern 0x3f8ccccd ≤
      (controller.targetKbps * middleShare).units * 2 ^ unitPlaces := by
    have step := unitsOfPattern_succ (controller.targetKbps * middleShare).pattern
    rw [unitsOfPattern_growth]
    simp only [units, unitPlaces, fractionPlaces] at *
    omega
  rw [units, factor]
  exact unitsOfPattern_mono
    (le_nearestPattern (units_pos (of_pos measured).2) (by decide) reached)

variable (limit : 0 ≤ current)

include limit

/-- Over budget the distance is shrunk to a number between zero and the distance that it is
shrunk from. -/
theorem shrunk_spec (excess : controller.targetKbps < observed) (finite : observed.isFinite = true)
    (currentFinite : current.isFinite = true) :
    0 ≤ (current * controller.middleFactor observed).max 0 ∧
      (current * controller.middleFactor observed).max 0 ≤ current := by
  have measured : 0 < observed := lt_of_le_of_lt (nonneg_of_pos budget) excess
  have factor := (middleFactor_spec budget budgetFinite measured finite).1
  have share := middleFactor_le_one budget budgetFinite excess finite
  have product := (mul_of_nonneg limit currentFinite factor
    (isFinite_of_le factor share (by decide))).1
  rw [max_zero product]
  exact ⟨product, mul_le_left limit currentFinite factor share⟩

/-- Well under budget the distance becomes a NaN if it is zero and the factor infinite. If not,
it does not fall, and it grows exactly as far as rounding lets it. -/
theorem grown_spec (measured : 0 < observed) (finite : observed.isFinite = true)
    (under : observed < controller.targetKbps * acceptableShare)
    (limited : current < unboundedDistance) :
    let factor := controller.middleFactor observed
    let distance := (current * factor).clamp 0 unboundedDistance
    (distance.isNaN = true ↔ current.isZero = true ∧ factor.isInfinite = true) ∧
      (distance.isNaN = false → current ≤ distance) ∧
      (current < distance ↔ current.GrowsBy factor) := by
  intro factor distance
  have factorNonneg : 0 ≤ factor := (middleFactor_spec budget budgetFinite measured finite).1
  have large : unitsOfPattern 0x3f8ccccd ≤ factor.units :=
    middleFactor_large budget budgetFinite measured finite under
  have currentFinite : current.isFinite = true :=
    isFinite_of_le limit (le_of_lt limited) (by decide)
  have unboundedReal : unboundedDistance.isNaN = false := rfl
  cases factorFinite : factor.isFinite with
  | true =>
    obtain ⟨product, atMost, grows⟩ := product_spec large limit currentFinite factorNonneg
      factorFinite
    have value : distance = if unboundedDistance < current * factor then unboundedDistance
        else current * factor := clamp_of_nonneg product unboundedDistance
    have bounded : factor.isInfinite = false := isInfinite_of_isFinite factorFinite
    rw [value, bounded, ← grows]
    split
    · next beyond =>
      refine ⟨by simp [unboundedReal], fun _ => le_of_lt limited, iff_of_true limited ?_⟩
      exact lt_of_le_of_lt (le_of_lt limited) beyond
    · simp [isNaN_of_nonneg product, atMost]
  | false =>
    have unbounded := isInfinite_of_real (isNaN_of_nonneg factorNonneg) factorFinite
    have value : distance = (if current.isZero then nan else infinity).clamp 0
        unboundedDistance := by
      rw [← mul_of_infinite limit currentFinite factorNonneg unbounded]
    rw [value, unbounded]
    cases zero : current.isZero with
    | true =>
      have missing : (nan.clamp 0 unboundedDistance).isNaN = true := by decide
      have unordered : ¬ current < nan.clamp 0 unboundedDistance := fun less => by
        rw [(lt_iff.mp less).2.1] at missing
        exact Bool.false_ne_true missing
      have stays : ¬ current.GrowsBy factor := not_growsBy_of_zero (of_decide_eq_true zero)
      simp [missing, unordered, stays]
    | false =>
      have lifted : infinity.clamp 0 unboundedDistance = unboundedDistance := by decide
      have grows : current.GrowsBy factor :=
        growsBy_of_infinite (of_decide_eq_false zero) (of_decide_eq_true unbounded)
      simp [lifted, unboundedReal, limited, le_of_lt limited, grows]

end Budget

/-- What an answer to an observed rate says of it. -/
theorem adjust_eq_decreased_iff {distance : Binary32} :
    controller.adjust observed current farthest = .decreased distance ↔
      controller.targetKbps < observed ∧
        (current.min farthest * controller.middleFactor observed).max 0 = distance := by
  unfold adjust
  split
  · next excess => simp [excess]
  · next within =>
    split
    · split <;> simp [within]
    · simp [within]

theorem adjust_eq_increased_iff {distance : Binary32} :
    controller.adjust observed current farthest = .increased distance ↔
      ¬ controller.targetKbps < observed ∧ current < farthest ∧
        observed < controller.targetKbps * acceptableShare ∧
        (if observed ≤ 0 then unboundedDistance
          else (current * controller.middleFactor observed).clamp 0 unboundedDistance) =
            distance := by
  unfold adjust
  split
  · next excess => simp [excess]
  · next within =>
    split
    · next limited =>
      rw [Bool.and_eq_true, decide_eq_true_eq, decide_eq_true_eq] at limited
      split <;> simp [within, limited]
    · next unlimited =>
      rw [Bool.and_eq_true, decide_eq_true_eq, decide_eq_true_eq, not_and] at unlimited
      simp only [reduceCtorEq, false_iff]
      exact fun answer => unlimited answer.2.1 answer.2.2.1

/-- The distance shrinks exactly over budget, and then to a number between zero and both the
current distance and that of the farthest avatar. An answer that it grows is only given within
the budget; the distance then does grow if nothing was observed or if it gains by the factor as
much as rounding needs, for which five units are enough. Otherwise it stays what it was, or
becomes a NaN if it is zero and the factor infinite. -/
theorem direction_of_adjustment (controller : RateController)
    (observed current farthest : Binary32) (budget : 0 < controller.targetKbps)
    (budgetFinite : controller.targetKbps.isFinite = true) (measured : 0 ≤ observed)
    (measuredFinite : observed.isFinite = true) (limit : 0 ≤ current)
    (limited : current < unboundedDistance) (reach : 0 ≤ farthest)
    (reachFinite : farthest.isFinite = true) :
    ((∃ distance, controller.adjust observed current farthest = .decreased distance) ↔
      controller.targetKbps < observed) ∧
    (∀ distance, controller.adjust observed current farthest = .decreased distance →
      0 ≤ distance ∧ distance ≤ current.min farthest) ∧
    ∀ distance, controller.adjust observed current farthest = .increased distance →
      observed ≤ controller.targetKbps ∧
      (current < distance ↔
        observed ≤ 0 ∨ current.GrowsBy (controller.middleFactor observed)) ∧
      (5 ≤ current.units → current < distance) ∧
      (distance.isNaN = false → current ≤ distance) ∧
      (distance.isNaN = true ↔ ¬ observed ≤ 0 ∧ current.isZero = true ∧
        (controller.middleFactor observed).isInfinite = true) := by
  have currentFinite : current.isFinite = true :=
    isFinite_of_le limit (le_of_lt limited) (by decide)
  refine ⟨?_, ?_, ?_⟩
  · simp [adjust_eq_decreased_iff]
  · intro distance answer
    obtain ⟨excess, rfl⟩ := adjust_eq_decreased_iff.mp answer
    rcases min_cases current farthest with least | least
    · rw [least]
      exact shrunk_spec budget budgetFinite limit excess measuredFinite currentFinite
    · rw [least]
      exact shrunk_spec budget budgetFinite reach excess measuredFinite reachFinite
  · intro distance answer
    obtain ⟨within, -, under, rfl⟩ := adjust_eq_increased_iff.mp answer
    refine ⟨le_of_not_lt (isNaN_of_nonneg measured) (lt_iff.mp budget).2.1 within, ?_⟩
    by_cases nothing : observed ≤ 0
    · have real : unboundedDistance.isNaN = false := rfl
      simp [nothing, limited, real, le_of_lt limited]
    · have some : 0 < observed :=
        lt_of_not_le (isNaN_of_nonneg measured) (lt_iff.mp budget).1 nothing
      obtain ⟨missing, atMost, grows⟩ := grown_spec budget budgetFinite limit some
        measuredFinite under limited
      have large := middleFactor_large budget budgetFinite some measuredFinite under
      rw [if_neg nothing, grows, missing]
      exact ⟨(or_iff_right nothing).symm, growsBy_of_units large, atMost,
        (and_iff_right nothing).symm⟩

/-- At a tenth of the budget a distance of five becomes 45, but one of zero stays zero. -/
theorem stuck_at_zero :
    let controller : RateController := ⟨100, 60⟩
    controller.adjust 10 5 40 = .increased 45 ∧ (5 : Binary32) < 45 ∧
      controller.adjust 10 0 40 = .increased 0 ∧ ¬ (0 : Binary32) < 0 := by
  intro controller
  have five : controller.adjust 10 5 40 = .increased 45 := by decide
  have zero : controller.adjust 10 0 40 = .increased 0 := by decide
  have grown := (direction_of_adjustment controller 10 5 40 (by decide) (by decide) (by decide)
    (by decide) (by decide) (by decide) (by decide) (by decide)).2.2 _ five
  have stuck := (direction_of_adjustment controller 10 0 40 (by decide) (by decide) (by decide)
    (by decide) (by decide) (by decide) (by decide) (by decide)).2.2 _ zero
  refine ⟨five, grown.2.2.1 (by decide), zero, ?_⟩
  rw [stuck.2.1, not_or]
  exact ⟨by decide, not_growsBy_of_zero (by decide)⟩

end RateController

end AvatarRelay
