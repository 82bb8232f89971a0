/-
# Numbers that are not negative

Numbers from zero on stand in the order of their patterns, negative zero with the other one.
Their products and quotients are of the same kind, and the pattern of the result is the one
that the exact magnitude is rounded to.
-/

import AvatarRelay.Proofs.Draws

namespace AvatarRelay.Binary32

-- Powers are those of the core library, whatever other instances are in scope.
attribute [local instance (2000)] instPowNat

variable {number first second : Binary32}

theorem rank_zero : (0 : Binary32).rank = 0 :=
  rfl

theorem nonneg_iff :
    0 ≤ number ↔ number.isNaN = false ∧ (number.signBit = true → number.pattern = 0) := by
  have real : (0 : Binary32).isNaN = false := rfl
  rw [le_iff, rank_zero, rank]
  cases number.signBit
  · simp [real]
  · simp [real]

theorem isNaN_of_nonneg (nonneg : 0 ≤ number) : number.isNaN = false :=
  (nonneg_iff.mp nonneg).1

theorem rank_of_nonneg (nonneg : 0 ≤ number) : number.rank = number.pattern := by
  rw [rank]
  split
  · next signed =>
    rw [(nonneg_iff.mp nonneg).2 signed]
    rfl
  · rfl

theorem le_iff_pattern (one : 0 ≤ first) (two : 0 ≤ second) :
    first ≤ second ↔ first.pattern ≤ second.pattern := by
  rw [le_iff, rank_of_nonneg one, rank_of_nonneg two, isNaN_of_nonneg one, isNaN_of_nonneg two,
    Int.ofNat_le, and_iff_right rfl, and_iff_right rfl]

theorem lt_iff_pattern (one : 0 ≤ first) (two : 0 ≤ second) :
    first < second ↔ first.pattern < second.pattern := by
  rw [lt_iff, rank_of_nonneg one, rank_of_nonneg two, isNaN_of_nonneg one, isNaN_of_nonneg two,
    Int.ofNat_lt, and_iff_right rfl, and_iff_right rfl]

theorem isFinite_of_le (one : 0 ≤ first) (le : first ≤ second)
    (finite : second.isFinite = true) : first.isFinite = true := by
  have patterns := (le_iff_pattern one (le_trans one le)).mp le
  rw [isFinite, decide_eq_true_eq] at finite ⊢
  exact Nat.lt_of_le_of_lt patterns finite

theorem nonneg_of_pos (positive : 0 < number) : 0 ≤ number :=
  le_of_lt positive

theorem of_pos (positive : 0 < number) : number.signBit = false ∧ 0 < number.pattern := by
  have nonneg := nonneg_of_pos positive
  have above : 0 < number.pattern := (lt_iff_pattern (by decide) nonneg).mp positive
  refine ⟨Bool.eq_false_iff.mpr fun signed => ?_, above⟩
  exact Nat.ne_of_gt above ((nonneg_iff.mp nonneg).2 signed)

theorem units_of_pattern_zero (zero : number.pattern = 0) : number.units = 0 := by
  rw [units, zero]
  rfl

theorem units_one : unitsOfPattern (1 : Binary32).pattern = 2 ^ unitPlaces := by
  decide

theorem units_pos (above : 0 < number.pattern) : 0 < number.units :=
  unitsOfPattern_strictMono above

theorem isInfinite_of_isFinite (finite : number.isFinite = true) : number.isInfinite = false := by
  rw [isFinite, decide_eq_true_eq] at finite
  exact decide_eq_false (Nat.ne_of_lt finite)

theorem isInfinite_of_real (real : number.isNaN = false) (unbounded : number.isFinite = false) :
    number.isInfinite = true := by
  rw [isNaN, decide_eq_false_iff_not] at real
  rw [isFinite, decide_eq_false_iff_not] at unbounded
  exact decide_eq_true (by omega)

theorem nearestPattern_zero (denominator : Nat) : nearestPattern 0 denominator = 0 := by
  simp [nearestPattern, roundDiv, fractionPlaces]

/-- A share of a magnitude is rounded to a smaller pattern, if the magnitude has its leading bit:
what is taken away is more than half of the step to the pattern below. -/
theorem nearestPattern_mul_lt {pattern share : Nat} (finite : pattern < infinityPattern)
    (leading : 2 ^ fractionPlaces < unitsOfPattern pattern)
    (less : share < (1 : Binary32).pattern) :
    nearestPattern (unitsOfPattern pattern * unitsOfPattern share) (2 ^ unitPlaces) < pattern := by
  rcases pattern with _ | below
  · exact absurd leading (by decide)
  have largest : unitsOfPattern share ≤ 16777215 * 2 ^ (125 : Nat) :=
    unitsOfPattern_mono (Nat.le_of_lt_succ less)
  have product := Nat.mul_le_mul_left (unitsOfPattern (below + 1)) largest
  refine Nat.lt_succ_of_le (Nat.le_of_not_lt fun above => ?_)
  have beyond := (lt_nearestPattern_iff (Nat.two_pow_pos _) (Nat.lt_of_succ_lt finite)).mp above
  have step := unitsOfPattern_succ below
  -- The share leaves out one part in `2 ^ 24` at least, the step is one in `2 ^ 23` at most.
  simp only [unitPlaces, fractionPlaces] at leading step beyond
  omega

theorem pattern_ofUnits (negative : Bool) (numerator denominator : Nat) :
    (ofUnits negative numerator denominator).pattern = nearestPattern numerator denominator :=
  pattern_ofPattern negative
    (Nat.lt_of_le_of_lt (Nat.min_le_right _ _) (show infinityPattern < 0x80000000 by decide))

/-- A rounded magnitude is not negative, unless it has a sign and is not zero. -/
theorem nonneg_ofUnits {negative : Bool} {numerator denominator : Nat}
    (unsigned : negative = true → numerator = 0) :
    0 ≤ ofUnits negative numerator denominator := by
  rw [nonneg_iff, isNaN, pattern_ofUnits]
  constructor
  · exact decide_eq_false (Nat.not_lt.mpr (Nat.min_le_right _ _))
  · intro signed
    rw [signBit_ofUnits] at signed
    rw [unsigned signed, nearestPattern_zero]

variable (one : 0 ≤ first) (finite : first.isFinite = true)

include one finite

theorem mul_of_nonneg (two : 0 ≤ second) (finiteToo : second.isFinite = true) :
    0 ≤ first * second ∧
      (first * second).pattern =
        nearestPattern (first.units * second.units) (2 ^ unitPlaces) := by
  have product : first * second = ofUnits (first.signBit != second.signBit)
      (first.units * second.units) (2 ^ unitPlaces) := by
    change Binary32.mul first second = _
    simp only [Binary32.mul, isNaN_of_nonneg one, isNaN_of_nonneg two,
      isInfinite_of_isFinite finite, isInfinite_of_isFinite finiteToo, Bool.or_self,
      Bool.false_eq_true, if_false]
  rw [product, pattern_ofUnits]
  refine ⟨nonneg_ofUnits fun signs => ?_, rfl⟩
  cases signed : first.signBit with
  | true => rw [units_of_pattern_zero ((nonneg_iff.mp one).2 signed), Nat.zero_mul]
  | false =>
    rw [signed, Bool.false_bne] at signs
    rw [units_of_pattern_zero ((nonneg_iff.mp two).2 signs), Nat.mul_zero]

theorem div_of_nonneg (two : 0 < second) (finiteToo : second.isFinite = true) :
    0 ≤ first / second ∧
      (first / second).pattern =
        nearestPattern (first.units * 2 ^ unitPlaces) second.units := by
  obtain ⟨unsigned, above⟩ := of_pos two
  have nonzero : second.isZero = false := decide_eq_false (Nat.ne_of_gt above)
  have quotient : first / second =
      ofUnits first.signBit (first.units * 2 ^ unitPlaces) second.units := by
    change Binary32.div first second = _
    simp only [Binary32.div, isNaN_of_nonneg one, isNaN_of_nonneg (nonneg_of_pos two),
      isInfinite_of_isFinite finite, isInfinite_of_isFinite finiteToo, nonzero, unsigned,
      Bool.or_self, Bool.bne_false, Bool.false_eq_true, if_false]
  rw [quotient, pattern_ofUnits]
  refine ⟨nonneg_ofUnits fun signed => ?_, rfl⟩
  rw [units_of_pattern_zero ((nonneg_iff.mp one).2 signed), Nat.zero_mul]

/-- A share of a number is no larger than the number. -/
theorem mul_le_left (two : 0 ≤ second) (share : second ≤ 1) : first * second ≤ first := by
  have finiteToo := isFinite_of_le two share (by decide)
  obtain ⟨nonneg, pattern⟩ := mul_of_nonneg one finite two finiteToo
  have units := unitsOfPattern_mono ((le_iff_pattern two (by decide)).mp share)
  rw [units_one] at units
  rw [le_iff_pattern nonneg one, pattern]
  refine nearestPattern_le (Nat.two_pow_pos _) ?_
  rw [Nat.mul_comm (2 ^ unitPlaces)]
  exact Nat.mul_le_mul_left _ units

/-- A share of a number is less than the number, if that has its leading bit. -/
theorem mul_lt_left (leading : 2 ^ fractionPlaces < first.units) (two : 0 ≤ second)
    (share : second < 1) : first * second < first := by
  have finiteToo := isFinite_of_le two (le_of_lt share) (by decide)
  obtain ⟨nonneg, pattern⟩ := mul_of_nonneg one finite two finiteToo
  rw [lt_iff_pattern nonneg one, pattern]
  exact nearestPattern_mul_lt (of_decide_eq_true finite) leading
    ((lt_iff_pattern two (by decide)).mp share)

theorem mul_le_mul_left {larger : Binary32} (two : 0 ≤ second) (le : second ≤ larger)
    (finiteToo : larger.isFinite = true) : first * second ≤ first * larger := by
  obtain ⟨nonneg, pattern⟩ := mul_of_nonneg one finite two (isFinite_of_le two le finiteToo)
  obtain ⟨nonnegToo, patternToo⟩ := mul_of_nonneg one finite (le_trans two le) finiteToo
  rw [le_iff_pattern nonneg nonnegToo, pattern, patternToo]
  have units : second.units ≤ larger.units :=
    unitsOfPattern_mono ((le_iff_pattern two (le_trans two le)).mp le)
  exact nearestPattern_mono (Nat.two_pow_pos _) (Nat.mul_le_mul_left _ units)

/-- A number makes up at most the whole of a larger one. -/
theorem div_le_one (two : 0 < second) (finiteToo : second.isFinite = true) (le : first ≤ second) :
    first / second ≤ 1 := by
  obtain ⟨nonneg, pattern⟩ := div_of_nonneg one finite two finiteToo
  have units := unitsOfPattern_mono ((le_iff_pattern one (nonneg_of_pos two)).mp le)
  rw [le_iff_pattern nonneg (by decide), pattern]
  refine nearestPattern_le (units_pos (of_pos two).2) ?_
  rw [units_one]
  exact Nat.mul_le_mul_right _ units

end AvatarRelay.Binary32
