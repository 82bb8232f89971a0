/-
# Draws and distances

A draw lies in the interval from zero to one, with zero and without one: its fraction has at
most 24 bits, so nothing is rounded on the way. A chance of zero or of one is therefore none,
and neither is an admission whose quotient is at least one. A draw that may reject its words does
not depend on how often it may be attempted, once an attempt is accepted, and a number drawn
below a count lies below it in any case. Distances have no sign, so the farthest of several is
the same in whatever order they are measured.
-/

import AvatarRelay.Geometry.Vec3
import AvatarRelay.Proofs.Bounds
import AvatarRelay.Proofs.Rounding
import AvatarRelay.Random

namespace AvatarRelay

-- Powers are those of the core library, whatever other instances are in scope.
attribute [local instance (2000)] instPowNat

namespace Binary32

variable {number first second : Binary32}

theorem pattern_ofPattern (negative : Bool) {pattern : Nat} (fits : pattern < 0x80000000) :
    (ofPattern negative pattern).pattern = pattern := by
  rw [Binary32.pattern, ofPattern, UInt32.toNat_ofNat']
  cases negative with
  | false => simp only [Bool.false_eq_true, if_false]; omega
  | true => simp only [if_true]; omega

@[simp]
theorem signBit_ofPattern (negative : Bool) (pattern : Nat) :
    (ofPattern negative pattern).signBit = negative := by
  rw [signBit, ofPattern, UInt32.toNat_ofNat']
  cases negative with
  | false =>
    simp only [Bool.false_eq_true, if_false]
    exact decide_eq_false (by omega)
  | true =>
    simp only [if_true]
    exact decide_eq_true (by omega)

@[simp]
theorem signBit_ofUnits (negative : Bool) (numerator denominator : Nat) :
    (ofUnits negative numerator denominator).signBit = negative :=
  signBit_ofPattern negative _

theorem rank_of_signBit (unsigned : number.signBit = false) : number.rank = number.pattern := by
  rw [rank, unsigned, if_neg Bool.false_ne_true]

/-- Numbers without a sign are one if they have one place in the order. -/
theorem eq_of_rank_eq (one : first.signBit = false) (two : second.signBit = false)
    (same : first.rank = second.rank) : first = second := by
  rw [rank_of_signBit one, rank_of_signBit two] at same
  rw [signBit, decide_eq_false_iff_not] at one two
  simp only [pattern] at same
  have bits : first.bits.toNat = second.bits.toNat := by omega
  cases first
  cases second
  exact congrArg Binary32.mk (UInt32.toNat_inj.mp bits)

theorem max_of_isNaN (missing : first.isNaN = true) : first.max second = second :=
  if_pos missing

theorem max_of_real (oneReal : first.isNaN = false) (twoReal : second.isNaN = false) :
    first.max second = if first.rank < second.rank then second else first := by
  simp only [Binary32.max, lt_iff, oneReal, twoReal, true_and, Bool.false_eq_true, if_false]

theorem max_comm (oneReal : first.isNaN = false) (twoReal : second.isNaN = false)
    (one : first.signBit = false) (two : second.signBit = false) :
    first.max second = second.max first := by
  rw [max_of_real oneReal twoReal, max_of_real twoReal oneReal]
  split <;> split
  · omega
  · rfl
  · rfl
  · exact eq_of_rank_eq one two (by omega)

/-- Of a number and two others without a sign the largest is the same, in whichever order the
two are compared with the first. -/
theorem max_right_comm (oneReal : first.isNaN = false) (twoReal : second.isNaN = false)
    (one : first.signBit = false) (two : second.signBit = false) :
    (number.max first).max second = (number.max second).max first := by
  cases real : number.isNaN with
  | true =>
    rw [max_of_isNaN real, max_of_isNaN real]
    exact max_comm oneReal twoReal one two
  | false =>
    rw [max_of_real real oneReal, max_of_real real twoReal]
    by_cases above : number.rank < first.rank <;> by_cases beyond : number.rank < second.rank
    · rw [if_pos above, if_pos beyond]
      exact max_comm oneReal twoReal one two
    · rw [if_pos above, if_neg beyond, max_of_real oneReal twoReal, max_of_real real oneReal,
        if_pos above, if_neg (by omega)]
    · rw [if_neg above, if_pos beyond, max_of_real real twoReal, max_of_real twoReal oneReal,
        if_pos beyond, if_neg (by omega)]
    · rw [if_neg above, if_neg beyond, max_of_real real twoReal, max_of_real real oneReal,
        if_neg beyond, if_neg above]

theorem isNaN_of_div (real : (first / second).isNaN = false) : second.isNaN = false := by
  change (Binary32.div first second).isNaN = false at real
  cases divisor : second.isNaN with
  | false => rfl
  | true =>
    simp only [Binary32.div, divisor, Bool.or_true, if_true] at real
    exact real

theorem signedUnits_nonneg (unsigned : number.signBit = false) : 0 ≤ number.signedUnits := by
  rw [signedUnits, unsigned, if_neg Bool.false_ne_true]
  exact Int.natCast_nonneg _

theorem signBit_mul_self (number : Binary32) : (number * number).signBit = false := by
  change (Binary32.mul number number).signBit = false
  unfold Binary32.mul
  simp only [bne_self_eq_false]
  split
  · rfl
  split
  · split
    · rfl
    · rfl
  · exact signBit_ofUnits _ _ _

theorem signBit_add (one : first.signBit = false) (two : second.signBit = false) :
    (first + second).signBit = false := by
  change (Binary32.add first second).signBit = false
  have sum : ¬ first.signedUnits + second.signedUnits < 0 := by
    have := signedUnits_nonneg one
    have := signedUnits_nonneg two
    omega
  unfold Binary32.add
  split
  · rfl
  split
  · split
    · rfl
    · exact one
  split
  · exact two
  · simp only [one, two, sum, Bool.and_self, decide_false, ite_self, signBit_ofUnits]

theorem signBit_sqrt (unsigned : number.signBit = false) : number.sqrt.signBit = false := by
  unfold sqrt
  split
  · exact unsigned
  split
  · rfl
  split
  · exact unsigned
  · exact signBit_ofUnits _ _ _

end Binary32

theorem Vec3.signBit_distanceTo (first second : Vec3) :
    (first.distanceTo second).signBit = false := by
  have squares (vector : Vec3) : vector.lengthSq.signBit = false :=
    Binary32.signBit_add
      (Binary32.signBit_add (Binary32.signBit_mul_self _) (Binary32.signBit_mul_self _))
      (Binary32.signBit_mul_self _)
  exact Binary32.signBit_sqrt (squares _)

namespace Random

variable (random : Random)

/-- A fraction of 24 bits does not exceed the largest number below one. -/
theorem nearestPattern_lt {numerator : Nat} (bound : numerator < 2 ^ (24 : Nat)) :
    Binary32.nearestPattern (numerator * 2 ^ Binary32.unitPlaces) (2 ^ (24 : Nat)) <
      0x3f800000 := by
  have last : Binary32.unitsOfPattern 0x3f7fffff = (2 ^ 24 - 1) * 2 ^ 125 := by decide
  have scale : (2 : Nat) ^ Binary32.unitPlaces = 2 ^ 24 * 2 ^ 125 := by decide
  refine Nat.lt_succ_of_le (Binary32.nearestPattern_le (by decide) ?_)
  rw [last, scale, Nat.mul_left_comm]
  exact Nat.mul_le_mul_left _ (Nat.mul_le_mul_right _ (Nat.le_pred_of_lt bound))

/-- The place of a draw in the order: not below that of zero, and below that of one. -/
theorem rank_unit : random.unit.1.isNaN = false ∧ 0 ≤ random.unit.1.rank ∧
    random.unit.1.rank < 0x3f800000 := by
  let numerator := random.word.1.toNat / 2 ^ 8
  have drawn : random.unit.1 = Binary32.ofFraction false numerator (2 ^ 24) := rfl
  have bound : numerator < 2 ^ 24 := by
    have := random.word.1.toNat_lt
    omega
  have small := nearestPattern_lt bound
  have pattern : random.unit.1.pattern < 0x3f800000 := by
    rw [drawn, Binary32.ofFraction, Binary32.ofUnits, Binary32.pattern_ofPattern _ (by omega)]
    exact small
  have unsigned : random.unit.1.signBit = false := by
    rw [drawn]
    exact Binary32.signBit_ofUnits _ _ _
  rw [Binary32.rank_of_signBit unsigned, Binary32.isNaN, Binary32.infinityPattern,
    decide_eq_false_iff_not]
  omega

/-- A draw is not less than a chance of zero. -/
theorem not_unit_lt {chance : Binary32} (never : chance.numEq 0 = true) :
    ¬ random.unit.1 < chance := by
  obtain ⟨-, least, -⟩ := random.rank_unit
  have zero : chance.rank = 0 := (Binary32.numEq_iff.mp never).2.2
  intro less
  have := (Binary32.lt_iff.mp less).2.2
  omega

theorem unit_lt {chance : Binary32} (sure : 1 ≤ chance) : random.unit.1 < chance := by
  obtain ⟨real, -, below⟩ := random.rank_unit
  obtain ⟨-, chanceReal, above⟩ := Binary32.le_iff.mp sure
  have one : (1 : Binary32).rank = 0x3f800000 := by decide +kernel
  exact Binary32.lt_iff.mpr ⟨real, chanceReal, by omega⟩

section Attempts

variable {α : Type} {attempt : Random → Option α × Random} {random : Random}

/-- One of so many attempts is accepted. -/
def accepts (attempt : Random → Option α × Random) : Nat → Random → Bool
  | 0, _ => false
  | attempts + 1, random =>
    (attempt random).1.isSome || accepts attempt attempts (attempt random).2

/-- A draw of which an attempt is accepted depends neither on what it would have settled for
nor on the number of attempts that it was left: it is what would come of attempting on and
on. -/
theorem untilAccepted_of_accepts {attempts more : Nat}
    (accepted : accepts attempt attempts random = true) (enough : attempts ≤ more)
    (resort other : α) :
    untilAccepted resort attempt more random = untilAccepted other attempt attempts random := by
  induction attempts generalizing random more with
  | zero => cases accepted
  | succ attempts ih =>
    obtain ⟨more, rfl⟩ := Nat.exists_eq_succ_of_ne_zero (Nat.ne_zero_of_lt enough)
    rw [accepts] at accepted
    rw [untilAccepted, untilAccepted]
    generalize attempt random = drawn at accepted ⊢
    obtain ⟨_ | answer, random⟩ := drawn
    · exact ih accepted (Nat.le_of_succ_le_succ enough)
    · rfl

end Attempts

/-- A number that is drawn below a count lies below it, even if every attempt has failed. -/
theorem below_lt {width count : Nat} {draw : Random → Nat × Random}
    (fits : ∀ random, (draw random).1 < 2 ^ width) (positive : 0 < count) (attempts : Nat)
    (random : Random) :
    (untilAccepted 0 (tryBelow width count draw) attempts random).1 < count := by
  induction attempts generalizing random with
  | zero => exact positive
  | succ attempts ih =>
    rw [untilAccepted]
    split
    · next answer _ accepted =>
      have drawn := congrArg Prod.fst accepted
      simp only [tryBelow, Option.ite_none_right_eq_some, Option.some.injEq] at drawn
      rw [← drawn.2, Nat.div_lt_iff_lt_mul (Nat.two_pow_pos width), Nat.mul_comm count]
      exact Nat.mul_lt_mul_of_pos_right (fits random) positive
    · exact ih _

theorem below32_lt {count : Nat} (positive : 0 < count) (attempts : Nat) (random : Random) :
    (random.below32 attempts count).1 < count :=
  below_lt (fun random => random.word.1.toNat_lt) positive attempts random

theorem below64_lt {count : Nat} (positive : 0 < count) (attempts : Nat) (random : Random) :
    (random.below64 attempts count).1 < count :=
  below_lt (fun random => random.doubleWord.1.toNat_lt) positive attempts random

end Random

end AvatarRelay
