/-
# Arithmetic and order of single-precision numbers

Each operation computes its exact result in units and rounds it once, to nearest
with ties to even. The special cases are those of the standard for floating-point
arithmetic. Comparisons follow the same standard: a NaN is unordered, and the two
zeros are one number.
-/

import AvatarRelay.Binary32.Basic

namespace AvatarRelay.Binary32

-- Powers are those of the core library, whatever other instances are in scope.
attribute [local instance (2000)] instPowNat

/-- Signed patterns order all numbers but NaN, and give both zeros one place. -/
def rank (number : Binary32) : Int :=
  if number.signBit then -(number.pattern : Int) else number.pattern

/-- Neither operand is a NaN. -/
def ordered (first second : Binary32) : Bool :=
  !first.isNaN && !second.isNaN

/-- Equality of numbers: the zeros are equal and a NaN equals nothing. -/
def numEq (first second : Binary32) : Bool :=
  ordered first second && first.rank = second.rank

instance : LT Binary32 where
  lt first second := ordered first second ∧ first.rank < second.rank

instance : LE Binary32 where
  le first second := ordered first second ∧ first.rank ≤ second.rank

instance (first second : Binary32) : Decidable (first < second) :=
  inferInstanceAs (Decidable (_ ∧ _))

instance (first second : Binary32) : Decidable (first ≤ second) :=
  inferInstanceAs (Decidable (_ ∧ _))

/-- The larger operand; a NaN operand gives way to the other one. -/
protected def max (first second : Binary32) : Binary32 :=
  if first.isNaN then second
  else if first < second then second
  else first

protected def min (first second : Binary32) : Binary32 :=
  if first.isNaN then second
  else if second < first then second
  else first

/-- The number brought into `[low, high]`. A NaN stays a NaN. -/
def clamp (number low high : Binary32) : Binary32 :=
  if number < low then low
  else if high < number then high
  else number

protected def neg (number : Binary32) : Binary32 :=
  ofPattern (!number.signBit) number.pattern

instance : Neg Binary32 := ⟨Binary32.neg⟩

def abs (number : Binary32) : Binary32 :=
  ofPattern false number.pattern

/-- The sum, rounded once. A zero sum is negative only when both operands are. -/
protected def add (first second : Binary32) : Binary32 :=
  if first.isNaN || second.isNaN then nan
  else if first.isInfinite then
    if second.isInfinite && first.signBit != second.signBit then nan else first
  else if second.isInfinite then second
  else
    let sum := first.signedUnits + second.signedUnits
    ofUnits (if sum = 0 then first.signBit && second.signBit else sum < 0) sum.natAbs 1

protected def sub (first second : Binary32) : Binary32 :=
  Binary32.add first (Binary32.neg second)

/-- The product, rounded once. Infinity times zero is a NaN. -/
protected def mul (first second : Binary32) : Binary32 :=
  let negative := first.signBit != second.signBit
  if first.isNaN || second.isNaN then nan
  else if first.isInfinite || second.isInfinite then
    if first.isZero || second.isZero then nan else ofPattern negative infinityPattern
  else ofUnits negative (first.units * second.units) (2 ^ unitPlaces)

/-- The quotient, rounded once. Zero over zero and infinity over infinity are NaN. -/
protected def div (first second : Binary32) : Binary32 :=
  let negative := first.signBit != second.signBit
  if first.isNaN || second.isNaN then nan
  else if first.isInfinite then
    if second.isInfinite then nan else ofPattern negative infinityPattern
  else if second.isInfinite then ofPattern negative 0
  else if second.isZero then
    if first.isZero then nan else ofPattern negative infinityPattern
  else ofUnits negative (first.units * 2 ^ unitPlaces) second.units

instance : Add Binary32 := ⟨Binary32.add⟩
instance : Sub Binary32 := ⟨Binary32.sub⟩
instance : Mul Binary32 := ⟨Binary32.mul⟩
instance : Div Binary32 := ⟨Binary32.div⟩

/-- Bits of a square root, from the highest place down: a bit is kept when the
square stays within the radicand. -/
def rootBits (radicand : Nat) : Nat → Nat → Nat
  | 0, root => root
  | place + 1, root =>
    let candidate := root + 2 ^ place
    rootBits radicand place (if candidate * candidate ≤ radicand then candidate else root)

/-- The largest natural number whose square is at most the radicand. -/
def floorRoot (radicand : Nat) : Nat :=
  rootBits radicand (radicand.log2 / 2 + 1) 0

/-- The square root, rounded once. In units the radicand has at least 150 bits, so
the integer root has more than enough places, and what it leaves over only has to
keep it off a tie: half a place stands for any remainder. -/
def sqrt (number : Binary32) : Binary32 :=
  if number.isNaN || number.isZero then number
  else if number.signBit then nan
  else if number.isInfinite then number
  else
    let radicand := number.units * 2 ^ unitPlaces
    let root := floorRoot radicand
    ofUnits false (2 * root + if root * root = radicand then 0 else 1) 2

/-- The integral part of a non-negative number; zero for negative ones and NaN.
Infinity has no integral part and gives zero as well. -/
def floorNat (number : Binary32) : Nat :=
  if number.signBit || !number.isFinite then 0
  else number.units / 2 ^ unitPlaces

/-- The magnitude rounded to a whole number, halves away from zero. Zero if the
number is not finite. -/
def roundMagnitude (number : Binary32) : Nat :=
  if number.isFinite then
    (2 * number.units + 2 ^ unitPlaces) / 2 ^ (unitPlaces + 1)
  else 0

/-- The natural number nearest to a non-negative number, halves upwards; zero for
negative ones and for what is not finite. -/
def roundNat (number : Binary32) : Nat :=
  if number.signBit then 0 else number.roundMagnitude

/-- The integer nearest to `factor` times the number, halves away from zero, or
`none` if the number is not finite. The product is exact. -/
def roundScaled? (factor : Nat) (number : Binary32) : Option Int :=
  if number.isFinite then
    let magnitude := (2 * factor * number.units + 2 ^ unitPlaces) / 2 ^ (unitPlaces + 1)
    some (if number.signBit then -(magnitude : Int) else magnitude)
  else none

end AvatarRelay.Binary32
