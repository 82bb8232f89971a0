/-
# Fractions in double precision

Probabilities of chance events and the length of a tick are double-precision
numbers. Only fractions between zero and one occur, so a number is kept as the
exact fraction it denotes: a significand over a power of two.
-/

import AvatarRelay.Binary32.Basic

namespace AvatarRelay

/-- The fraction `significand / 2 ^ places`. -/
structure BinaryFraction where
  significand : Nat
  places : Nat
  deriving DecidableEq, Repr

namespace BinaryFraction

-- Powers are those of the core library, whatever other instances are in scope.
attribute [local instance (2000)] instPowNat

def zero : BinaryFraction := ⟨0, 0⟩

def one : BinaryFraction := ⟨1, 0⟩

def significandBits : Nat := 53

/-- A positive fraction of at most one, rounded to 53 significant bits; a tie goes
to the even significand. With `53 + log2 denominator - log2 numerator` places the
quotient has 53 or 54 bits, and in the second case one place less is kept. -/
def nearest (numerator denominator : Nat) : BinaryFraction :=
  let places := significandBits + denominator.log2 - numerator.log2
  let scaled := numerator * 2 ^ places
  if scaled / denominator < 2 ^ significandBits then
    ⟨Binary32.roundDiv scaled denominator, places⟩
  else ⟨Binary32.roundDiv scaled (2 * denominator), places - 1⟩

/-- A natural number rounded to 53 significant bits; a tie goes to the even one. -/
def roundWhole (value : Nat) : Nat :=
  let excess := value.log2 - (significandBits - 1)
  Binary32.roundDiv value (2 ^ excess) * 2 ^ excess

/-- The decimal fraction `digits / 10 ^ places`, worked out in double precision: both
whole numbers are rounded, and then their quotient. Long digits are so rounded twice,
and just below one that can give one. Whatever is larger counts as one. -/
def ofDecimal (digits places : Nat) : BinaryFraction :=
  let numerator := roundWhole digits
  let denominator := roundWhole (10 ^ places)
  if numerator = 0 then zero
  else if denominator ≤ numerator then one
  else nearest numerator denominator

def roundScaled (factor : Nat) (fraction : BinaryFraction) : Nat :=
  Binary32.roundDiv (factor * fraction.significand) (2 ^ fraction.places)

def floorScaled (factor : Nat) (fraction : BinaryFraction) : Nat :=
  factor * fraction.significand / 2 ^ fraction.places

end BinaryFraction

end AvatarRelay
