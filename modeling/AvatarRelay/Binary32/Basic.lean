/-
# Single-precision numbers as exact bit patterns

A `Binary32` is a 32-bit word read as a single-precision number: sign, eight
exponent bits, twenty-three fraction bits. Poses travel as such words and must
come back bit for bit, so every pattern is a value of its own: both zeros and
each of the many NaN patterns. The `Float32` of the core library identifies all
NaN patterns, which is why positions are not stored in it.

Every finite number is a whole multiple of `2 ^ -149`, its *unit*. The pattern
without its sign, read as a natural number, grows with the magnitude it denotes,
so ordering patterns orders magnitudes, and rounding is one division on naturals.
-/

namespace AvatarRelay

/-- A single-precision number, stored as its bit pattern. Propositional equality
is equality of patterns; for equality of numbers see `Binary32.numEq`. -/
structure Binary32 where
  bits : UInt32
  deriving DecidableEq, Inhabited, Repr

namespace Binary32

-- Powers are those of the core library, whatever other instances are in scope.
attribute [local instance (2000)] instPowNat

/-- Binary places of one unit: finite numbers are multiples of `2 ^ -149`. -/
def unitPlaces : Nat := 149

def fractionPlaces : Nat := 23

/-- The pattern of infinity without its sign; larger ones are NaN patterns. -/
def infinityPattern : Nat := 0x7f800000

/-- The sign bit is set. Negative zero and negated NaN patterns count. -/
def signBit (number : Binary32) : Bool :=
  0x80000000 ≤ number.bits.toNat

def pattern (number : Binary32) : Nat :=
  number.bits.toNat % 0x80000000

def ofPattern (negative : Bool) (pattern : Nat) : Binary32 :=
  ⟨UInt32.ofNat (pattern % 0x80000000 + if negative then 0x80000000 else 0)⟩

/-- Not a number: every exponent bit and some fraction bit is set. -/
def isNaN (number : Binary32) : Bool :=
  infinityPattern < number.pattern

def isInfinite (number : Binary32) : Bool :=
  number.pattern = infinityPattern

def isFinite (number : Binary32) : Bool :=
  number.pattern < infinityPattern

def isZero (number : Binary32) : Bool :=
  number.pattern = 0

/-- The magnitude of an unsigned pattern in units. Below `2 ^ 23` a pattern is its
own magnitude; above, its fraction gains the implicit leading bit and is scaled
by the exponent. -/
def unitsOfPattern (pattern : Nat) : Nat :=
  if pattern < 2 ^ fractionPlaces then pattern
  else
    (2 ^ fractionPlaces + pattern % 2 ^ fractionPlaces) *
      2 ^ (pattern / 2 ^ fractionPlaces - 1)

def units (number : Binary32) : Nat :=
  unitsOfPattern number.pattern

def signedUnits (number : Binary32) : Int :=
  if number.signBit then -(number.units : Int) else number.units

/-! ## Rounding -/

/-- The natural number nearest to `numerator / denominator`; a tie goes to the
even neighbour. -/
def roundDiv (numerator denominator : Nat) : Nat :=
  let quotient := numerator / denominator
  let remainder := numerator % denominator
  if denominator < 2 * remainder then quotient + 1
  else if 2 * remainder = denominator then quotient + quotient % 2
  else quotient

/-- The unsigned pattern nearest to `numerator / denominator` units. The step of
the grid doubles with each binade, and since a carry out of the fraction lands in
the exponent, pattern and rounded significand simply add up. Whatever exceeds the
finite patterns is infinity. -/
def nearestPattern (numerator denominator : Nat) : Nat :=
  let binade := (numerator / denominator).log2 - fractionPlaces
  let significand := roundDiv numerator (denominator * 2 ^ binade)
  min (binade * 2 ^ fractionPlaces + significand) infinityPattern

def ofUnits (negative : Bool) (numerator denominator : Nat) : Binary32 :=
  ofPattern negative (nearestPattern numerator denominator)

def ofFraction (negative : Bool) (numerator denominator : Nat) : Binary32 :=
  ofUnits negative (numerator * 2 ^ unitPlaces) denominator

def ofNat (value : Nat) : Binary32 :=
  ofFraction false value 1

/-- The number nearest to `mantissa * 10 ^ exponent`. Past sixty decimal places
on either side of the leading digit the answer is infinity or zero, and no power
of ten is computed for it. -/
def ofDecimal (negative : Bool) (mantissa : Nat) (exponent : Int) : Binary32 :=
  let leading : Int := exponent + (Nat.toDigits 10 mantissa).length
  if mantissa = 0 || leading < -60 then ofPattern negative 0
  else if 60 < leading then ofPattern negative infinityPattern
  else if 0 ≤ exponent then ofFraction negative (mantissa * 10 ^ exponent.toNat) 1
  else ofFraction negative mantissa (10 ^ (-exponent).toNat)

instance (value : Nat) : OfNat Binary32 value :=
  ⟨ofNat value⟩

/-- Decimal literals denote the nearest number. -/
instance : OfScientific Binary32 where
  ofScientific mantissa negativeExponent exponent :=
    ofDecimal false mantissa (if negativeExponent then -(exponent : Int) else exponent)

def nan : Binary32 := ⟨0x7fc00000⟩

def infinity : Binary32 := ⟨0x7f800000⟩

def largest : Binary32 := ⟨0x7f7fffff⟩

end Binary32

end AvatarRelay
