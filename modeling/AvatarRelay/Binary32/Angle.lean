/-
# Angles in radians

Sine, cosine and the angle of a direction, each worked out in fixed point with
many more places than a single-precision number has and rounded at the end. All
series run for a fixed number of terms, past the last one that can still change a
place.
-/

import AvatarRelay.Binary32.Arithmetic

namespace AvatarRelay.Binary32

-- Powers are those of the core library, whatever other instances are in scope.
attribute [local instance (2000)] instPowNat

/-- Places of the fixed-point numbers that the series work on. -/
def workingPlaces : Nat := 192

/-- Places of the circle constant: an angle of up to `2 ^ 128` radians loses as
many of them to its whole turns, and the working places have to remain. -/
def circlePlaces : Nat := 320

/-- Places that the series of the circle constant are summed with beyond those kept. -/
def sparePlaces : Nat := 32

/-- The alternating sum of the reciprocal powers in the series of the arc tangent
of `1 / inverse`, in fixed point: `power` holds `1 / inverse ^ index`. -/
def inverseArcTangent (inverse : Nat) : Nat → Nat → Nat → Int
  | 0, _, _ => 0
  | terms + 1, index, power =>
    (power / index : Nat) - inverseArcTangent inverse terms (index + 2) (power / inverse ^ (2 : Nat))

/-- Half a turn in fixed point with the circle's places, by four times the arc
tangent of one fifth less that of one part in 239; the spare places are dropped. -/
def halfTurn : Nat :=
  let unit := 2 ^ (circlePlaces + sparePlaces)
  let fifth := inverseArcTangent 5 160 1 (unit / 5)
  let small := inverseArcTangent 239 60 1 (unit / 239)
  (16 * fifth - 4 * small).toNat / 2 ^ sparePlaces

def workingHalfTurn : Nat :=
  halfTurn / 2 ^ (circlePlaces - workingPlaces)

/-- The alternating series whose terms are multiplied by the square of the angle
over the next two whole numbers: the cosine from the term one at index zero, the
sine from the angle itself at index one. -/
def circularSeries (square : Nat) : Nat → Nat → Nat → Int
  | 0, _, _ => 0
  | terms + 1, index, term =>
    term - circularSeries square terms (index + 2)
      (term * square / 2 ^ workingPlaces / ((index + 1) * (index + 2)))

/-- Sine and cosine in fixed point of an angle of at most a quarter turn. -/
def quarterSinCos (angle : Nat) : Int × Int :=
  let square := angle * angle / 2 ^ workingPlaces
  (circularSeries square 40 1 angle, circularSeries square 40 0 (2 ^ workingPlaces))

/-- The series of the arc tangent of a slope of at most one. Each term is the one
before it times `2 n / (2 n + 1)` and times `ratio`, the square of the sine. -/
def arcSeries (ratio : Nat) : Nat → Nat → Nat → Nat
  | 0, _, _ => 0
  | terms + 1, index, term =>
    term + arcSeries ratio terms (index + 1)
      (term * (2 * index) / (2 * index + 1) * ratio / 2 ^ workingPlaces)

/-- The arc tangent in fixed point of a slope of at most one. -/
def arcTangent (slope : Nat) : Nat :=
  let unit := 2 ^ workingPlaces
  let square := slope * slope / unit
  arcSeries (square * unit / (unit + square)) 200 1 (slope * unit / (unit + square))

/-- The number nearest to a fixed-point value; a zero is positive. -/
def ofWorking (value : Int) : Binary32 :=
  ofUnits (value < 0) value.natAbs (2 ^ (workingPlaces - unitPlaces))

/-- Sine and cosine. The sine of a zero is that zero; infinite angles have neither. -/
def sinCos (angle : Binary32) : Binary32 × Binary32 :=
  if !angle.isFinite then (nan, nan)
  else if angle.isZero then (angle, 1)
  else
    let whole := angle.units * 2 ^ (circlePlaces - unitPlaces)
    let quarter := halfTurn / 2
    let (sine, cosine) := quarterSinCos (whole % quarter / 2 ^ (circlePlaces - workingPlaces))
    let (sine, cosine) :=
      match whole / quarter % 4 with
      | 0 => (sine, cosine)
      | 1 => (cosine, -sine)
      | 2 => (-sine, -cosine)
      | _ => (-cosine, sine)
    (ofWorking (if angle.signBit then -sine else sine), ofWorking cosine)

def sin (angle : Binary32) : Binary32 := angle.sinCos.1

def cos (angle : Binary32) : Binary32 := angle.sinCos.2

/-- The angle of the direction whose coordinates are `across` and `along`, from
minus half a turn to half a turn, with the sign of `across`. Beside an infinite
coordinate a finite one counts as zero. -/
def direction (across along : Binary32) : Binary32 :=
  if across.isNaN || along.isNaN then nan
  else
    let opposite := if along.isInfinite && !across.isInfinite then 0 else across.units
    let adjacent := if across.isInfinite && !along.isInfinite then 0 else along.units
    let slope := min opposite adjacent * 2 ^ workingPlaces / max opposite adjacent
    let steep := if opposite ≤ adjacent then arcTangent slope
      else workingHalfTurn / 2 - arcTangent slope
    let angle := if along.signBit then workingHalfTurn - steep else steep
    ofUnits across.signBit angle (2 ^ (workingPlaces - unitPlaces))

end AvatarRelay.Binary32
