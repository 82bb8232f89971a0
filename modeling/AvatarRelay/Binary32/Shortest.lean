/-
# The shortest decimal that reads back

A decimal reads back as a number exactly when it lies between the midpoints to the
number's two neighbours; the midpoints themselves count when the pattern is even,
because ties go to even patterns. Fewer digits mean a coarser decimal grid, so the
shortest decimal is found on the coarsest grid with a point in that interval. Of
two such points the nearer one is taken, and a tie rule decides between points that
are equally near.
-/

import AvatarRelay.Binary32.Basic

namespace AvatarRelay.Binary32

-- Powers are those of the core library, whatever other instances are in scope.
attribute [local instance (2000)] instPowNat

/-- A positive decimal `digits * 10 ^ exponent`. -/
structure Decimal where
  digits : Nat
  exponent : Int
  deriving DecidableEq, Repr

/-- Which of two equally near points of a grid is taken. -/
inductive TieRule
  /-- The point of larger magnitude. -/
  | away
  /-- The point with an even last digit. -/
  | even
  deriving DecidableEq, Repr

/-- Twice the units of the lower midpoint: the sum of the two magnitudes. -/
def lowerMidpoint (pattern : Nat) : Nat :=
  unitsOfPattern (pattern - 1) + unitsOfPattern pattern

def upperMidpoint (pattern : Nat) : Nat :=
  unitsOfPattern pattern + unitsOfPattern (pattern + 1)

/-- The decimal rounds to the number with this pattern. Both sides are scaled by
`2 ^ 150` and, for negative exponents, by the power of ten. -/
def readsBack (pattern : Nat) (decimal : Decimal) : Bool :=
  let point := decimal.digits * 10 ^ decimal.exponent.toNat * 2 ^ (unitPlaces + 1)
  let scale := 10 ^ (-decimal.exponent).toNat
  let low := lowerMidpoint pattern * scale
  let high := upperMidpoint pattern * scale
  if pattern % 2 = 0 then low ≤ point && point ≤ high
  else low < point && point < high

/-- Of a grid point and the next, the next one is to be taken: the magnitude lies
above their middle, or in the middle and the rule says so. -/
def takesNext (ties : TieRule) (pattern : Nat) (decimal : Decimal) : Bool :=
  let middle := (2 * decimal.digits + 1) * 10 ^ decimal.exponent.toNat * 2 ^ unitPlaces
  let magnitude := 2 * unitsOfPattern pattern * 10 ^ (-decimal.exponent).toNat
  if magnitude = middle then
    match ties with
    | .away => true
    | .even => decimal.digits % 2 = 1
  else middle < magnitude

/-- The point of the grid `10 ^ exponent` nearest to the magnitude among those
that read back, if there is one. Only the two neighbours can be. -/
def gridPoint? (ties : TieRule) (pattern : Nat) (exponent : Int) : Option Decimal :=
  let digits := unitsOfPattern pattern * 10 ^ (-exponent).toNat
    / (10 ^ exponent.toNat * 2 ^ unitPlaces)
  let lower : Decimal := ⟨digits, exponent⟩
  let upper : Decimal := ⟨digits + 1, exponent⟩
  match readsBack pattern lower, readsBack pattern upper with
  | true, true => some (if takesNext ties pattern lower then upper else lower)
  | true, false => some lower
  | false, true => some upper
  | false, false => none

def coarsestExponent : Int := 39

/-- The shortest decimal of a positive finite magnitude. Grids are tried from the
coarsest down; at `10 ^ -45`, finer than the smallest gap, one always has a point. -/
def shortest (ties : TieRule) (pattern : Nat) : Decimal :=
  let grids := (List.range 85).map fun (step : Nat) => coarsestExponent - step
  (grids.findSome? (gridPoint? ties pattern)).getD ⟨0, 0⟩

end AvatarRelay.Binary32
