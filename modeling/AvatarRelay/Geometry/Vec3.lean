/-
# Vectors

Positions, extents and headings. Every component is computed on its own, and sums
over the components associate from the left: `x` and `y` are added first.
-/

import AvatarRelay.Binary32.Arithmetic

namespace AvatarRelay

/-- A vector in space, in meters. -/
structure Vec3 where
  x : Binary32
  y : Binary32
  z : Binary32
  deriving DecidableEq, Inhabited, Repr

namespace Vec3

def splat (component : Binary32) : Vec3 :=
  ⟨component, component, component⟩

def zero : Vec3 := splat 0

def up : Vec3 := ⟨0, 1, 0⟩

def map (operation : Binary32 → Binary32) (vector : Vec3) : Vec3 :=
  ⟨operation vector.x, operation vector.y, operation vector.z⟩

def zipWith (operation : Binary32 → Binary32 → Binary32) (first second : Vec3) : Vec3 :=
  ⟨operation first.x second.x, operation first.y second.y, operation first.z second.z⟩

def all₂ (relation : Binary32 → Binary32 → Bool) (first second : Vec3) : Bool :=
  relation first.x second.x && relation first.y second.y && relation first.z second.z

instance : Add Vec3 := ⟨zipWith (· + ·)⟩
instance : Sub Vec3 := ⟨zipWith (· - ·)⟩
instance : Neg Vec3 := ⟨map (- ·)⟩

def scale (vector : Vec3) (factor : Binary32) : Vec3 :=
  vector.map (· * factor)

instance : HMul Vec3 Binary32 Vec3 := ⟨scale⟩

protected def min : Vec3 → Vec3 → Vec3 := zipWith Binary32.min

protected def max : Vec3 → Vec3 → Vec3 := zipWith Binary32.max

def abs (vector : Vec3) : Vec3 := vector.map Binary32.abs

def dot (first second : Vec3) : Binary32 :=
  first.x * second.x + first.y * second.y + first.z * second.z

def lengthSq (vector : Vec3) : Binary32 :=
  vector.dot vector

def length (vector : Vec3) : Binary32 :=
  vector.lengthSq.sqrt

/-- The unit vector of the same direction, scaled by the reciprocal of the length;
the origin if the length is not positive. -/
def normalize (vector : Vec3) : Vec3 :=
  if 0 < vector.length then vector * (1 / vector.length) else zero

def distanceTo (first second : Vec3) : Binary32 :=
  (first - second).length

def distanceSqTo (first second : Vec3) : Binary32 :=
  (first - second).lengthSq

def isFinite (vector : Vec3) : Bool :=
  vector.x.isFinite && vector.y.isFinite && vector.z.isFinite

def numEq : Vec3 → Vec3 → Bool := all₂ Binary32.numEq

/-- Every component differs by less than a tolerance. -/
def approxEq (first second : Vec3) (tolerance : Binary32) : Bool :=
  all₂ (fun one other => (one - other).abs < tolerance) first second

end Vec3

end AvatarRelay
