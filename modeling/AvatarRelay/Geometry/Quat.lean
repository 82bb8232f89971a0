/-
# Rotations

Orientations of avatars and of their joints, as unit quaternions.
-/

import AvatarRelay.Geometry.Vec3
import AvatarRelay.Binary32.Angle

namespace AvatarRelay

/-- A rotation; `w` is its real part. -/
structure Quat where
  x : Binary32
  y : Binary32
  z : Binary32
  w : Binary32
  deriving DecidableEq, Repr

namespace Quat

def identity : Quat := ⟨0, 0, 0, 1⟩

instance : Inhabited Quat := ⟨identity⟩

/-- The rotation about an axis by an angle in radians. An axis without a length
leaves only the real part. -/
def aboutAxis (axis : Vec3) (angle : Binary32) : Quat :=
  let unit := axis.normalize
  let (sine, cosine) := (angle * (0.5 : Binary32)).sinCos
  ⟨unit.x * sine, unit.y * sine, unit.z * sine, cosine⟩

/-- The inner product, summed from the left. -/
def dot (first second : Quat) : Binary32 :=
  first.x * second.x + first.y * second.y + first.z * second.z + first.w * second.w

def numEq (first second : Quat) : Bool :=
  first.x.numEq second.x && first.y.numEq second.y
    && first.z.numEq second.z && first.w.numEq second.w

end Quat

end AvatarRelay
