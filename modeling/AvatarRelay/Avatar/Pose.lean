/-
# Poses and updates

A pose is what the owning client reports about its avatar. An update is what other
clients are sent: the same placement, and either every joint or only those that
changed, each with its index.
-/

import AvatarRelay.Geometry.Vec3
import AvatarRelay.Geometry.Quat
import AvatarRelay.Wire.Format

namespace AvatarRelay

structure Joint where
  rotation : Quat
  offset : Vec3
  deriving DecidableEq, Inhabited, Repr

namespace Joint

/-- Equality of numbers in rotation and offset. A joint with a NaN differs
from every joint, itself included. -/
def numEq (first second : Joint) : Bool :=
  first.rotation.numEq second.rotation && first.offset.numEq second.offset

end Joint

/-- A pose as reported by the owning client. -/
structure Pose where
  position : Vec3
  orientation : Quat
  scale : Binary32
  /-- Smallest corner of the avatar's bounding box in space, if it was sent. -/
  corner : Option Vec3
  joints : List Joint
  deriving DecidableEq, Repr

/-- The pose of an avatar that has reported nothing: upright at the origin in its
natural size. -/
instance : Inhabited Pose := ⟨⟨Vec3.zero, Quat.identity, 1, none, []⟩⟩

/-- What other clients are sent about one avatar. -/
structure Update where
  position : Vec3
  orientation : Quat
  scale : Binary32
  /-- Every joint is present. Otherwise only changed ones are. -/
  full : Bool
  jointCount : UInt16
  /-- Joints with their indexes in the pose. -/
  joints : List (UInt16 × Joint)
  deriving DecidableEq, Repr

namespace Vec3

def format : Format Vec3 :=
  (Format.binary32.pair (Format.binary32.pair Format.binary32)).map
    (fun (x, y, z) => ⟨x, y, z⟩) (fun vector => (vector.x, vector.y, vector.z))

end Vec3

namespace Quat

/-- The four components in order, the real part last. -/
def format : Format Quat :=
  (Format.binary32.pair (Format.binary32.pair (Format.binary32.pair Format.binary32))).map
    (fun (x, y, z, w) => ⟨x, y, z, w⟩)
    (fun rotation => (rotation.x, rotation.y, rotation.z, rotation.w))

end Quat

namespace Joint

def format : Format Joint :=
  (Quat.format.pair Vec3.format).map
    (fun (rotation, offset) => ⟨rotation, offset⟩)
    (fun joint => (joint.rotation, joint.offset))

end Joint

namespace Pose

def format : Format Pose :=
  (Vec3.format.pair (Quat.format.pair (Format.binary32.pair
    (Vec3.format.option.pair Joint.format.list)))).map
    (fun (position, orientation, scale, corner, joints) =>
      ⟨position, orientation, scale, corner, joints⟩)
    (fun pose => (pose.position, pose.orientation, pose.scale, pose.corner, pose.joints))

end Pose

namespace Update

def format : Format Update :=
  (Vec3.format.pair (Quat.format.pair (Format.binary32.pair (Format.bool.pair
    (Format.word16.pair (Format.word16.pair Joint.format).list))))).map
    (fun (position, orientation, scale, full, jointCount, joints) =>
      ⟨position, orientation, scale, full, jointCount, joints⟩)
    (fun update => (update.position, update.orientation, update.scale, update.full,
      update.jointCount, update.joints))

end Update

end AvatarRelay
