/-
# Personal space

An avatar may surround itself with a bubble. When either of two avatars has one
and their enlarged boxes touch, neither is sent the other. The test only reads the
two poses, so it gives the same answer from both sides.
-/

import AvatarRelay.Avatar.Basic
import AvatarRelay.Geometry.Box

namespace AvatarRelay

/-- How boxes are enlarged before they are compared. -/
structure Bubble where
  /-- The smallest box that an avatar takes up. -/
  minimum : Vec3
  /-- The factor by which boxes grow. -/
  expansion : Binary32
  deriving Repr

namespace Bubble

/-- About the room of a standing person, four times enlarged. -/
def standard : Bubble := ⟨⟨0.3, 1.3, 0.3⟩, 4⟩

instance : Inhabited Bubble := ⟨standard⟩

/-- The enlarged box of an avatar. The reported corner gives its half extent; an
avatar without one starts from its position alone. -/
def box (bubble : Bubble) (avatar : Avatar) : Box :=
  let corner := avatar.pose.corner.getD avatar.position
  ((Box.around avatar.position (avatar.position - corner)).growToAtLeast bubble.minimum).inflate
    bubble.expansion

def touch (bubble : Bubble) (first second : Avatar) : Bool :=
  (bubble.box first).touches (bubble.box second)

/-- One of the two has its bubble on, and their boxes touch. -/
def mutes (bubble : Bubble) (enabled : Bool) (receiver sender : Avatar) : Bool :=
  enabled && bubble.touch receiver sender

end Bubble

end AvatarRelay
