/-
# The relay's copy of an avatar

The latest accepted pose, the identity, and the joints as they stood when every
receiver had last been served. An update carries either every joint or those that
differ from that snapshot.
-/

import AvatarRelay.Avatar.Identity
import AvatarRelay.Avatar.Pose

namespace AvatarRelay

/-- The limits that a domain sets on the scale of its avatars. -/
structure ScaleBounds where
  low : Binary32
  high : Binary32
  deriving DecidableEq, Repr

namespace ScaleBounds

def smallest : Binary32 := 0.005

def greatest : Binary32 := 1000

def widest : ScaleBounds := ⟨smallest, greatest⟩

instance : Inhabited ScaleBounds := ⟨widest⟩

def clamp (bounds : ScaleBounds) (scale : Binary32) : Binary32 :=
  scale.clamp bounds.low bounds.high

end ScaleBounds

/-- The most joints that a pose may have; indexes and counts travel in two bytes. -/
def maxJoints : Nat := 65535

/-- What the relay keeps of one avatar. -/
structure Avatar where
  pose : Pose
  /-- The joints at the end of the last pass. -/
  sentJoints : Array Joint
  identity : Option Identity
  bounds : ScaleBounds
  deriving DecidableEq, Repr

namespace Avatar

def new (bounds : ScaleBounds) : Avatar where
  pose := default
  sentJoints := #[]
  identity := none
  bounds := bounds

def position (avatar : Avatar) : Vec3 := avatar.pose.position

/-- A pose with everything put right that may be: a corner that is not finite is
dropped, the scale is brought within the bounds, and a scale that is not finite
counts as the natural size. -/
def sanitize (bounds : ScaleBounds) (pose : Pose) : Pose :=
  { pose with
    corner := pose.corner.filter Vec3.isFinite
    scale := bounds.clamp (if pose.scale.isFinite then pose.scale else 1) }

/-- A pose that must be refused: its position is not finite or it has too many
joints. -/
def refuses (pose : Pose) : Bool :=
  !pose.position.isFinite || maxJoints < pose.joints.length

/-- Takes over a pose, or `none` if it must be refused. -/
def applyPose? (avatar : Avatar) (pose : Pose) : Option Avatar :=
  if refuses pose then none
  else some { avatar with pose := sanitize avatar.bounds pose }

/-- The snapshot lacks this joint or has another one in its place. -/
def jointChanged (avatar : Avatar) (index : Nat) (joint : Joint) : Bool :=
  match avatar.sentJoints[index]? with
  | some sent => !sent.numEq joint
  | none => true

/-- The update that describes the avatar now, with every joint or with those that
differ from the snapshot. -/
def update (avatar : Avatar) (full : Bool) : Update where
  position := avatar.pose.position
  orientation := avatar.pose.orientation
  scale := avatar.pose.scale
  full := full
  jointCount := UInt16.ofNat avatar.pose.joints.length
  joints := avatar.pose.joints.zipIdx.filterMap fun (joint, index) =>
    if full || avatar.jointChanged index joint then some (UInt16.ofNat index, joint) else none

def encodeUpdate (avatar : Avatar) (full : Bool) : Bytes :=
  Update.format.write (avatar.update full)

/-- Takes the snapshot that later updates are compared with. -/
def snapshotJoints (avatar : Avatar) : Avatar :=
  { avatar with sentJoints := avatar.pose.joints.toArray }

/-- Takes over an identity, or `none` if it is the one already held. -/
def applyIdentity? (avatar : Avatar) (identity : Identity) : Option Avatar :=
  if avatar.identity = some identity then none
  else some { avatar with identity := some identity }

end Avatar

end AvatarRelay
