/-
# Axis-aligned boxes

A box is its smallest corner and its extent along each axis. Growing a box keeps
its center, which is worked out from corner and extent before either changes.
-/

import AvatarRelay.Geometry.Vec3

namespace AvatarRelay

structure Box where
  corner : Vec3
  extent : Vec3
  deriving DecidableEq, Inhabited, Repr

namespace Box

/-- The box between a corner and the point that lies a given extent away. Negative
extents reach backwards, so the smaller coordinates become the corner. -/
def spanning (corner extent : Vec3) : Box :=
  ⟨corner.min (corner + extent), extent.abs⟩

def around (center halfExtent : Vec3) : Box :=
  ⟨center - halfExtent.abs, halfExtent.abs * (2 : Binary32)⟩

def center (box : Box) : Vec3 :=
  box.corner + box.extent * (0.5 : Binary32)

def farCorner (box : Box) : Vec3 :=
  box.corner + box.extent

def withExtent (box : Box) (extent : Vec3) : Box :=
  ⟨box.center - extent * (0.5 : Binary32), extent⟩

def growToAtLeast (box : Box) (minimum : Vec3) : Box :=
  box.withExtent (box.extent.max minimum)

/-- Scales the box about its center. -/
def inflate (box : Box) (factor : Binary32) : Box :=
  box.withExtent (box.extent * factor)

/-- The boxes overlap or share a face: along every axis neither begins beyond the
end of the other. -/
def touches (first second : Box) : Bool :=
  Vec3.all₂ (fun start finish => start ≤ finish) first.corner second.farCorner &&
    Vec3.all₂ (fun start finish => start ≤ finish) second.corner first.farCorner

def numEq (first second : Box) : Bool :=
  first.corner.numEq second.corner && first.extent.numEq second.extent

end Box

end AvatarRelay
