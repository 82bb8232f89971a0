/-
# Control of the full rate distance

Senders within a receiver's full rate distance are always forwarded, those beyond
it with a chance of that distance over theirs. At most once in a given number of
passes the distance is rescaled, so that the measured rate moves to the middle of
the band between 80 and 100 percent of the budget. Aiming at the middle keeps a
correction from calling for the opposite one at once.
-/

import AvatarRelay.Client.Receiver
import AvatarRelay.Count

namespace AvatarRelay

/-- What became of a receiver's full rate distance. -/
inductive Adjustment
  /-- Over budget: shrunk to the given distance. -/
  | decreased (distance : Binary32)
  /-- Well under budget and limited by distance: grown to the given distance. -/
  | increased (distance : Binary32)
  | unchanged
  deriving DecidableEq, Repr

namespace Adjustment

def distance? : Adjustment → Option Binary32
  | decreased distance | increased distance => some distance
  | unchanged => none

end Adjustment

/-- Drives each receiver's full rate distance toward one budget. -/
structure RateController where
  /-- The budget in kilobits per second. -/
  targetKbps : Binary32
  /-- Passes that must go by between changes. -/
  passesBetweenChanges : UInt32
  deriving DecidableEq, Repr

namespace RateController

/-- Below this share of the budget a limited receiver may see farther. -/
def acceptableShare : Binary32 := 0.8

/-- The share of the budget that a rescaling aims for: half the band below it. -/
def middleShare : Binary32 := 1 - (1 - acceptableShare) * 0.5

def middleFactor (controller : RateController) (observedKbps : Binary32) : Binary32 :=
  controller.targetKbps * middleShare / observedKbps

/-- The change that an observed rate calls for. There is no point in shrinking
from beyond the farthest avatar, nor in growing past it; without any observed rate
the limit is lifted. -/
def adjust (controller : RateController) (observedKbps current farthest : Binary32) :
    Adjustment :=
  if controller.targetKbps < observedKbps then
    .decreased
      ((current.min farthest * controller.middleFactor observedKbps).max 0)
  else if current < farthest && observedKbps < controller.targetKbps * acceptableShare then
    if observedKbps ≤ 0 then .increased unboundedDistance
    else
      .increased
        ((current * controller.middleFactor observedKbps).clamp 0 unboundedDistance)
  else .unchanged

/-- One pass for one receiver: counts the pass, or adjusts the distance once enough
passes have gone by since it last changed. -/
def step (controller : RateController) (receiver : Receiver) (observedKbps : Binary32) :
    Receiver × Adjustment :=
  if receiver.passesSinceChange ≤ controller.passesBetweenChanges then
    ({ receiver with passesSinceChange := receiver.passesSinceChange + 1 }, .unchanged)
  else
    let adjustment :=
      controller.adjust observedKbps receiver.fullRateDistance receiver.farthest
    match adjustment.distance? with
    | some distance =>
      ({ receiver with fullRateDistance := distance, passesSinceChange := 0 }, adjustment)
    | none =>
      ({ receiver with passesSinceChange := countUp receiver.passesSinceChange }, adjustment)

end RateController

end AvatarRelay
