/-
# One candidate for one receiver

A receiver visits every candidate in turn. Each visit asks, in this order, whether
the two are kept apart, whether the candidate's data is in use, whether a bubble
silences it, whether its identity is due, whether the distance admits it, and
whether it has something new. Chance is only drawn where a question needs it, and
after the questions before it were answered.
-/

import AvatarRelay.Fanout.Candidate
import AvatarRelay.Random
import AvatarRelay.RateControl
import AvatarRelay.Stats.Counters

namespace AvatarRelay

structure FanoutSettings where
  /-- The budget of avatar data for one receiver. -/
  targetKbps : Binary32
  tickRate : UInt32
  /-- The chance for each pass and pair that an unchanged identity is sent again. -/
  identityProbability : Binary32
  /-- The share of updates that carry every joint. -/
  fullShare : Binary32
  deriving DecidableEq, Repr

namespace FanoutSettings

/-- The controller of full rate distances: one change a second at most. -/
def controller (settings : FanoutSettings) : RateController :=
  ⟨settings.targetKbps, settings.tickRate⟩

end FanoutSettings

/-- What is fixed while a pass runs. -/
structure PassContext where
  settings : FanoutSettings
  /-- When the pass before took place. -/
  lastPass : Option Instant
  now : Instant
  /-- Peers whose client data is in use elsewhere. -/
  busy : PeerId → Bool

/-- A receiver in the course of its visits. -/
structure Visit where
  receiver : Receiver
  random : Random
  /-- Identity packets that are due, in order. -/
  identities : List OutboundPacket
  batch : Batch
  /-- The distance of the farthest candidate so far. -/
  farthest : Option Binary32
  counters : Counters
  deriving DecidableEq

namespace Visit

def start (receiver : Receiver) (random : Random) (counters : Counters) : Visit where
  receiver := receiver
  random := random
  identities := []
  batch := Batch.empty
  farthest := none
  counters := counters

def contended (visit : Visit) : Visit :=
  { visit with
    counters := { visit.counters with contended := visit.counters.contended + 1 } }

def markMuted (visit : Visit) (other : PeerId) (muted : Bool) : Visit :=
  { visit with
    receiver := visit.receiver.setMuted other muted
    counters :=
      if muted then
        { visit.counters with mutedByBubble := visit.counters.mutedByBubble + 1 }
      else visit.counters }

/-- Whether an identity that the receiver may know already is due: it changed, or
chance has it. -/
def identityDue (context : PassContext) (other : Candidate) (known : Bool) (random : Random) :
    Bool × Random :=
  if !known || other.identityChangedSince context.lastPass then (true, random)
  else
    let (draw, random) := random.unit
    (draw < context.settings.identityProbability, random)

def introduce (context : PassContext) (other : Candidate) (visit : Visit) : Visit :=
  match other.avatar.identity with
  | none => visit
  | some identity =>
    let (known, receiver) := visit.receiver.introduce other.id
    let (due, random) := identityDue context other known visit.random
    { visit with
      receiver := receiver
      random := random
      identities :=
        if due then visit.identities ++ [.avatarIdentity other.id identity]
        else visit.identities }

def measure (distance : Binary32) (visit : Visit) : Visit :=
  { visit with
    farthest := some (visit.farthest.elim distance fun farthest => farthest.max distance) }

/-- Whether a candidate at a distance is admitted: at no distance always, else with
the chance of the full rate distance over the distance. -/
def admission (fullRateDistance distance : Binary32) (random : Random) : Bool × Random :=
  if distance.numEq 0 then (true, random)
  else
    let (draw, random) := random.unit
    (draw ≤ fullRateDistance / distance, random)

/-- Whether the update carries every joint: the first one for this receiver does,
later ones by chance. -/
def fullness (context : PassContext) (first : Bool) (random : Random) : Bool × Random :=
  if first then (true, random)
  else
    let (draw, random) := random.unit
    (draw < context.settings.fullShare, random)

/-- Appends the candidate's update to the batch. -/
def deliver (context : PassContext) (other : Candidate) (visit : Visit) : Visit :=
  let (full, random) :=
    fullness context (!visit.receiver.lastForwarded.contains other.id) visit.random
  let receiver := visit.receiver.forwarded other.id other.sender.latest
  { visit with
    receiver := { receiver with sentLastPass := receiver.sentLastPass + 1 }
    random := random
    batch := visit.batch.push ⟨other.id, other.avatar.encodeUpdate full⟩ }

/-- Counts a number that lies behind the one last forwarded. -/
def countOutOfOrder (visit : Visit) : Visit :=
  { visit with
    receiver :=
      { visit.receiver with
        outOfOrderLastPass := visit.receiver.outOfOrderLastPass + 1
        outOfOrderTotal := visit.receiver.outOfOrderTotal + 1 }
    counters := { visit.counters with outOfOrder := visit.counters.outOfOrder + 1 } }

/-- Counts an update that the receiver has already. -/
def countHeldBack (visit : Visit) : Visit :=
  { visit with
    receiver :=
      { visit.receiver with heldBackLastPass := visit.receiver.heldBackLastPass + 1 }
    counters := { visit.counters with heldBack := visit.counters.heldBack + 1 } }

/-- Counts an update before which others never reached the receiver. -/
def countSkipped (visit : Visit) : Visit :=
  { visit with
    receiver :=
      { visit.receiver with skippedLastPass := visit.receiver.skippedLastPass + 1 }
    counters := { visit.counters with skipped := visit.counters.skipped + 1 } }

/-- Forwards an admitted candidate if it has something new. -/
def forward (context : PassContext) (other : Candidate) (visit : Visit) : Visit :=
  let sent := visit.receiver.lastFrom other.id
  let produced := other.sender.latest
  let visit := if Sequence.outOfOrder sent produced then visit.countOutOfOrder else visit
  match Sequence.standing sent produced with
  | .heldBack => visit.countHeldBack
  | .gap => visit.countSkipped.deliver context other
  | .normal => visit.deliver context other

/-- Measures the distance, and forwards the candidate if it is admitted. -/
def consider (context : PassContext) (own other : Candidate) (visit : Visit) : Visit :=
  let distance := own.avatar.position.distanceTo other.avatar.position
  let visit := visit.measure distance
  let (admitted, random) :=
    admission visit.receiver.fullRateDistance distance visit.random
  let visit := { visit with random := random }
  if admitted then visit.forward context other else visit

/-- One visit: the questions in their order. -/
def next (context : PassContext) (own : Candidate) (visit : Visit) (other : Candidate) :
    Visit :=
  if own.apart other then visit
  else if context.busy other.id then visit.contended
  else
    let muted := own.muted other
    let visit := visit.markMuted other.id muted
    if muted then visit
    else (visit.introduce context other).consider context own other

end Visit

end AvatarRelay
