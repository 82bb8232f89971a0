/-
# An avatar as a receiver of others

What the relay remembers of each sender for one receiver, the receiver's full rate
distance, and the figures of its last pass.
-/

import AvatarRelay.PeerId
import AvatarRelay.RateMeter
import AvatarRelay.Sequence
import AvatarRelay.Bubble

namespace AvatarRelay

/-- The distance that stands for no limit. -/
def unboundedDistance : Binary32 := Binary32.largest

/-- One peer as a receiver of other avatars. -/
structure Receiver where
  /-- The number last forwarded of each sender. -/
  lastForwarded : PeerMap SequenceNumber
  /-- Senders whose identity was sent at least once. -/
  introduced : PeerSet
  /-- Senders that a bubble silences at present. -/
  muted : PeerSet
  /-- Senders up to this distance are forwarded on every pass. -/
  fullRateDistance : Binary32
  /-- The farthest candidate of the last pass. -/
  farthest : Binary32
  /-- Passes since the full rate distance last changed. -/
  passesSinceChange : UInt32
  sentLastPass : Nat
  heldBackLastPass : Nat
  skippedLastPass : Nat
  outOfOrderLastPass : Nat
  /-- Out-of-order numbers since the receiver connected. -/
  outOfOrderTotal : UInt64
  meter : RateMeter
  deriving DecidableEq

namespace Receiver

def new : Receiver where
  lastForwarded := ∅
  introduced := ∅
  muted := ∅
  fullRateDistance := unboundedDistance
  farthest := unboundedDistance
  passesSinceChange := 0
  sentLastPass := 0
  heldBackLastPass := 0
  skippedLastPass := 0
  outOfOrderLastPass := 0
  outOfOrderTotal := 0
  meter := default

instance : Inhabited Receiver := ⟨new⟩

/-- The number last forwarded of a sender; zero if there was none. -/
def lastFrom (receiver : Receiver) (sender : PeerId) : SequenceNumber :=
  receiver.lastForwarded[sender]?.getD 0

def forwarded (receiver : Receiver) (sender : PeerId) (number : SequenceNumber) : Receiver :=
  { receiver with lastForwarded := receiver.lastForwarded.insert sender number }

/-- Notes that a sender's identity goes out, and says whether it had before. -/
def introduce (receiver : Receiver) (sender : PeerId) : Bool × Receiver :=
  (receiver.introduced.contains sender,
    { receiver with introduced := receiver.introduced.insert sender })

/-- Keeps the set of silenced senders in step with the bubble's answer. -/
def setMuted (receiver : Receiver) (sender : PeerId) (muted : Bool) : Receiver :=
  { receiver with
    muted := if muted then receiver.muted.insert sender else receiver.muted.erase sender }

def beginPass (receiver : Receiver) : Receiver :=
  { receiver with
    sentLastPass := 0
    heldBackLastPass := 0
    skippedLastPass := 0
    outOfOrderLastPass := 0 }

def recordSent (receiver : Receiver) (bytes : Nat) (now : Instant) : Receiver :=
  { receiver with meter := receiver.meter.record bytes now }

def rollMeter (receiver : Receiver) (now : Instant) : Receiver :=
  { receiver with meter := receiver.meter.roll now }

def forget (receiver : Receiver) (peer : PeerId) : Receiver :=
  { receiver with
    lastForwarded := receiver.lastForwarded.erase peer
    introduced := receiver.introduced.erase peer
    muted := receiver.muted.erase peer }

end Receiver

end AvatarRelay
