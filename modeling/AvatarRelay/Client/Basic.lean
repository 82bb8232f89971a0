/-
# What the relay keeps for one connected avatar

Every agent plays two parts on each pass: it receives other avatars and sends its
own. Both parts and the avatar itself are read and written together.
-/

import AvatarRelay.Client.Receiver

namespace AvatarRelay

/-- One peer as the sender of its own avatar. -/
structure Sender where
  /-- The number of the latest accepted update. -/
  latest : SequenceNumber
  /-- Some update was accepted. -/
  hasUpdate : Bool
  /-- When the identity last changed, if it was ever set. -/
  identityChanged : Option Instant
  /-- Updates ignored because a newer one was held. -/
  staleUpdates : UInt64
  meter : RateMeter
  deriving DecidableEq

namespace Sender

def new : Sender where
  latest := 0
  hasUpdate := false
  identityChanged := none
  staleUpdates := 0
  meter := default

instance : Inhabited Sender := ⟨new⟩

/-- An update with this number is not newer than the one held. -/
def isStale (sender : Sender) (number : SequenceNumber) : Bool :=
  sender.hasUpdate && !Sequence.newer number sender.latest

def accept (sender : Sender) (number : SequenceNumber) : Sender :=
  { sender with hasUpdate := true, latest := number }

end Sender

/-- Everything the relay keeps for one agent. -/
structure Client where
  avatar : Avatar
  receiver : Receiver
  sender : Sender
  deriving DecidableEq

/-- The figures of one avatar at the end of a window. -/
structure AvatarFigures where
  outboundKbps : Binary32
  inboundKbps : Binary32
  fullRateDistance : Binary32
  farthest : Binary32
  sentLastPass : Nat
  heldBackLastPass : Nat
  skippedLastPass : Nat
  outOfOrderTotal : UInt64
  staleUpdates : UInt64
  muted : Nat
  deriving DecidableEq, Repr

namespace Client

def new (bounds : ScaleBounds) : Client where
  avatar := Avatar.new bounds
  receiver := Receiver.new
  sender := Sender.new

def mapReceiver (client : Client) (change : Receiver → Receiver) : Client :=
  { client with receiver := change client.receiver }

/-- What became of an update. -/
inductive Ingestion
  | accepted
  /-- Not newer than the update held. -/
  | stale
  /-- The pose had to be refused. -/
  | refused
  deriving DecidableEq, Repr

/-- Takes in an update. Its bytes are measured in any case; a stale one is counted
and a refused one is not, and neither changes the avatar or the number held. -/
def applyUpdate (client : Client) (number : SequenceNumber) (pose : Pose) (bytes : Nat)
    (now : Instant) : Client × Ingestion :=
  let sender := { client.sender with meter := client.sender.meter.record bytes now }
  if sender.isStale number then
    ({ client with sender := { sender with staleUpdates := sender.staleUpdates + 1 } }, .stale)
  else
    match client.avatar.applyPose? pose with
    | none => ({ client with sender := sender }, .refused)
    | some avatar => ({ client with avatar := avatar, sender := sender.accept number }, .accepted)

/-- Takes in an identity and says whether it changed; a change is stamped. -/
def applyIdentity (client : Client) (identity : Identity) (now : Instant) : Client × Bool :=
  match client.avatar.applyIdentity? identity with
  | none => (client, false)
  | some avatar =>
    ({ client with
        avatar := avatar
        sender := { client.sender with identityChanged := some now } }, true)

def forget (client : Client) (peer : PeerId) : Client :=
  client.mapReceiver (·.forget peer)

def rollMeters (client : Client) (now : Instant) : Client :=
  { client with
    receiver := client.receiver.rollMeter now
    sender := { client.sender with meter := client.sender.meter.roll now } }

/-- The figures for the report; meters report their last completed windows. -/
def figures (client : Client) : AvatarFigures where
  outboundKbps := client.receiver.meter.lastKbps
  inboundKbps := client.sender.meter.lastKbps
  fullRateDistance := client.receiver.fullRateDistance
  farthest := client.receiver.farthest
  sentLastPass := client.receiver.sentLastPass
  heldBackLastPass := client.receiver.heldBackLastPass
  skippedLastPass := client.receiver.skippedLastPass
  outOfOrderTotal := client.receiver.outOfOrderTotal
  staleUpdates := client.sender.staleUpdates
  muted := client.receiver.muted.size

end Client

end AvatarRelay
