/-
# Packets

What clients send to the relay and what the relay sends to clients. Updates of
many avatars travel together in one batch for each receiver.
-/

import AvatarRelay.Avatar.Identity
import AvatarRelay.Avatar.Pose

namespace AvatarRelay

inductive InboundPacket
  /-- The latest pose, stamped with the client's sequence number. -/
  | avatarData (number : UInt16) (pose : Pose)
  /-- The description of the avatar. -/
  | avatarIdentity (identity : Identity)
  /-- The client is leaving. -/
  | killAvatar
  /-- Stop or resume hearing some peers. -/
  | nodeIgnore (others : List PeerId) (enabled : Bool)
  /-- Turn the bubble on or off. -/
  | radiusIgnore (enabled : Bool)
  deriving DecidableEq

inductive KillReason
  | noReason
  | disconnected
  deriving DecidableEq, Repr

structure Segment where
  sender : PeerId
  /-- An update as bytes. -/
  payload : Bytes
  deriving DecidableEq

/-- The avatars that one receiver is sent on one pass, in the order of sending. -/
structure Batch where
  segments : List Segment
  deriving DecidableEq

inductive OutboundPacket
  | bulkAvatarData (batch : Batch)
  /-- The description of some avatar. -/
  | avatarIdentity (avatar : PeerId) (identity : Identity)
  /-- Some avatar is gone. -/
  | killAvatar (avatar : PeerId) (reason : KillReason)
  deriving DecidableEq

namespace Segment

/-- Bytes that an identifier is counted with. -/
def peerIdBytes : Nat := 16

/-- The size that a segment is counted with. -/
def wireLength (segment : Segment) : Nat :=
  peerIdBytes + segment.payload.length

/-- Sender, then payload; the payload is read byte by byte. -/
def format : Format Segment :=
  (Format.peerId.pair Format.byte.list).map
    (fun (sender, payload) => ⟨sender, payload⟩)
    (fun segment => (segment.sender, segment.payload))

end Segment

namespace Batch

-- The zero of a sum is that of the numerals, whatever other instances are in scope.
attribute [local instance (2000)] Zero.ofOfNat0

def empty : Batch := ⟨[]⟩

instance : Inhabited Batch := ⟨empty⟩

def push (batch : Batch) (segment : Segment) : Batch :=
  ⟨batch.segments ++ [segment]⟩

/-- Appends a payload of a sender, and answers the size that it is counted with. -/
def add (batch : Batch) (sender : PeerId) (payload : Bytes) : Nat × Batch :=
  let segment : Segment := ⟨sender, payload⟩
  (segment.wireLength, batch.push segment)

def size (batch : Batch) : Nat := batch.segments.length

def isEmpty (batch : Batch) : Bool := batch.segments.isEmpty

def contains (batch : Batch) (sender : PeerId) : Bool :=
  batch.segments.any (·.sender = sender)

/-- The size that a batch is counted with. -/
def wireLength (batch : Batch) : Nat :=
  (batch.segments.map Segment.wireLength).sum

def format : Format Batch :=
  Segment.format.list.map Batch.mk Batch.segments

end Batch

/-! ## Formats of packets -/

namespace KillReason

def format : Format KillReason :=
  Format.variants
    (fun reason =>
      match reason with
      | noReason => (0, [])
      | disconnected => (1, []))
    [Format.constant noReason, Format.constant disconnected]

end KillReason

namespace InboundPacket

def avatarDataFormat : Format (UInt16 × Pose) :=
  Format.word16.pair Pose.format

def nodeIgnoreFormat : Format (List PeerId × Bool) :=
  Format.peerId.list.pair Format.bool

def format : Format InboundPacket :=
  Format.variants
    (fun packet =>
      match packet with
      | avatarData number pose => (0, avatarDataFormat.write (number, pose))
      | avatarIdentity identity => (1, Identity.format.write identity)
      | killAvatar => (2, [])
      | nodeIgnore others enabled => (3, nodeIgnoreFormat.write (others, enabled))
      | radiusIgnore enabled => (4, Format.bool.write enabled))
    [Format.alternative avatarDataFormat fun (number, pose) => avatarData number pose,
     Format.alternative Identity.format avatarIdentity,
     Format.constant killAvatar,
     Format.alternative nodeIgnoreFormat fun (others, enabled) => nodeIgnore others enabled,
     Format.alternative Format.bool radiusIgnore]

end InboundPacket

namespace OutboundPacket

def identityFormat : Format (PeerId × Identity) :=
  Format.peerId.pair Identity.format

def killFormat : Format (PeerId × KillReason) :=
  Format.peerId.pair KillReason.format

def format : Format OutboundPacket :=
  Format.variants
    (fun packet =>
      match packet with
      | bulkAvatarData batch => (0, Batch.format.write batch)
      | avatarIdentity avatar identity => (1, identityFormat.write (avatar, identity))
      | killAvatar avatar reason => (2, killFormat.write (avatar, reason)))
    [Format.alternative Batch.format bulkAvatarData,
     Format.alternative identityFormat fun (avatar, identity) => avatarIdentity avatar identity,
     Format.alternative killFormat fun (avatar, reason) => killAvatar avatar reason]

def encodedLength (packet : OutboundPacket) : Nat :=
  (format.write packet).length

end OutboundPacket

end AvatarRelay
