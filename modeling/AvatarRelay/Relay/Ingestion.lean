/-
# Connections and packets

What happens to a relay between ticks: peers connect, report the end of sessions,
and send packets. A packet that fails leaves no trace but in the metrics.
-/

import AvatarRelay.Relay.Basic

namespace AvatarRelay

/-- Why a packet has no effect. -/
inductive ReceiveError
  | unknownPeer (id : PeerId)
  /-- Only agents send packets about avatars. -/
  | notAnAgent (id : PeerId) (role : Role)
  | unreadable (cause : ReadError)
  deriving DecidableEq

namespace ReceiveError

def message : ReceiveError → String
  | unknownPeer id => "Unknown peer " ++ id.toString
  | notAnAgent id role =>
    "Peer " ++ id.toString ++ " is a " ++ role.name ++ " and has no avatar"
  | unreadable cause => cause.message

end ReceiveError

namespace Relay

/-- Reports an event for the next tick. -/
def push (relay : Relay) (event : PeerEvent) : Relay :=
  { relay with events := relay.events.push event }

/-- Registers a peer. A session that its identifier had is replaced, and what others
remember of it is dropped on the next tick. -/
def connect (relay : Relay) (id : PeerId) (role : Role) : Peer × Relay :=
  let old := relay.directory.find? id
  let (peer, directory) := relay.directory.insert id role
  let relay :=
    { relay with
      directory := directory
      metrics := { relay.metrics with peers := UInt64.ofNat directory.size } }
  match old with
  | none => (peer, relay)
  | some old => (peer, relay.push (.replaced old.key))

/-- Reports the end of a session for the next tick. -/
def disconnect (relay : Relay) (key : SessionKey) : Relay :=
  relay.push (.disconnected key)

def modifyPeer (relay : Relay) (id : PeerId) (change : Peer → Peer) : Relay :=
  { relay with directory := relay.directory.modify id change }

def countDropped (relay : Relay) : Relay :=
  { relay with
    metrics := { relay.metrics with staleUpdates := relay.metrics.staleUpdates + 1 } }

/-- Takes in a packet of a connected peer. -/
def applyPacket (relay : Relay) (peer : Peer) (packet : InboundPacket) (bytes : Nat)
    (now : Instant) : Except ReceiveError Relay :=
  match packet with
  | .avatarData number pose =>
    match peer.client? relay.config.scaleBounds with
    | none => .error (.notAnAgent peer.id peer.role)
    | some client =>
      let (client, ingestion) := client.applyUpdate number pose bytes now
      let relay := relay.modifyPeer peer.id (·.withClient client)
      .ok (if ingestion = .accepted then relay else relay.countDropped)
  | .avatarIdentity identity =>
    match peer.client? relay.config.scaleBounds with
    | none => .error (.notAnAgent peer.id peer.role)
    | some client =>
      .ok (relay.modifyPeer peer.id (·.withClient (client.applyIdentity identity now).1))
  | .killAvatar => .ok (relay.push (.killRequested peer.key))
  | .nodeIgnore others enabled => .ok (relay.modifyPeer peer.id (·.setIgnored others enabled))
  | .radiusIgnore enabled => .ok (relay.modifyPeer peer.id (·.setBubble enabled))

def countPacket (relay : Relay) (bytes : Nat) : Relay :=
  { relay with
    metrics :=
      { relay.metrics with
        packetsReceived := relay.metrics.packetsReceived + 1
        bytesReceived := relay.metrics.bytesReceived + UInt64.ofNat bytes } }

def countUnreadable (relay : Relay) : Relay :=
  { relay with
    metrics := { relay.metrics with decodeErrors := relay.metrics.decodeErrors + 1 } }

/-- Reads and takes in a packet. An unknown sender is told so before the packet is
read. -/
def receive (relay : Relay) (sender : PeerId) (bytes : Bytes) (now : Instant) :
    Except ReceiveError Unit × Relay :=
  let counted := relay.countPacket bytes.length
  match counted.directory.find? sender with
  | none => (.error (.unknownPeer sender), counted)
  | some peer =>
    match InboundPacket.format.decode bytes with
    | .error cause => (.error (.unreadable cause), counted.countUnreadable)
    | .ok packet =>
      match counted.applyPacket peer packet bytes.length now with
      | .error error => (.error error, counted)
      | .ok relay => (.ok (), relay)

end Relay

end AvatarRelay
