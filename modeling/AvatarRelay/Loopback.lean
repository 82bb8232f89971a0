/-
# Delivery within the process

The relay asks whether a peer can be reached and hands over finished packets. This
transport delivers to a record: of each peer it keeps whether there is an address,
the packets sent to it, and how many bytes they came to.
-/

import AvatarRelay.Packet

namespace AvatarRelay

structure SentPacket where
  packet : OutboundPacket
  bytes : Nat
  deriving DecidableEq

structure Link where
  hasAddress : Bool
  /-- Packets sent, oldest first. -/
  sent : List SentPacket
  /-- Bytes of all packets ever sent; the count wraps around. -/
  bytesSent : UInt64
  deriving DecidableEq

namespace Link

def new : Link := ⟨false, [], 0⟩

instance : Inhabited Link := ⟨new⟩

end Link

/-- A transport that keeps what it is given. -/
structure Loopback where
  links : PeerMap Link
  /-- Packets kept for each peer; zero keeps all. -/
  historyLimit : Nat
  deriving DecidableEq

inductive SendError
  | noActiveAddress (peer : PeerId)
  deriving DecidableEq

namespace SendError

def message : SendError → String
  | noActiveAddress peer => "No active address for peer " ++ peer.toString

end SendError

namespace Loopback

/-- A transport without links that keeps the given number of packets. -/
def new (historyLimit : Nat) : Loopback := ⟨∅, historyLimit⟩

instance : Inhabited Loopback := ⟨new 0⟩

/-- The link to a peer; one without address or history if there is none. -/
def link (transport : Loopback) (peer : PeerId) : Link :=
  transport.links[peer]?.getD Link.new

def setAddress (transport : Loopback) (peer : PeerId) (hasAddress : Bool) : Loopback :=
  { transport with
    links := transport.links.insert peer
      { transport.link peer with hasAddress := hasAddress } }

def forget (transport : Loopback) (peer : PeerId) : Loopback :=
  { transport with links := transport.links.erase peer }

def clearHistory (transport : Loopback) : Loopback :=
  { transport with links := transport.links.map fun _ link => { link with sent := [] } }

def hasActiveAddress (transport : Loopback) (peer : PeerId) : Bool :=
  (transport.link peer).hasAddress

/-- Packets sent to a peer, oldest first. -/
def sentTo (transport : Loopback) (peer : PeerId) : List SentPacket :=
  (transport.link peer).sent

def bytesSentTo (transport : Loopback) (peer : PeerId) : UInt64 :=
  (transport.link peer).bytesSent

/-- The latest packets of a history, as many as the limit allows. -/
def trim (historyLimit : Nat) (sent : List SentPacket) : List SentPacket :=
  if historyLimit = 0 then sent else sent.drop (sent.length - historyLimit)

/-- Hands over a packet and answers its size. -/
def send (transport : Loopback) (destination : PeerId) (packet : OutboundPacket) :
    Except SendError (Nat × Loopback) :=
  let link := transport.link destination
  if link.hasAddress then
    let bytes := packet.encodedLength
    let sent := trim transport.historyLimit (link.sent ++ [⟨packet, bytes⟩])
    .ok (bytes,
      { transport with
        links := transport.links.insert destination
          { link with sent := sent, bytesSent := link.bytesSent + UInt64.ofNat bytes } })
  else .error (.noActiveAddress destination)

end Loopback

end AvatarRelay
