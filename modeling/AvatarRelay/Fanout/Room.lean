/-
# A closed room

Peers that are served by passes without ever connecting or leaving. A room stays
fixed while its avatars move, which shows how the full rate distances of its
receivers settle.
-/

import AvatarRelay.Fanout.Pass

namespace AvatarRelay

/-- A place in the list of a room. Several peers may be listed under one identifier,
and whatever is meant for it reaches the first of them. -/
inductive Seat
  /-- The peer that an identifier reaches. -/
  | taken (id : PeerId)
  /-- A peer listed under an identifier that was taken before. Nothing reaches it, so
  it stays as it came, without client data, and takes no part in passes. -/
  | spare (peer : Peer)
  deriving DecidableEq

namespace Seat

/-- The seats of listed peers, given the identifiers taken before. -/
def assign : List PeerId → List Peer → List Seat
  | _, [] => []
  | earlier, peer :: rest =>
    (if earlier.contains peer.id then spare peer else taken peer.id)
      :: assign (peer.id :: earlier) rest

def id? : Seat → Option PeerId
  | taken id => some id
  | spare _ => none

end Seat

/-- A fixed company of peers, the transport to them, and the passes they share. -/
structure Room where
  /-- The peers as they were listed. -/
  seats : List Seat
  directory : Directory
  transport : Loopback
  fanout : Fanout

structure DistanceChange where
  receiver : PeerId
  distance : Binary32
  deriving DecidableEq

namespace Room

/-- A room of the given peers, each of which can be reached or not. The directory is
filled from the end, so the first peer of an identifier stands in it. -/
def new (settings : FanoutSettings) (seed : UInt64) (peers : List (Peer × Bool)) : Room where
  seats := Seat.assign [] (peers.map (·.1))
  directory := ⟨.ofList (peers.reverse.map fun (peer, _) => (peer.id, peer)), 0⟩
  transport := (peers.filter (·.2)).foldl (·.setAddress ·.1.id true) default
  fanout := Fanout.ofSeed settings seed

/-- The peers that take part, in the order in which they are served. -/
def order (room : Room) : List PeerId :=
  room.seats.filterMap Seat.id?

def peers (room : Room) : List Peer :=
  room.seats.filterMap fun
    | .taken id => room.directory.find? id
    | .spare peer => some peer

def modify (room : Room) (id : PeerId) (change : Peer → Peer) : Room :=
  { room with directory := room.directory.modify id change }

/-- The room with the histories of its transport emptied. -/
def clearHistory (room : Room) : Room :=
  { room with transport := room.transport.clearHistory }

/-- One pass over some peers, of which some are in use meanwhile. -/
def pass (room : Room) (order busy : List PeerId) (now : Instant) : Counters × Room :=
  let (state, fanout) :=
    room.fanout.pass order (busy.contains ·) now room.directory room.transport
  (state.counters,
    { room with directory := state.directory, transport := state.transport, fanout := fanout })

/-- The size that a client's repeated report is measured with. -/
def reportBytes : Nat := 64

/-- Some peers report the poses they have once more, under their next numbers. -/
def moveOn (room : Room) (moving : List PeerId) (now : Instant) : Room :=
  moving.foldl
    (fun room id =>
      room.modify id (·.mapClient fun client =>
        (client.applyUpdate (client.sender.latest + 1) client.avatar.pose reportBytes now).1))
    room

def distance? (room : Room) (id : PeerId) : Option Binary32 :=
  (room.directory.client? id).map (·.receiver.fullRateDistance)

/-- The full rate distances in which a later state of the room differs. They are
compared as numbers, so a change of a zero's sign is none, and a NaN always differs. -/
def distanceChanges (before after : Room) : List DistanceChange :=
  before.order.filterMap fun id =>
    match before.distance? id, after.distance? id with
    | some old, some new => if old.numEq new then none else some ⟨id, new⟩
    | _, _ => none

/-- One turn: some peers move on, then all are served. -/
def turn (room : Room) (moving : List PeerId) (now : Instant) :
    Counters × List DistanceChange × Room :=
  let (counters, served) := (room.moveOn moving now).pass room.order [] now
  (counters, room.distanceChanges served, served.clearHistory)

end Room

end AvatarRelay
