/-
# The directory of connected peers

At most one session of an identifier is connected. Sessions are numbered across
all identifiers, so a session that was replaced can never be taken for its
successor.
-/

import AvatarRelay.Peer.Basic

namespace AvatarRelay

/-- An order in which the connected peers are visited. The directory promises none in
particular, so any rearrangement will do. -/
structure VisitOrder where
  arrange : List Peer → List Peer
  perm : ∀ peers, (arrange peers).Perm peers

def VisitOrder.ascending : VisitOrder := ⟨id, fun _ => .refl _⟩

/-- The connected peers by identifier, and the number of the latest session. -/
structure Directory where
  peers : PeerMap Peer
  lastSession : Nat
  deriving DecidableEq

namespace Directory

def empty : Directory := ⟨∅, 0⟩

instance : Inhabited Directory := ⟨empty⟩

def find? (directory : Directory) (id : PeerId) : Option Peer :=
  directory.peers[id]?

def client? (directory : Directory) (id : PeerId) : Option Client :=
  (directory.find? id).bind (·.client)

/-- Registers a peer as a new session in place of the one its identifier had. -/
def insert (directory : Directory) (id : PeerId) (role : Role) : Peer × Directory :=
  let peer := Peer.new id role (directory.lastSession + 1)
  (peer, ⟨directory.peers.insert id peer, directory.lastSession + 1⟩)

/-- The connected peer of exactly this session. -/
def findSession? (directory : Directory) (key : SessionKey) : Option Peer :=
  (directory.find? key.id).filter (·.session = key.session)

/-- Removes a session. A newer session of the same identifier stays. -/
def removeSession (directory : Directory) (key : SessionKey) : Option (Peer × Directory) :=
  (directory.findSession? key).map fun peer =>
    (peer, { directory with peers := directory.peers.erase key.id })

def modify (directory : Directory) (id : PeerId) (change : Peer → Peer) : Directory :=
  { directory with peers := directory.peers.modify id change }

def modifyClient (directory : Directory) (id : PeerId) (change : Client → Client) : Directory :=
  directory.modify id (·.mapClient change)

/-- All connected peers, by ascending identifiers. -/
def toList (directory : Directory) : List Peer :=
  directory.peers.values

/-- The connected peers of some kind, in a given order. -/
def matching (directory : Directory) (order : VisitOrder) (test : Peer → Bool) : List Peer :=
  (order.arrange directory.toList).filter test

/-- All connected agents, in a given order. -/
def agents (directory : Directory) (order : VisitOrder) : List Peer :=
  directory.matching order (·.role.carriesAvatar)

def size (directory : Directory) : Nat :=
  directory.peers.size

end Directory

end AvatarRelay
