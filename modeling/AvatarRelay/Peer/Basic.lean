/-
# Connected peers

A peer is one connection of an identifier in a role. Only agents have avatars, and
an agent's client data comes into being with the first packet that needs it.
-/

import AvatarRelay.Client.Basic

namespace AvatarRelay

/-- What kind of node a peer is; fixed when it connects. -/
inductive Role
  /-- An interactive client with an avatar. -/
  | agent
  | audioMixer
  | entityServer
  | assetServer
  | other
  deriving DecidableEq, Repr

namespace Role

/-- Only agents have avatars and take part in passes. -/
def carriesAvatar (role : Role) : Bool :=
  role = agent

def name : Role → String
  | agent => "Agent"
  | audioMixer => "AudioMixer"
  | entityServer => "EntityServer"
  | assetServer => "AssetServer"
  | other => "Other"

end Role

/-- One connection of an identifier. Connecting again begins another session. -/
structure SessionKey where
  id : PeerId
  session : Nat
  deriving DecidableEq

structure Peer where
  id : PeerId
  role : Role
  session : Nat
  /-- The peer has its bubble on. -/
  bubbleEnabled : Bool
  /-- Peers that this one asked not to hear. -/
  ignored : PeerSet
  /-- Only agents ever have client data. -/
  client : Option Client
  deriving DecidableEq

namespace Peer

def new (id : PeerId) (role : Role) (session : Nat) : Peer where
  id := id
  role := role
  session := session
  bubbleEnabled := false
  ignored := ∅
  client := none

def key (peer : Peer) : SessionKey := ⟨peer.id, peer.session⟩

/-- The client data of an agent, new if there was none yet; `none` for all other
roles. -/
def client? (peer : Peer) (bounds : ScaleBounds) : Option Client :=
  if peer.role.carriesAvatar then some (peer.client.getD (Client.new bounds)) else none

def withClient (peer : Peer) (client : Client) : Peer :=
  { peer with client := some client }

def mapClient (peer : Peer) (change : Client → Client) : Peer :=
  { peer with client := peer.client.map change }

def isIgnoring (peer : Peer) (other : PeerId) : Bool :=
  peer.ignored.contains other

/-- Stops hearing another peer. Nobody ignores itself. -/
def ignore (peer : Peer) (other : PeerId) : Peer :=
  if other = peer.id then peer else { peer with ignored := peer.ignored.insert other }

def unignore (peer : Peer) (other : PeerId) : Peer :=
  { peer with ignored := peer.ignored.erase other }

/-- Starts or stops ignoring each of several peers. -/
def setIgnored (peer : Peer) (others : List PeerId) (enabled : Bool) : Peer :=
  others.foldl (fun peer other => if enabled then peer.ignore other else peer.unignore other) peer

def setBubble (peer : Peer) (enabled : Bool) : Peer :=
  { peer with bubbleEnabled := enabled }

def describe (peer : Peer) : String :=
  let flag (value : Bool) := if value then "true" else "false"
  "Peer \x7b id: " ++ peer.id.toString ++ ", role: " ++ peer.role.name
    ++ ", session: " ++ toString peer.session
    ++ ", ignore_radius_enabled: " ++ flag peer.bubbleEnabled
    ++ ", has_client_data: " ++ flag peer.client.isSome ++ " \x7d"

end Peer

end AvatarRelay
