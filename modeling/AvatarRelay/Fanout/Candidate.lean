/-
# Candidates of a pass

A peer takes part in a pass when it is an agent with an address and client data.
What the pass reads of it as a sender does not change while the pass runs, so it is
gathered once, before the first receiver is served.
-/

import AvatarRelay.Loopback
import AvatarRelay.Peer.Directory

namespace AvatarRelay

/-- What a pass reads of one avatar on behalf of all receivers. -/
structure Candidate where
  id : PeerId
  ignored : PeerSet
  bubbleEnabled : Bool
  avatar : Avatar
  sender : Sender
  deriving DecidableEq

namespace Candidate

def ofPeer? (transport : Loopback) (peer : Peer) : Option Candidate :=
  if peer.role.carriesAvatar && transport.hasActiveAddress peer.id then
    peer.client.map fun client =>
      { id := peer.id
        ignored := peer.ignored
        bubbleEnabled := peer.bubbleEnabled
        avatar := client.avatar
        sender := client.sender }
  else none

def gather (directory : Directory) (transport : Loopback) (order : List PeerId) :
    List Candidate :=
  order.filterMap fun id => (directory.find? id).bind (ofPeer? transport)

/-- One of the two asked not to hear the other, or they are the same. -/
def apart (first second : Candidate) : Bool :=
  first.id = second.id || first.ignored.contains second.id || second.ignored.contains first.id

/-- One of the two has its bubble on, and they are inside it. -/
def muted (first second : Candidate) : Bool :=
  Bubble.standard.mutes (first.bubbleEnabled || second.bubbleEnabled) first.avatar second.avatar

/-- The identity changed after the pass before; before the first pass, any identity
that was ever set counts as changed. -/
def identityChangedSince (candidate : Candidate) (lastPass : Option Instant) : Bool :=
  match candidate.sender.identityChanged, lastPass with
  | some changed, some last => last < changed
  | some _, none => true
  | none, _ => false

end Candidate

end AvatarRelay
