/-
# Departures

At the beginning of a tick the events that were reported take effect. A session
that ended is removed, the remaining agents are told, and every session that may
remember the departed peer is purged of it. Where client data is in use, the purge
is tried again on the next tick.
-/

import AvatarRelay.Relay.Basic

namespace AvatarRelay.Relay

/-- Tells every agent with an address that an avatar is gone. -/
def notifyAgents (relay : Relay) (order : VisitOrder) (avatar : PeerId)
    (reason : KillReason) : Relay :=
  let transport := (relay.directory.agents order).foldl
    (fun transport other =>
      match transport.send other.id (.killAvatar avatar reason) with
      | .ok (_, transport) => transport
      | .error _ => transport)
    relay.transport
  relay.withTransport transport

/-- Counts a session that was removed. Agents are told if it had an avatar that
they may have seen. -/
def announce (relay : Relay) (order : VisitOrder) (peer : Peer) (reason : KillReason) :
    Relay :=
  let relay :=
    { relay with
      metrics :=
        { relay.metrics with
          peers := UInt64.ofNat relay.directory.size
          disconnects := relay.metrics.disconnects + 1 } }
  if peer.role.carriesAvatar && peer.client.isSome then relay.notifyAgents order peer.id reason
  else relay

/-- Has every other connected session purged of a peer. -/
def schedulePurge (relay : Relay) (order : VisitOrder) (departed : PeerId) : Relay :=
  let others := relay.directory.matching order (·.id ≠ departed)
  { relay with purges := relay.purges ++ [⟨departed, others.map Peer.key⟩] }

/-- The effect of one event. The end of a session that is no longer connected has
none; a replaced session is already gone from the directory. -/
def applyEvent (order : VisitOrder) (relay : Relay) (event : PeerEvent) : Relay :=
  match event.killReason? with
  | none => relay.schedulePurge order event.key.id
  | some reason =>
    match relay.directory.removeSession event.key with
    | none => relay
    | some (peer, directory) =>
      ({ relay with directory := directory }.announce order peer reason).schedulePurge order
        event.key.id

/-- The effects of all events that were reported, in order. -/
def processEvents (relay : Relay) (order : VisitOrder) : Relay :=
  let (events, queue) := relay.events.drain
  events.foldl (applyEvent order) { relay with events := queue }

/-- Purges one session of a departed peer, and says whether that is done. Ignoring
ends in any case; the rest has to wait while the client data is in use. A session
that is no longer connected has nothing left that could be seen. -/
def purgeSession (busy : SessionKey → Bool) (departed : PeerId) (directory : Directory)
    (key : SessionKey) : Bool × Directory :=
  match directory.findSession? key with
  | none => (!busy key, directory)
  | some peer =>
    let directory := directory.modify key.id (·.unignore departed)
    if peer.client.isNone then (true, directory)
    else if busy key then (false, directory)
    else (true, directory.modifyClient key.id (·.forget departed))

/-- Purges the remaining sessions; those that are not done remain. -/
def purgeRemaining (busy : SessionKey → Bool) (departed : PeerId) (directory : Directory)
    (remaining : List SessionKey) : List SessionKey × Directory :=
  remaining.foldl
    (fun (kept, directory) key =>
      match purgeSession busy departed directory key with
      | (true, directory) => (kept, directory)
      | (false, directory) => (kept ++ [key], directory))
    ([], directory)

/-- Carries on with all purges; those that are done are dropped. -/
def retryPurges (relay : Relay) (busy : SessionKey → Bool) : Relay :=
  let (purges, directory) := relay.purges.foldl
    (fun (purges, directory) purge =>
      let (remaining, directory) :=
        purgeRemaining busy purge.departed directory purge.remaining
      (purges ++ [{ purge with remaining := remaining }], directory))
    (([] : List Purge), relay.directory)
  { relay with
    directory := directory
    purges := purges.filter (!·.remaining.isEmpty) }

end AvatarRelay.Relay
