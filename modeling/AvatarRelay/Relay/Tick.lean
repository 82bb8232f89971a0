/-
# Ticks

A tick applies the events that were reported, carries on with purges, makes one
pass over all agents, and records what it did. Each time a window of passes is
complete, its report is published.
-/

import AvatarRelay.Relay.Departure

namespace AvatarRelay.Relay

/-- Reads the figures of every agent whose client data is free, with meters brought
up to now. -/
def readFigures (order : VisitOrder) (busy : SessionKey → Bool) (now : Instant)
    (directory : Directory) : PeerMap AvatarFigures × Directory :=
  (directory.agents order).foldl
    (fun (figures, directory) peer =>
      match peer.client with
      | none => (figures, directory)
      | some client =>
        if busy peer.key then (figures, directory)
        else
          let client := client.rollMeters now
          (figures.insert peer.id client.figures,
            directory.modify peer.id (·.withClient client)))
    (∅, directory)

/-- Makes one pass over all agents. -/
def fanOut (relay : Relay) (order : VisitOrder) (busy : SessionKey → Bool) (now : Instant) :
    Counters × Relay :=
  let agents := (relay.directory.agents order).map Peer.id
  let busyPeer (id : PeerId) : Bool := (relay.directory.find? id).any (busy ·.key)
  let (state, fanout) :=
    relay.fanout.pass agents busyPeer now relay.directory relay.transport
  (state.counters,
    { relay with directory := state.directory, transport := state.transport, fanout := fanout })

/-- Records the counters and the time of a tick. -/
def recordTick (relay : Relay) (counters : Counters) (began ended : Instant) : Relay :=
  let throttle := relay.throttle.tickEnd ended
  let metrics :=
    (relay.metrics.recordPass counters).recordTickTime (Duration.between began ended)
  let agents := relay.directory.toList.countP fun peer => peer.role.carriesAvatar
  let metrics := { metrics with agents := UInt64.ofNat agents }
  { relay with
    window := relay.window.record counters
    throttle := throttle
    metrics := metrics.setThrottle throttle.ratio throttle.trailingPercent }

/-- Publishes the report of a window that is complete. -/
def reportWindow (relay : Relay) (order : VisitOrder) (busy : SessionKey → Bool)
    (now : Instant) : Relay :=
  if relay.window.isComplete then
    let (report, window) :=
      relay.window.report relay.throttle.trailingPercent relay.throttle.ratio
        relay.directory.size
    let (figures, directory) := readFigures order busy now relay.directory
    let report := { report with avatars := figures }
    { relay with
      directory := directory
      window := window
      metrics := relay.metrics.publish report
      latestReport := some report }
  else relay

/-- One tick, with the order in which it visits the peers, the sessions whose client
data is in use meanwhile, and the instants at which it begins and ends. -/
def tick (relay : Relay) (order : VisitOrder) (busy : SessionKey → Bool)
    (began ended : Instant) : Counters × Relay :=
  let relay := { relay with throttle := relay.throttle.tickStart began }
  let (counters, relay) := ((relay.processEvents order).retryPurges busy).fanOut order busy began
  let relay := (relay.recordTick counters began ended).reportWindow order busy ended
  (counters, { relay with tickCount := relay.tickCount + 1 })

end AvatarRelay.Relay
