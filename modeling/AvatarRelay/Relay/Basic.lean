/-
# The state of a relay

The connected peers, the transport to them, events that wait for the next tick,
and what the ticks themselves carry along. Every operation takes the state to its
successor.
-/

import AvatarRelay.Config.Basic
import AvatarRelay.Fanout.Pass
import AvatarRelay.Metrics.Basic
import AvatarRelay.PeerEvent
import AvatarRelay.Throttle

namespace AvatarRelay

/-- A departed peer that some sessions may still remember. -/
structure Purge where
  departed : PeerId
  /-- Sessions that have not been purged of it yet. -/
  remaining : List SessionKey
  deriving DecidableEq

structure Relay where
  config : Config
  directory : Directory
  transport : Loopback
  events : EventQueue
  metrics : Metrics
  fanout : Fanout
  throttle : Throttle
  window : Window
  purges : List Purge
  latestReport : Option Report
  tickCount : Nat
  deriving DecidableEq

namespace Relay

/-- A relay to which nobody has connected. The windows of its reports last as many
passes as there are in a second. -/
def new (config : Config) (seed : UInt64) : Relay where
  config := config
  directory := Directory.empty
  transport := default
  events := EventQueue.empty
  metrics := Metrics.new
  fanout := Fanout.ofSeed config.fanoutSettings seed
  throttle := Throttle.new config.tickRate
  window := Window.new config.tickRate
  purges := []
  latestReport := none
  tickCount := 0

def withTransport (relay : Relay) (transport : Loopback) : Relay :=
  { relay with transport := transport }

/-- The sessions, of some identifiers, that are connected and have client data: those
whose data can be in use. -/
def sessionsWithData (relay : Relay) (ids : List PeerId) : List SessionKey :=
  ids.filterMap fun id =>
    ((relay.directory.find? id).filter (·.client.isSome)).map Peer.key

end Relay

end AvatarRelay
