/-
# Metrics

Gauges and running totals of a relay, all in counts of eight bytes that wrap
around, with the times of the latest ticks and the latest report.
-/

import AvatarRelay.Count
import AvatarRelay.Stats.Window

namespace AvatarRelay

structure Metrics where
  peers : UInt64
  agents : UInt64
  disconnects : UInt64
  /-- Times of ticks in microseconds: the latest, two percentiles, the largest. -/
  tickMicros : UInt64
  tickMicros95 : UInt64
  tickMicros99 : UInt64
  tickMicrosMax : UInt64
  tickCount : UInt64
  /-- The throttling ratio in thousandths. -/
  throttleMilli : UInt64
  /-- The idle share in hundredths of a percent. -/
  sleepCenti : UInt64
  /-- Receivers served on the last pass. -/
  listeners : UInt64
  avatarsSent : UInt64
  identityPackets : UInt64
  heldBack : UInt64
  skipped : UInt64
  outOfOrder : UInt64
  contended : UInt64
  mutedByBubble : UInt64
  sendFailures : UInt64
  packetsReceived : UInt64
  bytesReceived : UInt64
  bytesSent : UInt64
  decodeErrors : UInt64
  staleUpdates : UInt64
  /-- Times of the latest ticks, oldest first. -/
  tickHistory : List Nat
  /-- The latest report as text. -/
  latestReport : String
  deriving DecidableEq, Repr

namespace Metrics

/-- Metrics before anything happened: fully idle, and an empty report. -/
def new : Metrics where
  peers := 0
  agents := 0
  disconnects := 0
  tickMicros := 0
  tickMicros95 := 0
  tickMicros99 := 0
  tickMicrosMax := 0
  tickCount := 0
  throttleMilli := 0
  sleepCenti := 10000
  listeners := 0
  avatarsSent := 0
  identityPackets := 0
  heldBack := 0
  skipped := 0
  outOfOrder := 0
  contended := 0
  mutedByBubble := 0
  sendFailures := 0
  packetsReceived := 0
  bytesReceived := 0
  bytesSent := 0
  decodeErrors := 0
  staleUpdates := 0
  tickHistory := []
  latestReport := "\x7b\x7d"

instance : Inhabited Metrics := ⟨new⟩

def maxHistory : Nat := 1000

/-- Times that must be kept before percentiles are worked out. -/
def minHistory : Nat := 10

/-- The history with one more time, without the oldest if it grew too long. -/
def extendHistory (history : List Nat) (micros : Nat) : List Nat :=
  let history := history ++ [micros]
  history.drop (history.length - maxHistory)

/-- Records the time of a tick and works out the percentiles anew. -/
def recordTickTime (metrics : Metrics) (duration : Duration) : Metrics :=
  let micros := Duration.inMicros duration % UInt64.size
  let history := extendHistory metrics.tickHistory micros
  let metrics :=
    { metrics with
      tickMicros := UInt64.ofNat micros
      tickCount := metrics.tickCount + 1
      tickHistory := history }
  if history.length < minHistory then metrics
  else
    let sorted := history.mergeSort
    { metrics with
      tickMicros95 := UInt64.ofNat (percentile 0.95 sorted)
      tickMicros99 := UInt64.ofNat (percentile 0.99 sorted)
      tickMicrosMax := UInt64.ofNat (sorted.getLast?.getD 0) }

/-- Adds the counters of a pass to the totals; receivers are those of this pass. -/
def recordPass (metrics : Metrics) (counters : Counters) : Metrics :=
  { metrics with
    listeners := counters.listeners
    avatarsSent := metrics.avatarsSent + counters.avatarsSent
    identityPackets := metrics.identityPackets + counters.identityPackets
    heldBack := metrics.heldBack + counters.heldBack
    skipped := metrics.skipped + counters.skipped
    outOfOrder := metrics.outOfOrder + counters.outOfOrder
    contended := metrics.contended + counters.contended
    mutedByBubble := metrics.mutedByBubble + counters.mutedByBubble
    sendFailures := metrics.sendFailures + counters.sendFailures
    bytesSent := metrics.bytesSent + counters.bytesSent }

/-- Sets the throttling ratio and the idle percentage, each brought into range and
rounded to its unit. -/
def setThrottle (metrics : Metrics) (ratio sleepPercent : Binary32) : Metrics :=
  { metrics with
    throttleMilli := UInt64.ofNat (ratio.clamp 0 1 * 1000).roundNat
    sleepCenti := UInt64.ofNat (sleepPercent.clamp 0 100 * 100).roundNat }

def throttlingRatio (metrics : Metrics) : Binary32 :=
  Binary32.ofNat metrics.throttleMilli.toNat / 1000

def sleepPercent (metrics : Metrics) : Binary32 :=
  Binary32.ofNat metrics.sleepCenti.toNat / 100

def publish (metrics : Metrics) (report : Report) : Metrics :=
  { metrics with latestReport := report.toJson }

end Metrics

end AvatarRelay
