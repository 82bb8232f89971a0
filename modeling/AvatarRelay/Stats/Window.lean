/-
# Reports on windows of passes

The counters of all passes in a window are summed. A completed window yields one
report and the next begins from nothing, so no pass is counted twice.
-/

import AvatarRelay.Client.Basic
import AvatarRelay.Stats.Counters
import AvatarRelay.Binary32.Text

namespace AvatarRelay

structure Report where
  passes : UInt32
  averageListeners : Binary32
  averageIdentityPackets : Binary32
  trailingSleepPercent : Binary32
  throttlingRatio : Binary32
  peers : Nat
  totals : Counters
  /-- Figures of the avatars that could be read. -/
  avatars : PeerMap AvatarFigures
  deriving DecidableEq

/-- Sums counters until a window is complete. -/
structure Window where
  passesPerWindow : UInt32
  passes : UInt32
  totals : Counters
  deriving DecidableEq, Repr

namespace Window

/-- An empty window of the given length, which is at least one pass. -/
def new (passesPerWindow : UInt32) : Window :=
  ⟨max passesPerWindow 1, 0, Counters.zero⟩

/-- The ordinary window has sixty passes. -/
instance : Inhabited Window := ⟨new 60⟩

def record (window : Window) (counters : Counters) : Window :=
  { window with passes := window.passes + 1, totals := window.totals + counters }

def isComplete (window : Window) : Bool :=
  window.passesPerWindow ≤ window.passes

/-- An average over the passes of a window; without any pass, over one. -/
def average (window : Window) (total : UInt64) : Binary32 :=
  Binary32.ofNat total.toNat / Binary32.ofNat (max window.passes 1).toNat

/-- The report on the window so far, and the window that begins after it. -/
def report (window : Window) (trailingSleepPercent throttlingRatio : Binary32)
    (peers : Nat) : Report × Window :=
  ({ passes := window.passes
     averageListeners := window.average window.totals.listeners
     averageIdentityPackets := window.average window.totals.identityPackets
     trailingSleepPercent := trailingSleepPercent
     throttlingRatio := throttlingRatio
     peers := peers
     totals := window.totals
     avatars := ∅ },
   { window with passes := 0, totals := Counters.zero })

end Window

private def objectText (members : List (String × String)) : String :=
  let written := members.map fun (name, value) => "\"" ++ name ++ "\":" ++ value
  "\x7b" ++ ",".intercalate written ++ "\x7d"

namespace Counters

def toJson (counters : Counters) : String :=
  objectText (counters.named.map fun (name, count) => (name, toString count.toNat))

end Counters

namespace AvatarFigures

def toJson (figures : AvatarFigures) : String :=
  let number := Binary32.text Binary32.Style.report
  objectText
    [("outbound_avatar_data_kbps", number figures.outboundKbps),
     ("inbound_kbps", number figures.inboundKbps),
     ("full_rate_distance", number figures.fullRateDistance),
     ("max_avatar_distance", number figures.farthest),
     ("num_avatars_sent_last_frame", toString figures.sentLastPass),
     ("num_held_back_last_frame", toString figures.heldBackLastPass),
     ("num_skipped_last_frame", toString figures.skippedLastPass),
     ("total_num_out_of_order", toString figures.outOfOrderTotal),
     ("stale_updates_dropped", toString figures.staleUpdates),
     ("muted_by_bubble", toString figures.muted)]

end AvatarFigures

namespace Report

def toJson (report : Report) : String :=
  let number := Binary32.text Binary32.Style.report
  objectText
    [("frames", toString report.passes.toNat),
     ("average_listeners_last_second", number report.averageListeners),
     ("average_identity_packets_per_frame", number report.averageIdentityPackets),
     ("trailing_sleep_percentage", number report.trailingSleepPercent),
     ("performance_throttling_ratio", number report.throttlingRatio),
     ("peers", toString report.peers),
     ("totals", report.totals.toJson),
     ("avatars", objectText (report.avatars.toList.map fun (id, figures) =>
       (id.toString, figures.toJson)))]

end Report

end AvatarRelay
