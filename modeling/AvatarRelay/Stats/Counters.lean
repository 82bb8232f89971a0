/-
# Counters of a pass

What one pass over all receivers did, in ten counts of eight bytes each that wrap
around. Counters of several passes add up field by field.
-/

namespace AvatarRelay

/-- Counts of one pass, or of several added up. -/
structure Counters where
  /-- Receivers that were served. -/
  listeners : UInt64
  identityPackets : UInt64
  avatarsSent : UInt64
  heldBack : UInt64
  skipped : UInt64
  outOfOrder : UInt64
  /-- Receivers or candidates left out because their data was in use. -/
  contended : UInt64
  mutedByBubble : UInt64
  bytesSent : UInt64
  sendFailures : UInt64
  deriving DecidableEq, Repr

namespace Counters

def zero : Counters := ⟨0, 0, 0, 0, 0, 0, 0, 0, 0, 0⟩

instance : Inhabited Counters := ⟨zero⟩

/-- The counts of two passes together. -/
protected def add (first second : Counters) : Counters where
  listeners := first.listeners + second.listeners
  identityPackets := first.identityPackets + second.identityPackets
  avatarsSent := first.avatarsSent + second.avatarsSent
  heldBack := first.heldBack + second.heldBack
  skipped := first.skipped + second.skipped
  outOfOrder := first.outOfOrder + second.outOfOrder
  contended := first.contended + second.contended
  mutedByBubble := first.mutedByBubble + second.mutedByBubble
  bytesSent := first.bytesSent + second.bytesSent
  sendFailures := first.sendFailures + second.sendFailures

instance : Add Counters := ⟨Counters.add⟩

/-- The counters with their names in reports, in the order of reports. -/
def named (counters : Counters) : List (String × UInt64) :=
  [("listeners", counters.listeners),
   ("identity_packets", counters.identityPackets),
   ("avatars_sent", counters.avatarsSent),
   ("held_back", counters.heldBack),
   ("skipped", counters.skipped),
   ("out_of_order", counters.outOfOrder),
   ("mutex_misses", counters.contended),
   ("muted_by_bubble", counters.mutedByBubble),
   ("bytes_sent", counters.bytesSent),
   ("send_failures", counters.sendFailures)]

end Counters

end AvatarRelay
