/-
# Measured data rates

A meter adds up bytes in windows of a given length, in a count of eight bytes that
wraps around, and reports the rate of the last window that was completed. Windows are
closed by calls: the first call opens one, and the first call that comes at least a
window's length later closes it and opens the next.
-/

import AvatarRelay.Clock

namespace AvatarRelay

/-- A byte counter that reports the rate of the last completed window. -/
structure RateMeter where
  window : Duration
  /-- When the open window began, once there was a call. -/
  opened : Option Instant
  /-- Bytes recorded in the open window; the count wraps around. -/
  bytes : UInt64
  /-- Kilobits per second over the last completed window. -/
  lastKbps : Binary32
  deriving DecidableEq, Repr

namespace RateMeter

def new (window : Duration) : RateMeter where
  window := window
  opened := none
  bytes := 0
  lastKbps := 0

/-- Rates are measured over a second. -/
instance : Inhabited RateMeter := ⟨new Duration.second⟩

def kbpsOver (bytes : UInt64) (elapsed : Duration) : Binary32 :=
  Binary32.ofNat bytes.toNat * 8 / 1000 / Duration.inSeconds elapsed

/-- Opens the first window, or closes one that has lasted long enough. -/
def roll (meter : RateMeter) (now : Instant) : RateMeter :=
  match meter.opened with
  | none => { meter with opened := some now }
  | some start =>
    let elapsed := Duration.between start now
    if meter.window ≤ elapsed then
      { meter with
        lastKbps := kbpsOver meter.bytes elapsed
        bytes := 0
        opened := some now }
    else meter

/-- Adds bytes to the window that is open after rolling. -/
def record (meter : RateMeter) (bytes : Nat) (now : Instant) : RateMeter :=
  let rolled := meter.roll now
  { rolled with bytes := rolled.bytes + UInt64.ofNat bytes }

end RateMeter

end AvatarRelay
