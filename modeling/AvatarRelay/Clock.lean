/-
# Instants and durations

Time is counted in whole nanoseconds. An instant is a count from a fixed base, a
duration a difference of instants. Rates are worked out in single precision, so a
duration has a value in seconds of that kind, and tick budgets come back from
fractions of a second rounded to the nearest nanosecond.
-/

import AvatarRelay.Binary32.Arithmetic

namespace AvatarRelay

/-- Nanoseconds since a fixed base instant. -/
abbrev Instant := Nat

abbrev Duration := Nat

def nanosPerSecond : Nat := 1000000000

namespace Duration

-- Powers are those of the core library, whatever other instances are in scope.
attribute [local instance (2000)] instPowNat

def second : Duration := nanosPerSecond

/-- The time from an earlier to a later instant; zero if the order is reversed. -/
def between (start finish : Instant) : Duration :=
  finish - start

/-- The value in seconds: whole seconds and the rest are converted apart, and each
conversion, the division and the sum round once. -/
def inSeconds (duration : Duration) : Binary32 :=
  Binary32.ofNat (duration / nanosPerSecond)
    + Binary32.ofNat (duration % nanosPerSecond) / Binary32.ofNat nanosPerSecond

/-- The nanosecond nearest to a non-negative finite number of seconds; a tie goes
to the even one. -/
def ofSeconds (seconds : Binary32) : Duration :=
  Binary32.roundDiv (seconds.units * nanosPerSecond) (2 ^ Binary32.unitPlaces)

def inMicros (duration : Duration) : Nat :=
  duration / 1000

end Duration

end AvatarRelay
