/-
# Saturating counts and percentiles

Two small rules that several controllers share: a count of four bytes that stays
at the largest value, and the place of a percentile in a sorted list.
-/

import AvatarRelay.Binary32.Arithmetic

namespace AvatarRelay

/-- The next count, staying at the largest one. -/
def countUp (count : UInt32) : UInt32 :=
  if count = 0xffffffff then count else count + 1

/-- The place of a percentile in a sorted list of the given length: the share of
the length, rounded down, but at most the last place. -/
def percentilePlace (share : Binary32) (length : Nat) : Nat :=
  min (Binary32.ofNat length * share).floorNat (length - 1)

def percentile (share : Binary32) (sorted : List Nat) : Nat :=
  sorted.getD (percentilePlace share sorted.length) 0

end AvatarRelay
