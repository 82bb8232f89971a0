/-
# Self-throttling

The throttle follows how much of each tick's budget the relay spends idle. When the
trailing share falls below a tenth, the throttling ratio moves halfway to one; when
it rises above a fifth, the ratio steps back down. Both moves are limited to one in
a hundred ticks and are published for other tasks to read.
-/

import AvatarRelay.Clock
import AvatarRelay.Count
import AvatarRelay.Binary32.Text

namespace AvatarRelay

inductive ThrottleMove
  /-- Too little idle time: the ratio rose. -/
  | struggling (start finish : Binary32)
  /-- Idle time to spare: the ratio fell. -/
  | recovering (start finish : Binary32)
  deriving DecidableEq, Repr

/-- Follows the slack of ticks and works out the throttling ratio. -/
structure Throttle where
  /-- The time that one tick may take. -/
  budget : Duration
  /-- The trailing average of the idle share. -/
  trailing : Binary32
  /-- The throttling ratio, between zero and one. -/
  ratio : Binary32
  ticksSinceMove : UInt32
  /-- The ratio as other tasks read it. -/
  published : Binary32
  /-- Busy times of the latest ticks, oldest first. -/
  busyTimes : List Duration
  /-- When the tick under way began. -/
  started : Option Instant
  deriving DecidableEq, Repr

namespace Throttle

-- The zero of a sum is that of the numerals, whatever other instances are in scope.
attribute [local instance (2000)] Zero.ofOfNat0

/-- Ticks that the trailing average spans, and that must lie between two moves. -/
def averageTicks : UInt32 := 100

def latestWeight : Binary32 := 1 / Binary32.ofNat 100

def earlierWeight : Binary32 := 1 - latestWeight

/-- Below this trailing share the relay is struggling. -/
def struggleBelow : Binary32 := 0.10

/-- Above this trailing share the relay may recover. -/
def recoverAbove : Binary32 := 0.20

/-- How far the ratio falls in one recovery. -/
def recoveryStep : Binary32 := 0.02

def maxBusyTimes : Nat := 120

/-- A throttle for a number of ticks per second; a rate of zero counts as one. It
starts as if the relay had always been idle, and may move at once. -/
def new (tickRate : UInt32) : Throttle where
  budget := Duration.ofSeconds (1 / Binary32.ofNat (max tickRate.toNat 1))
  trailing := 1
  ratio := 0
  ticksSinceMove := averageTicks
  published := 0
  busyTimes := []
  started := none

/-- The ordinary tick rate is sixty. -/
instance : Inhabited Throttle := ⟨new 60⟩

/-- The move that the trailing average calls for. -/
def move? (throttle : Throttle) : Option ThrottleMove :=
  if throttle.ticksSinceMove < averageTicks then none
  else if throttle.trailing < struggleBelow then
    some (.struggling throttle.ratio (throttle.ratio + 0.5 * (1 - throttle.ratio)))
  else if recoverAbove < throttle.trailing && 0 < throttle.ratio then
    some (.recovering throttle.ratio ((throttle.ratio - recoveryStep).max 0))
  else none

def moveTo (throttle : Throttle) (ratio : Binary32) : Throttle :=
  { throttle with ratio := ratio, published := ratio, ticksSinceMove := 0 }

def update (throttle : Throttle) (idleShare : Binary32) : Throttle × Option ThrottleMove :=
  let throttle :=
    { throttle with
      trailing := earlierWeight * throttle.trailing + latestWeight * idleShare }
  match throttle.move? with
  | some (.struggling start finish) =>
    (throttle.moveTo finish, some (.struggling start finish))
  | some (.recovering start finish) =>
    (throttle.moveTo finish, some (.recovering start finish))
  | none =>
    ({ throttle with ticksSinceMove := countUp throttle.ticksSinceMove }, none)

def idleShare (throttle : Throttle) (idle : Duration) : Binary32 :=
  if throttle.budget = 0 then 0
  else (Duration.inSeconds idle / Duration.inSeconds throttle.budget).clamp 0 1

/-- Takes in the idle time of one tick. -/
def tick (throttle : Throttle) (idle : Duration) : Throttle :=
  (throttle.update (throttle.idleShare idle)).1

def tickStart (throttle : Throttle) (now : Instant) : Throttle :=
  { throttle with started := some now }

/-- Ends the tick under way: the budget less its busy time was idle. Without a tick
under way nothing happens. -/
def tickEnd (throttle : Throttle) (now : Instant) : Throttle :=
  match throttle.started with
  | none => throttle
  | some start =>
    let busy := Duration.between start now
    let times := throttle.busyTimes ++ [busy]
    let kept := times.drop (times.length - maxBusyTimes)
    { throttle with started := none, busyTimes := kept }.tick (throttle.budget - busy)

def trailingPercent (throttle : Throttle) : Binary32 :=
  throttle.trailing * 100

/-- The average busy time, zero if no tick was timed. -/
def averageBusy (throttle : Throttle) : Duration :=
  throttle.busyTimes.sum / throttle.busyTimes.length

/-- The busy time that 95 percent of ticks stay within, zero if none was timed. -/
def busyPercentile (throttle : Throttle) : Duration :=
  percentile 0.95 throttle.busyTimes.mergeSort

def budgetPercent (throttle : Throttle) : Binary32 :=
  Duration.inSeconds throttle.averageBusy / Duration.inSeconds throttle.budget * 100

/-- One line on the state of the throttle. -/
def statusMessage (throttle : Throttle) : String :=
  "throttle " ++ throttle.ratio.fixed 2
    ++ ", sleeping " ++ throttle.trailingPercent.fixed 1
    ++ "%, " ++ throttle.budgetPercent.fixed 1 ++ "% budget"

end Throttle

end AvatarRelay
