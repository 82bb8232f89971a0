/-
# A simulated crowd

Wandering avatars that reach a relay the way clients do: they connect, send packets
and disconnect. Each walks at its own speed, takes a new direction every few
seconds, and turns back to the middle at the edge of the place. With some chance a
step has one of them leave and a new one join.
-/

import AvatarRelay.Relay.Ingestion

namespace AvatarRelay

structure Personality where
  /-- Meters per second. -/
  speed : Binary32
  /-- Shy wanderers have their bubble on. -/
  shy : Bool
  deriving DecidableEq, Repr

namespace Personality

/-- One wanderer in five is shy. -/
def shyness : BinaryFraction := BinaryFraction.nearest 1 5

def draw (attempts : Nat) (random : Random) : Personality × Random :=
  let (speed, random) := random.between attempts 0.5 2.5
  let (shy, random) := random.happens shyness
  (⟨speed, shy⟩, random)

end Personality

structure Wanderer where
  key : SessionKey
  position : Vec3
  heading : Vec3
  /-- Seconds until the next change of direction. -/
  timer : Binary32
  /-- The number of the latest update. -/
  number : SequenceNumber
  /-- Seconds on the wanderer's own clock, which swings its limbs. -/
  phase : Binary32
  personality : Personality
  deriving DecidableEq

structure Crowd where
  wanderers : List Wanderer
  random : Random
  /-- How often a draw is attempted before it settles for its lowest answer. -/
  attempts : Nat
  /-- The chance for each step that one leaves and another joins. -/
  churn : BinaryFraction
  deriving DecidableEq

namespace Wanderer

def placeRadius : Binary32 := 60

def jointCount : Nat := 24

/-- Seconds between changes of direction, on average. -/
def decisionInterval : Binary32 := 3

def fullCircle : Binary32 := 6.2831855

/-- The joint with an index: every sixth swings, the others rest. -/
def joint (phase : Binary32) (index : Nat) : Joint :=
  let swing := if index % 6 = 0 then (phase * 2).sin * (0.5 : Binary32) else 0
  ⟨Quat.aboutAxis Vec3.up swing, ⟨0, Binary32.ofNat index * (0.07 : Binary32), 0⟩⟩

/-- The pose that a wanderer reports. It faces where it is heading. -/
def pose (wanderer : Wanderer) : Pose where
  position := wanderer.position
  orientation :=
    Quat.aboutAxis Vec3.up (Binary32.direction wanderer.heading.x wanderer.heading.z)
  scale := 1
  corner := some (wanderer.position - ⟨0.25, 0, 0.25⟩)
  joints := (List.range jointCount).map (joint wanderer.phase)

def turn (wanderer : Wanderer) (attempts : Nat) (random : Random) : Wanderer × Random :=
  let (angle, random) := random.between attempts 0 fullCircle
  let (variation, random) := random.between attempts (-0.2) 0.2
  ({ wanderer with
      heading := ⟨angle.cos, 0, angle.sin⟩
      timer := decisionInterval * (1 + variation) },
    random)

/-- Takes a new direction if the timer has run out. -/
def decide (wanderer : Wanderer) (elapsed : Binary32) (attempts : Nat) (random : Random) :
    Wanderer × Random :=
  let wanderer := { wanderer with timer := wanderer.timer - elapsed }
  if wanderer.timer ≤ 0 then wanderer.turn attempts random else (wanderer, random)

/-- Walks on, and turns to the middle when outside the place. -/
def walk (wanderer : Wanderer) (elapsed : Binary32) : Wanderer :=
  let position :=
    wanderer.position + wanderer.heading * (wanderer.personality.speed * elapsed)
  { wanderer with
    position := position
    heading := if placeRadius < position.length then (-position).normalize else wanderer.heading
    phase := wanderer.phase + elapsed
    number := wanderer.number + 1 }

def packet (wanderer : Wanderer) : InboundPacket :=
  .avatarData wanderer.number wanderer.pose

end Wanderer

namespace Crowd

def empty (seed : UInt64) (attempts : Nat) (churn : BinaryFraction) : Crowd :=
  ⟨[], Random.ofSeed seed, attempts, churn⟩

def send (relay : Relay) (id : PeerId) (packet : InboundPacket) (now : Instant) : Relay :=
  (relay.receive id (InboundPacket.format.write packet) now).2

def drawNameNumber (attempts : Nat) (random : Random) : Nat × Random :=
  let (offset, random) := random.below32 attempts 8999
  (1000 + offset, random)

/-- One more wanderer joins under a fresh identifier, at a random place. -/
def join (crowd : Crowd) (relay : Relay) (id : PeerId) (now : Instant) : Crowd × Relay :=
  let attempts := crowd.attempts
  let (angle, random) := crowd.random.between attempts 0 Wanderer.fullCircle
  let (radius, random) := random.between attempts 0 Wanderer.placeRadius
  let (personality, random) := Personality.draw attempts random
  let (peer, relay) := relay.connect id .agent
  let relay := relay.withTransport (relay.transport.setAddress id true)
  let relay := relay.modifyPeer id (·.setBubble personality.shy)
  let (name, random) := drawNameNumber attempts random
  let relay :=
    send relay id (.avatarIdentity (Identity.named ("Wanderer" ++ toString name))) now
  let (phase, random) := random.between attempts 0 Wanderer.fullCircle
  let wanderer : Wanderer :=
    { key := peer.key
      position := ⟨angle.cos * radius, 0, angle.sin * radius⟩
      heading := Vec3.zero
      timer := 0
      number := 0
      phase := phase
      personality := personality }
  ({ crowd with wanderers := crowd.wanderers ++ [wanderer], random := random }, relay)

/-- A crowd of which one member joins under each of some fresh identifiers, each at an
instant of its own. -/
def spawn (relay : Relay) (ids : List PeerId) (seed : UInt64) (attempts : Nat)
    (churn : BinaryFraction) (joined : PeerId → Instant) : Crowd × Relay :=
  ids.foldl (fun (crowd, relay) id => crowd.join relay id (joined id))
    (empty seed attempts churn, relay)

/-- The list without the entry at a place, which the last entry takes. -/
def removeAt (wanderers : List Wanderer) (place : Nat) : List Wanderer :=
  match wanderers.getLast? with
  | none => []
  | some last =>
    if place + 1 = wanderers.length then wanderers.dropLast
    else wanderers.dropLast.set place last

def leave (crowd : Crowd) (relay : Relay) : Crowd × Relay :=
  if crowd.wanderers.isEmpty then (crowd, relay)
  else
    let (place, random) := crowd.random.below64 crowd.attempts crowd.wanderers.length
    match crowd.wanderers[place]? with
    | none => ({ crowd with random := random }, relay)
    | some wanderer =>
      let relay := relay.disconnect wanderer.key
      let relay := relay.withTransport (relay.transport.forget wanderer.key.id)
      ({ crowd with wanderers := removeAt crowd.wanderers place, random := random }, relay)

/-- With the crowd's chance, one wanderer leaves and another joins. -/
def exchange (crowd : Crowd) (relay : Relay) (fresh : PeerId) (now : Instant) :
    Crowd × Relay :=
  if crowd.churn.significand = 0 then (crowd, relay)
  else
    let (happens, random) := crowd.random.happens crowd.churn
    let crowd := { crowd with random := random }
    if happens then
      let (crowd, relay) := crowd.leave relay
      crowd.join relay fresh now
    else (crowd, relay)

def advance (elapsed : Binary32) (attempts : Nat) (reported : PeerId → Instant)
    (state : List Wanderer × Random × Relay) (wanderer : Wanderer) :
    List Wanderer × Random × Relay :=
  let (moved, random, relay) := state
  let (wanderer, random) := wanderer.decide elapsed attempts random
  let wanderer := wanderer.walk elapsed
  let id := wanderer.key.id
  (moved ++ [wanderer], random, send relay id wanderer.packet (reported id))

/-- One step of the given number of seconds: perhaps an exchange, then everyone moves
and reports. Who may join does so under the fresh identifier, and each packet is taken
in at an instant of its own. -/
def step (crowd : Crowd) (relay : Relay) (fresh : PeerId) (elapsed : Binary32)
    (joined : Instant) (reported : PeerId → Instant) : Crowd × Relay :=
  let (crowd, relay) := crowd.exchange relay fresh joined
  let (wanderers, random, relay) :=
    crowd.wanderers.foldl (advance elapsed crowd.attempts reported) ([], crowd.random, relay)
  ({ crowd with wanderers := wanderers, random := random }, relay)

end Crowd

end AvatarRelay
