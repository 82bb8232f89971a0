/-
# One pass over all avatars

Every receiver is served in turn: its full rate distance is adjusted, it visits all
candidates, and what came of the visits is sent, identities first and then one
batch. A receiver whose data is in use is left out. When all were served, every
avatar takes the snapshot that later updates are compared with.
-/

import AvatarRelay.Fanout.Visit

namespace AvatarRelay

/-- The state that passes share: tunables, chance, and when the last pass was. -/
structure Fanout where
  settings : FanoutSettings
  random : Random
  lastPass : Option Instant
  deriving DecidableEq

/-- What a pass changes as it goes from receiver to receiver. -/
structure PassState where
  directory : Directory
  transport : Loopback
  random : Random
  counters : Counters
  deriving DecidableEq

namespace PassState

/-- Hands over a packet and counts it; a refusal is counted and nothing else. The
answer is the size of a packet that was taken. -/
def send (state : PassState) (destination : PeerId) (packet : OutboundPacket) :
    Option Nat × PassState :=
  match state.transport.send destination packet with
  | .ok (bytes, transport) =>
    (some bytes,
      { state with
        transport := transport
        counters :=
          { state.counters with
            bytesSent := state.counters.bytesSent + UInt64.ofNat bytes } })
  | .error _ =>
    (none,
      { state with
        counters :=
          { state.counters with sendFailures := state.counters.sendFailures + 1 } })

def sendIdentities (state : PassState) (destination : PeerId) (packets : List OutboundPacket) :
    PassState :=
  packets.foldl (fun state packet => (state.send destination packet).2)
    { state with
      counters :=
        { state.counters with
          identityPackets := state.counters.identityPackets + UInt64.ofNat packets.length } }

/-- Hands over a batch unless it is empty, and measures it for the receiver. -/
def sendBatch (state : PassState) (destination : PeerId) (batch : Batch) (now : Instant)
    (receiver : Receiver) : Receiver × PassState :=
  let state :=
    { state with
      counters :=
        { state.counters with
          avatarsSent := state.counters.avatarsSent + UInt64.ofNat batch.size } }
  if batch.isEmpty then (receiver, state)
  else
    match state.send destination (.bulkAvatarData batch) with
    | (some bytes, state) => (receiver.recordSent bytes now, state)
    | (none, state) => (receiver, state)

/-- Writes back what a pass changed of a receiver, and counts it as served. -/
def finish (state : PassState) (id : PeerId) (receiver : Receiver) : PassState :=
  { state with
    directory := state.directory.modifyClient id (·.mapReceiver fun _ => receiver)
    counters := { state.counters with listeners := state.counters.listeners + 1 } }

end PassState

namespace Receiver

/-- A receiver at the beginning of its turn: figures cleared, meter brought up to
now, full rate distance adjusted. -/
def prepare (receiver : Receiver) (controller : RateController) (now : Instant) : Receiver :=
  let receiver := receiver.beginPass.rollMeter now
  (controller.step receiver receiver.meter.lastKbps).1

/-- Notes the farthest candidate. With none in sight, every limit is lifted. -/
def noteFarthest (receiver : Receiver) (farthest : Option Binary32) : Receiver :=
  match farthest with
  | some distance => { receiver with farthest := distance }
  | none =>
    { receiver with farthest := unboundedDistance, fullRateDistance := unboundedDistance }

end Receiver

namespace Fanout

def ofSeed (settings : FanoutSettings) (seed : UInt64) : Fanout :=
  ⟨settings, Random.ofSeed seed, none⟩

def serve (context : PassContext) (audience : List Candidate) (own : Candidate)
    (receiver : Receiver) (state : PassState) : PassState :=
  let prepared := receiver.prepare context.settings.controller context.now
  let visit := audience.foldl (Visit.next context own)
    (Visit.start prepared state.random state.counters)
  let state := { state with random := visit.random, counters := visit.counters }
  let state := state.sendIdentities own.id visit.identities
  let (receiver, state) :=
    state.sendBatch own.id visit.batch context.now (visit.receiver.noteFarthest visit.farthest)
  state.finish own.id receiver

/-- One receiver's turn: left out if its data is in use, else served. -/
def turn (context : PassContext) (audience : List Candidate) (state : PassState)
    (own : Candidate) : PassState :=
  if context.busy own.id then
    { state with
      counters := { state.counters with contended := state.counters.contended + 1 } }
  else
    match state.directory.client? own.id with
    | none => state
    | some client => serve context audience own client.receiver state

/-- Every avatar among some peers whose data is free takes its snapshot. -/
def snapshotAll (busy : PeerId → Bool) (order : List PeerId) (directory : Directory) :
    Directory :=
  order.foldl
    (fun directory id =>
      if busy id then directory
      else directory.modifyClient id fun client =>
        { client with avatar := client.avatar.snapshotJoints })
    directory

/-- One pass at a given instant over some peers in a given order, while the client
data of some of them is in use. -/
def pass (fanout : Fanout) (order : List PeerId) (busy : PeerId → Bool) (now : Instant)
    (directory : Directory) (transport : Loopback) : PassState × Fanout :=
  let context : PassContext := ⟨fanout.settings, fanout.lastPass, now, busy⟩
  let audience := Candidate.gather directory transport order
  let served := audience.foldl (turn context audience)
    ⟨directory, transport, fanout.random, Counters.zero⟩
  ({ served with directory := snapshotAll busy order served.directory },
    { fanout with random := served.random, lastPass := some now })

end Fanout

end AvatarRelay
