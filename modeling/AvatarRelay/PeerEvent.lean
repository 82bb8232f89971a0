/-
# Events in the lives of peers

Connections report what happens to sessions without waiting; the relay takes up
everything that was reported at the beginning of its next tick, in order.
-/

import AvatarRelay.Packet
import AvatarRelay.Peer.Basic

namespace AvatarRelay

/-- Something that happened to a session between ticks. -/
inductive PeerEvent
  /-- The connection was lost. -/
  | disconnected (key : SessionKey)
  /-- The peer asked for its avatar to be removed. -/
  | killRequested (key : SessionKey)
  /-- The identifier connected again before this session was removed. -/
  | replaced (key : SessionKey)
  deriving DecidableEq

namespace PeerEvent

def key : PeerEvent → SessionKey
  | disconnected key | killRequested key | replaced key => key

/-- The reason that the remaining avatars are told, or `none` if the identifier is
still connected in a newer session. -/
def killReason? : PeerEvent → Option KillReason
  | disconnected _ => some .disconnected
  | killRequested _ => some .noReason
  | replaced _ => none

end PeerEvent

/-- Events that were reported and not yet taken up. A closed queue takes none. -/
structure EventQueue where
  pending : List PeerEvent
  closed : Bool
  deriving DecidableEq

inductive ReportError
  /-- The relay has shut down. -/
  | closed
  deriving DecidableEq, Repr

namespace ReportError

def message : ReportError → String
  | closed => "Peer event queue is closed"

end ReportError

namespace EventQueue

def empty : EventQueue := ⟨[], false⟩

instance : Inhabited EventQueue := ⟨empty⟩

def push (queue : EventQueue) (event : PeerEvent) : EventQueue :=
  { queue with pending := queue.pending ++ [event] }

/-- Reports an event from a connection. -/
def report (queue : EventQueue) (event : PeerEvent) : Except ReportError EventQueue :=
  if queue.closed then .error .closed else .ok (queue.push event)

/-- Everything reported since the last time, and the queue without it. -/
def drain (queue : EventQueue) : List PeerEvent × EventQueue :=
  (queue.pending, { queue with pending := [] })

def close (_queue : EventQueue) : EventQueue := ⟨[], true⟩

end EventQueue

end AvatarRelay
