/-
# Sequence numbers

Each avatar stamps its updates with a number of sixteen bits that wraps around:
65535 is followed by 0. For every pair of receiver and sender the relay remembers
the number it forwarded last and compares it with the sender's latest.
-/

namespace AvatarRelay

/-- The number of an update, counted modulo `2 ^ 16`. -/
abbrev SequenceNumber := UInt16

namespace Sequence

/-- Steps from one number forward to another. -/
def distance (start finish : SequenceNumber) : UInt16 :=
  finish - start

/-- The first number lies ahead of the second by less than half the circle. -/
def newer (first second : SequenceNumber) : Bool :=
  let ahead := distance second first
  ahead != 0 && ahead < 0x8000

/-- What to do about a receiver that was last sent one number when the sender has
produced another. -/
inductive Standing
  /-- The receiver has this very update; nothing is sent. -/
  | heldBack
  /-- Sent, though updates in between never reached the receiver. -/
  | gap
  /-- Sent. -/
  | normal
  deriving DecidableEq, Repr

namespace Standing

def sends : Standing → Bool
  | heldBack => false
  | gap | normal => true

end Standing

/-- The standing of a pair. A receiver that was sent nothing counts as having been
sent zero, so zero itself is never held back. -/
def standing (sent produced : SequenceNumber) : Standing :=
  if sent = produced && sent != 0 then .heldBack
  else if 1 < distance sent produced then .gap
  else .normal

/-- The receiver was sent a number above the sender's latest. The largest number
is exempt, since wrapping past it is the ordinary course. -/
def outOfOrder (sent produced : SequenceNumber) : Bool :=
  produced < sent && sent != 65535

end Sequence

end AvatarRelay
