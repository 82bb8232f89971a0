/-
# What comes of a packet

Besides what it makes of its sender, a packet has an answer, is counted, and may report an
event. All of that depends on the packet and on its sender as the directory has it, and on
nothing else that the relay holds: so what comes of a packet is given as a record, and taking
the packet in is an equation in that record.
-/

import AvatarRelay.Proofs.Changes

namespace AvatarRelay

/-- What comes of a packet besides what it makes of its sender. -/
structure Receipt where
  answer : Except ReceiveError Unit
  /-- The packet cannot be read. -/
  unreadable : Bool
  /-- The packet is an update that was not taken over. -/
  dropped : Bool
  /-- What it reports for the next tick. -/
  events : List PeerEvent

namespace Receipt

def refused (error : ReceiveError) : Receipt := ⟨.error error, false, false, []⟩

def taken : Receipt := ⟨.ok (), false, false, []⟩

end Receipt

namespace Metrics

def charge (metrics : Metrics) (bytes : Nat) (receipt : Receipt) : Metrics :=
  { metrics with
    packetsReceived := metrics.packetsReceived + 1
    bytesReceived := metrics.bytesReceived + UInt64.ofNat bytes
    decodeErrors := metrics.decodeErrors + if receipt.unreadable then 1 else 0
    staleUpdates := metrics.staleUpdates + if receipt.dropped then 1 else 0 }

theorem charge_comm (metrics : Metrics) (bytes others : Nat) (first second : Receipt) :
    (metrics.charge bytes first).charge others second =
      (metrics.charge others second).charge bytes first := by
  have swap (total one other : UInt64) : total + one + other = total + other + one := by
    rw [UInt64.add_assoc, UInt64.add_comm one, UInt64.add_assoc]
  simp only [charge, swap metrics.bytesReceived, swap metrics.decodeErrors,
    swap metrics.staleUpdates]

end Metrics

namespace Peer

def receipt (bounds : ScaleBounds) (packet : InboundPacket) (bytes : Nat) (now : Instant)
    (peer : Peer) : Receipt :=
  match packet with
  | .avatarData number pose =>
    match peer.client? bounds with
    | none => .refused (.notAnAgent peer.id peer.role)
    | some client =>
      { Receipt.taken with
        dropped := (client.applyUpdate number pose bytes now).2 ≠ .accepted }
  | .avatarIdentity _ =>
    match peer.client? bounds with
    | none => .refused (.notAnAgent peer.id peer.role)
    | some _ => .taken
  | .killAvatar => { Receipt.taken with events := [.killRequested peer.key] }
  | .nodeIgnore .. | .radiusIgnore _ => .taken

theorem key_of_receipt {bounds : ScaleBounds} {packet : InboundPacket} {bytes : Nat}
    {now : Instant} {peer : Peer} {event : PeerEvent}
    (reported : event ∈ (peer.receipt bounds packet bytes now).events) :
    event.key = peer.key := by
  cases packet with
  | avatarData number pose =>
    simp only [receipt] at reported
    split at reported <;> cases reported
  | avatarIdentity identity =>
    simp only [receipt] at reported
    split at reported <;> cases reported
  | killAvatar => rw [List.mem_singleton.mp reported, PeerEvent.key]
  | nodeIgnore others enabled => cases reported
  | radiusIgnore enabled => cases reported

end Peer

namespace Relay

variable (relay : Relay)

def receipt (sender : PeerId) (bytes : Bytes) (now : Instant) : Receipt :=
  match relay.directory.find? sender with
  | none => .refused (.unknownPeer sender)
  | some peer =>
    match InboundPacket.format.decode bytes with
    | .error cause => { Receipt.refused (.unreadable cause) with unreadable := true }
    | .ok packet => peer.receipt relay.config.scaleBounds packet bytes.length now

/-- The relay after what came of a packet was noted, but nothing of its sender changed. -/
def noting (bytes : Nat) (receipt : Receipt) : Relay :=
  { relay with
    metrics := relay.metrics.charge bytes receipt
    events := { relay.events with pending := relay.events.pending ++ receipt.events } }

theorem noting_plain {receipt : Receipt} (bytes : Nat) (read : receipt.unreadable = false)
    (kept : receipt.dropped = false) (silent : receipt.events = []) :
    relay.noting bytes receipt = relay.countPacket bytes := by
  simp [noting, Metrics.charge, countPacket, read, kept, silent]

theorem noting_update (bytes : Nat) (ingestion : Client.Ingestion) :
    relay.noting bytes { Receipt.taken with dropped := ingestion ≠ .accepted } =
      if ingestion = .accepted then relay.countPacket bytes
      else (relay.countPacket bytes).countDropped := by
  split
  · next accepted =>
    exact relay.noting_plain bytes rfl (by simp [accepted]) rfl
  · next refused =>
    simp [noting, Metrics.charge, countPacket, countDropped, Receipt.taken, refused]

theorem noting_event (bytes : Nat) (event : PeerEvent) :
    relay.noting bytes { Receipt.taken with events := [event] } =
      (relay.countPacket bytes).push event := by
  simp [noting, Metrics.charge, countPacket, push, EventQueue.push, Receipt.taken]

theorem noting_unreadable (bytes : Nat) (error : ReceiveError) :
    relay.noting bytes { Receipt.refused error with unreadable := true } =
      (relay.countPacket bytes).countUnreadable := by
  simp [noting, Metrics.charge, countPacket, countUnreadable, Receipt.refused]

/-- A packet that is read has the effect that its receipt tells. -/
theorem applyPacket_spec (peer : Peer) (packet : InboundPacket) (bytes : Nat) (now : Instant) :
    let receipt := peer.receipt relay.config.scaleBounds packet bytes now
    match (relay.countPacket bytes).applyPacket peer packet bytes now with
    | .error error => receipt = .refused error
    | .ok after => receipt.answer = .ok () ∧
        after = { relay.noting bytes receipt with directory := after.directory } := by
  have config : (relay.countPacket bytes).config = relay.config := rfl
  have plain : relay.noting bytes .taken = relay.countPacket bytes :=
    relay.noting_plain bytes rfl rfl rfl
  cases packet with
  | avatarData number pose =>
    simp only [applyPacket, config, Peer.receipt]
    cases peer.client? relay.config.scaleBounds with
    | none => rfl
    | some client =>
      refine ⟨rfl, ?_⟩
      rw [noting_update]
      split <;> rfl
  | avatarIdentity identity =>
    simp only [applyPacket, config, Peer.receipt]
    cases peer.client? relay.config.scaleBounds with
    | none => rfl
    | some client =>
      refine ⟨rfl, ?_⟩
      rw [plain]
      rfl
  | killAvatar =>
    refine ⟨rfl, ?_⟩
    rw [Peer.receipt, noting_event]
  | nodeIgnore others enabled =>
    refine ⟨rfl, ?_⟩
    rw [Peer.receipt, plain]
    rfl
  | radiusIgnore enabled =>
    refine ⟨rfl, ?_⟩
    rw [Peer.receipt, plain]
    rfl

/-- What a packet does: it is answered and noted as its receipt tells, and changes nothing
besides but the directory. -/
theorem receive_spec (sender : PeerId) (bytes : Bytes) (now : Instant) :
    let receipt := relay.receipt sender bytes now
    let after := relay.receive sender bytes now
    after.1 = receipt.answer ∧
      after.2 = { relay.noting bytes.length receipt with directory := after.2.directory } := by
  have refused (error : ReceiveError) :
      relay.noting bytes.length (.refused error) = relay.countPacket bytes.length :=
    relay.noting_plain bytes.length rfl rfl rfl
  have counted : (relay.countPacket bytes.length).directory = relay.directory := rfl
  simp only [receive, receipt, counted]
  cases relay.directory.find? sender with
  | none => exact ⟨rfl, by rw [refused]⟩
  | some peer =>
    cases InboundPacket.format.decode bytes with
    | error cause => exact ⟨rfl, by rw [noting_unreadable]⟩
    | ok packet =>
      have applied := relay.applyPacket_spec peer packet bytes.length now
      dsimp only at applied ⊢
      cases result : (relay.countPacket bytes.length).applyPacket peer packet bytes.length
          now with
      | error error =>
        rw [result] at applied
        rw [show peer.receipt _ packet _ now = .refused error from applied, refused]
        exact ⟨rfl, rfl⟩
      | ok after =>
        rw [result] at applied
        exact ⟨applied.1.symm, applied.2⟩

theorem key_of_receipt (formed : relay.directory.WellFormed) {sender : PeerId} {bytes : Bytes}
    {now : Instant} {event : PeerEvent}
    (reported : event ∈ (relay.receipt sender bytes now).events) : event.key.id = sender := by
  unfold receipt at reported
  split at reported
  · cases reported
  next peer there =>
  split at reported
  · cases reported
  · rw [Peer.key_of_receipt reported]
    exact formed.keyed there

end Relay

end AvatarRelay
