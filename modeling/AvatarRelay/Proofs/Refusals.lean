/-
# Packets without effect

A packet that fails leaves no trace but in three metrics: the relay is as it was with the
packet counted, and with one more unreadable packet if it could not be read. An update that is
dropped leaves the avatar of its sender, its number and all that it remembers; it is measured,
and counted as stale if it was.
-/

import AvatarRelay.Proofs.Receipts

namespace AvatarRelay

def ReceiveError.isUnreadable : ReceiveError → Bool
  | unreadable _ => true
  | unknownPeer _ | notAnAgent _ _ => false

namespace Relay

def countFailure (relay : Relay) (bytes : Nat) (error : ReceiveError) : Relay :=
  { relay with
    metrics :=
      { relay.metrics with
        packetsReceived := relay.metrics.packetsReceived + 1
        bytesReceived := relay.metrics.bytesReceived + UInt64.ofNat bytes
        decodeErrors := relay.metrics.decodeErrors + error.isUnreadable.toUInt64 } }

variable {relay : Relay}

/-- A packet that was read fails only because its sender has no avatar. -/
theorem error_of_applyPacket {peer : Peer} {packet : InboundPacket} {bytes : Nat}
    {now : Instant} {error : ReceiveError}
    (failed : relay.applyPacket peer packet bytes now = .error error) :
    error = .notAnAgent peer.id peer.role := by
  unfold applyPacket at failed
  split at failed
  · split at failed <;> cases failed
    rfl
  · split at failed <;> cases failed
    rfl
  all_goals cases failed

/-- A packet that fails is counted, and leaves everything else as it is. -/
theorem receive_of_error {sender : PeerId} {bytes : Bytes} {now : Instant} {error : ReceiveError}
    (failed : (relay.receive sender bytes now).1 = .error error) :
    (relay.receive sender bytes now).2 = relay.countFailure bytes.length error := by
  have counted (read : error.isUnreadable = false) :
      relay.countPacket bytes.length = relay.countFailure bytes.length error := by
    have same : relay.metrics.decodeErrors + false.toUInt64 = relay.metrics.decodeErrors :=
      UInt64.add_zero _
    rw [countFailure, read, same]
    rfl
  unfold receive at failed ⊢
  dsimp only at failed ⊢
  split at failed
  · cases failed
    exact counted rfl
  split at failed
  · cases failed
    rfl
  split at failed
  · next applied =>
    cases failed
    cases error_of_applyPacket applied
    exact counted rfl
  · cases failed

end Relay

/-- A client that has dropped an update: its bytes are measured, and it is counted if it was
stale. -/
def Client.dropping (client : Client) (number : SequenceNumber) (bytes : Nat) (now : Instant) :
    Client :=
  { client with
    sender :=
      { client.sender with
        meter := client.sender.meter.record bytes now
        staleUpdates :=
          client.sender.staleUpdates + (client.sender.isStale number).toUInt64 } }

namespace Client

variable (client : Client) (number : SequenceNumber) (pose : Pose) (bytes : Nat) (now : Instant)

/-- An update is dropped if it is stale or its pose has to be refused, and is taken over
otherwise. -/
theorem applyUpdate_eq :
    client.applyUpdate number pose bytes now =
      if client.sender.isStale number then (client.dropping number bytes now, .stale)
      else if Avatar.refuses pose then (client.dropping number bytes now, .refused)
      else
        ({ client with
            avatar :=
              { client.avatar with pose := Avatar.sanitize client.avatar.bounds pose }
            sender :=
              { client.sender with
                meter := client.sender.meter.record bytes now
                hasUpdate := true
                latest := number } }, .accepted) := by
  have measured : Sender.isStale
      { client.sender with meter := client.sender.meter.record bytes now } number =
        client.sender.isStale number := rfl
  simp only [applyUpdate, measured, dropping, Avatar.applyPose?]
  cases client.sender.isStale number with
  | true => rfl
  | false =>
    have uncounted : client.sender.staleUpdates + false.toUInt64 = client.sender.staleUpdates :=
      UInt64.add_zero _
    rw [uncounted]
    cases Avatar.refuses pose <;> rfl

/-- An update is not taken over exactly if it is stale or its pose has to be refused. -/
theorem applyUpdate_ne_accepted_iff :
    (client.applyUpdate number pose bytes now).2 ≠ .accepted ↔
      client.sender.isStale number = true ∨ Avatar.refuses pose = true := by
  rw [applyUpdate_eq]
  cases client.sender.isStale number <;> cases Avatar.refuses pose <;> simp

theorem applyUpdate_of_dropped
    (dropped : client.sender.isStale number = true ∨ Avatar.refuses pose = true) :
    (client.applyUpdate number pose bytes now).1 = client.dropping number bytes now := by
  rw [applyUpdate_eq]
  cases stale : client.sender.isStale number with
  | true => rfl
  | false =>
    rw [dropped.resolve_left (by simp [stale])]
    rfl

end Client

namespace Relay

variable {relay : Relay}

section Update

variable {sender : PeerId} {bytes : Bytes} {now : Instant} {number : SequenceNumber} {pose : Pose}
  {peer : Peer} {client : Client}
  (decoded : InboundPacket.format.decode bytes = .ok (.avatarData number pose))
  (there : relay.directory.find? sender = some peer) (known : peer.client = some client)

include decoded there

theorem receipt_of_update : relay.receipt sender bytes now =
    peer.receipt relay.config.scaleBounds (.avatarData number pose) bytes.length now := by
  simp only [Relay.receipt, there, decoded]

include known

/-- An update that does not fail comes from an agent, so its client data is the one it has. -/
theorem client?_of_answered (answered : (relay.receive sender bytes now).1 = .ok ()) :
    peer.client? relay.config.scaleBounds = some client := by
  rw [(relay.receive_spec sender bytes now).1, receipt_of_update decoded there] at answered
  cases held : peer.client? relay.config.scaleBounds with
  | none =>
    rw [Peer.receipt, held] at answered
    cases answered
  | some current =>
    rcases Peer.client_of_client? held with same | ⟨silent, -⟩
    · rw [← same, known]
    · rw [silent] at known
      cases known

/-- An update that is dropped is counted and measured, and leaves everything else as it is. -/
theorem receive_of_dropped (formed : relay.directory.WellFormed)
    (answered : (relay.receive sender bytes now).1 = .ok ())
    (dropped : client.sender.isStale number = true ∨ Avatar.refuses pose = true) :
    let after := (relay.receive sender bytes now).2
    after = { (relay.countPacket bytes.length).countDropped with directory := after.directory } ∧
      ∀ id, after.directory.find? id =
        if id = sender then some (peer.withClient (client.dropping number bytes.length now))
        else relay.directory.find? id := by
  intro after
  have given := client?_of_answered decoded there known answered
  constructor
  · have refused := (client.applyUpdate_ne_accepted_iff number pose bytes.length now).mpr dropped
    have noted := (relay.receive_spec sender bytes now).2
    have update : relay.receipt sender bytes now =
        { Receipt.taken with
          dropped := (client.applyUpdate number pose bytes.length now).2 ≠ .accepted } := by
      rw [receipt_of_update decoded there, Peer.receipt, given]
    rw [update, noting_update, if_neg refused] at noted
    exact noted
  · intro id
    have left := client.applyUpdate_of_dropped number pose bytes.length now dropped
    have heard : relay.heard sender bytes now peer =
        peer.withClient (client.dropping number bytes.length now) := by
      rw [Relay.heard, decoded]
      simp only [formed.keyed there, if_true, Peer.sending, given, Option.elim_some, left]
    split
    · next own =>
      refine (find?_receive formed sender bytes now id).trans ?_
      rw [own, there, Option.map_some, heard]
    · next other => exact find?_receive_of_ne formed other bytes now

end Update

end Relay

/-- Refusals leave no trace. Take any relay that a run has reached, and a packet. If it fails,
everything is as it was, and of the metrics only the packet and its bytes are counted, and an
unreadable packet if it could not be read. If it is an update that is taken in but dropped, the
sender keeps its avatar with its identity, all that it remembers as a receiver, its number and
the time of its identity; it has one more stale update exactly if this one was stale, and
nobody else changes. -/
theorem refusals_of_run (config : Config) (fanout : Fanout) (operations : List Relay.Operation)
    (sender : PeerId) (bytes : Bytes) (now : Instant) :
    let relay := (Relay.opened config fanout).run operations
    let metrics := relay.metrics
    let answer := (relay.receive sender bytes now).1
    let after := (relay.receive sender bytes now).2
    (∀ error, answer = .error error →
      after =
        { relay with
          metrics :=
            { metrics with
              packetsReceived := metrics.packetsReceived + 1
              bytesReceived := metrics.bytesReceived + UInt64.ofNat bytes.length
              decodeErrors := metrics.decodeErrors + if error.isUnreadable then 1 else 0 } }) ∧
    ∀ number pose peer client, answer = .ok () →
      InboundPacket.format.decode bytes = .ok (.avatarData number pose) →
      relay.directory.find? sender = some peer → peer.client = some client →
      client.sender.isStale number = true ∨ pose.position.isFinite = false ∨
        maxJoints < pose.joints.length →
      ∃ left : Client,
        left.avatar = client.avatar ∧ left.receiver = client.receiver ∧
        left.sender =
          { client.sender with
            meter := client.sender.meter.record bytes.length now
            staleUpdates :=
              client.sender.staleUpdates +
                if client.sender.isStale number then 1 else 0 } ∧
        (∀ id, after.directory.find? id =
          if id = sender then some (peer.withClient left) else relay.directory.find? id) ∧
        after =
          { relay with
            directory := after.directory
            metrics :=
              { metrics with
                packetsReceived := metrics.packetsReceived + 1
                bytesReceived := metrics.bytesReceived + UInt64.ofNat bytes.length
                staleUpdates := metrics.staleUpdates + 1 } } := by
  intro relay metrics answer after
  have formed : relay.directory.WellFormed :=
    Relay.wellFormed_run Directory.WellFormed.empty operations
  refine ⟨fun error failed => Relay.receive_of_error failed,
    fun number pose peer client answered decoded there known dropped => ?_⟩
  have refused : client.sender.isStale number = true ∨ Avatar.refuses pose = true := by
    simpa [Avatar.refuses] using dropped
  obtain ⟨noted, left⟩ := Relay.receive_of_dropped decoded there known formed answered refused
  refine ⟨client.dropping number bytes.length now, rfl, rfl, ?_, left, noted⟩
  rw [Client.dropping]
  cases client.sender.isStale number <;> rfl

/-- One of two agents that have sent an update each sends an empty packet, and then the same
update again: the first changes nothing but counts, the second is stale. -/
theorem refusals_after_introduction :
    let relay := (Relay.opened Config.standard
      (Fanout.ofSeed Config.standard.fanoutSettings 0)).run Relay.introduction
    let update := InboundPacket.format.write (.avatarData 1 default)
    let unread := (relay.receive Relay.firstAgent [] 0).2
    let repeated := (relay.receive Relay.firstAgent update 0).2
    unread.directory = relay.directory ∧ unread.metrics.decodeErrors = 1 ∧
      ∃ (peer : Peer) (client : Client),
        repeated.directory.find? Relay.firstAgent = some (peer.withClient client) ∧
        client.sender.latest = 1 ∧ client.sender.staleUpdates = 1 := by
  intro relay update unread repeated
  obtain ⟨fails, -⟩ := refusals_of_run Config.standard
    (Fanout.ofSeed Config.standard.fanoutSettings 0) Relay.introduction Relay.firstAgent [] 0
  obtain ⟨-, drops⟩ := refusals_of_run Config.standard
    (Fanout.ofSeed Config.standard.fanoutSettings 0) Relay.introduction Relay.firstAgent update 0
  have failed : (relay.receive Relay.firstAgent [] 0).1 =
      .error (.unreadable (.unexpectedEnd 4)) := by decide +kernel
  have answered : (relay.receive Relay.firstAgent update 0).1 = .ok () := by decide +kernel
  have decoded : InboundPacket.format.decode update = .ok (.avatarData 1 default) := by
    decide +kernel
  let peer := (relay.directory.find? Relay.firstAgent).getD (Peer.new Relay.firstAgent .agent 1)
  let client := peer.client.getD (Client.new default)
  have there : relay.directory.find? Relay.firstAgent = some peer := by decide +kernel
  have known : peer.client = some client := by decide +kernel
  have stale : client.sender.isStale 1 = true := by decide +kernel
  have held : client.sender.latest = 1 ∧ client.sender.staleUpdates = 0 := by decide +kernel
  have counted : unread = _ := fails _ failed
  refine ⟨by rw [counted], ?_, ?_⟩
  · rw [counted]
    decide +kernel
  · obtain ⟨left, -, -, sending, found, -⟩ :=
      drops 1 default peer client answered decoded there known (Or.inl stale)
    refine ⟨peer, left, (found Relay.firstAgent).trans (if_pos rfl), ?_, ?_⟩
    · rw [sending]
      exact held.1
    · rw [sending, stale, held.2]
      rfl

end AvatarRelay
