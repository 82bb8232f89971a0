/-
# Turns

What one receiver's turn does: it changes the receiver's own client data, hands over
the packets that came of its visits, and moves the stream of chance. Whether the
receiver can be reached is settled when the audience is gathered, so nothing that a
turn sends is refused.
-/

import AvatarRelay.Fanout.Pass
import AvatarRelay.Proofs.Mail
import AvatarRelay.Proofs.Visits

namespace AvatarRelay

namespace Peer

def reachable (transport : Loopback) (peer : Peer) : Bool :=
  peer.role.carriesAvatar && transport.hasActiveAddress peer.id

def lastForwarded (peer : Peer) (other : PeerId) : Option SequenceNumber :=
  peer.client.bind (·.receiver.lastForwarded[other]?)

def remembers (peer : Peer) (other : PeerId) : Bool :=
  peer.client.any (·.receiver.remembers other)

def latest (peer : Peer) : Option SequenceNumber :=
  peer.client.map (·.sender.latest)

theorem isSome_client_of_remembers {peer : Peer} {other : PeerId}
    (remembered : peer.remembers other = true) : peer.client.isSome = true := by
  cases known : peer.client with
  | none =>
    rw [remembers, known] at remembered
    cases remembered
  | some client => rfl

/-- A peer has entries about those alone that it remembers. -/
theorem lastForwarded_eq_none {peer : Peer} {other : PeerId}
    (unknown : peer.remembers other = false) : peer.lastForwarded other = none := by
  cases known : peer.client with
  | none => simp [lastForwarded, known]
  | some client =>
    have nothing : client.receiver.remembers other = false := by
      simpa [remembers, known] using unknown
    rw [lastForwarded, known, Option.bind_some]
    cases entry : client.receiver.lastForwarded[other]? with
    | none => rfl
    | some number =>
      rw [Receiver.remembers_iff.mpr (Or.inl (by simp [entry]))] at nothing
      cases nothing

@[simp]
theorem key_mapClient (peer : Peer) (change : Client → Client) :
    (peer.mapClient change).key = peer.key := rfl

@[simp]
theorem client_mapClient (peer : Peer) (change : Client → Client) :
    (peer.mapClient change).client = peer.client.map change := rfl

theorem mapClient_of_eq {peer : Peer} {change : Client → Client}
    (same : ∀ client, peer.client = some client → change client = client) :
    peer.mapClient change = peer := by
  have kept : peer.client.map change = peer.client := by
    cases known : peer.client with
    | none => rfl
    | some client => exact congrArg some (same client known)
  rw [mapClient, kept]

theorem mapClient_of_none {peer : Peer} (silent : peer.client = none)
    (change : Client → Client) : peer.mapClient change = peer :=
  mapClient_of_eq fun client known => by rw [silent] at known; cases known

end Peer

namespace Candidate

def of (peer : Peer) (client : Client) : Candidate where
  id := peer.id
  ignored := peer.ignored
  bubbleEnabled := peer.bubbleEnabled
  avatar := client.avatar
  sender := client.sender

/-- Two peers are kept apart if they are one, or one of them ignores the other. -/
theorem apart_eq_false_iff {first second : Peer} {client data : Client} :
    (of first client).apart (of second data) = false ↔
      second.id ≠ first.id ∧ first.isIgnoring second.id = false ∧
        second.isIgnoring first.id = false := by
  rw [apart, Bool.or_eq_false_iff, Bool.or_eq_false_iff, and_assoc, ne_comm]
  exact and_congr decide_eq_false_iff_not Iff.rfl

theorem ofPeer?_eq_some_iff {transport : Loopback} {peer : Peer} {own : Candidate} :
    ofPeer? transport peer = some own ↔
      peer.reachable transport = true ∧ ∃ client, peer.client = some client ∧
        own = of peer client := by
  unfold ofPeer?
  rw [← Peer.reachable]
  split
  · next reached =>
    simp only [reached, true_and, Option.map_eq_some_iff]
    constructor
    · rintro ⟨client, known, rfl⟩
      exact ⟨client, known, rfl⟩
    · rintro ⟨client, known, rfl⟩
      exact ⟨client, known, rfl⟩
  · next unreached => simp [unreached]

theorem mem_gather {directory : Directory} {transport : Loopback} {order : List PeerId}
    {own : Candidate} :
    own ∈ gather directory transport order ↔
      ∃ id ∈ order, ∃ peer client, directory.find? id = some peer ∧
        peer.reachable transport = true ∧ peer.client = some client ∧ own = of peer client := by
  simp only [gather, List.mem_filterMap, Option.bind_eq_some_iff, ofPeer?_eq_some_iff]
  constructor
  · rintro ⟨id, listed, peer, found, reached, client, known, rfl⟩
    exact ⟨id, listed, peer, client, found, reached, known, rfl⟩
  · rintro ⟨id, listed, peer, client, found, reached, known, rfl⟩
    exact ⟨id, listed, peer, found, reached, client, known, rfl⟩

theorem gather_ids_sublist {directory : Directory} (keyed : directory.Keyed)
    (transport : Loopback) (order : List PeerId) :
    ((gather directory transport order).map Candidate.id).Sublist order := by
  induction order with
  | nil => exact List.Sublist.refl _
  | cons id rest ih =>
    rw [gather, List.filterMap_cons]
    split
    · exact ih.cons _
    · next own joined =>
      obtain ⟨peer, found, taken⟩ := Option.bind_eq_some_iff.mp joined
      obtain ⟨-, client, -, rfl⟩ := ofPeer?_eq_some_iff.mp taken
      rw [List.map_cons, show (of peer client).id = id from keyed found]
      exact ih.cons_cons _

end Candidate

namespace Visit

variable (visit : Visit)

def packets : List OutboundPacket :=
  visit.identities ++ if visit.batch.isEmpty then [] else [.bulkAvatarData visit.batch]

def settled (now : Instant) : Receiver :=
  let receiver := visit.receiver.noteFarthest visit.farthest
  if visit.batch.isEmpty then receiver
  else receiver.recordSent (OutboundPacket.bulkAvatarData visit.batch).encodedLength now

@[simp]
theorem lastForwarded_settled (now : Instant) :
    (visit.settled now).lastForwarded = visit.receiver.lastForwarded := by
  unfold settled
  cases visit.farthest <;> cases visit.batch.isEmpty <;> rfl

@[simp]
theorem remembers_settled (now : Instant) (other : PeerId) :
    (visit.settled now).remembers other = visit.receiver.remembers other := by
  unfold settled
  cases visit.farthest <;> cases visit.batch.isEmpty <;> rfl

/-- A turn forwards those that have a segment in its batch. -/
theorem any_packets_forwards (sender : PeerId)
    (identities : ∀ packet ∈ visit.identities,
      ∃ avatar identity, packet = .avatarIdentity avatar identity) :
    visit.packets.any (·.forwards sender) = visit.batch.contains sender := by
  have silent : visit.identities.any (·.forwards sender) = false := by
    rw [List.any_eq_false]
    intro packet due
    obtain ⟨avatar, identity, rfl⟩ := identities packet due
    exact Bool.false_ne_true
  rw [packets, List.any_append, silent, Bool.false_or]
  cases filled : visit.batch.isEmpty with
  | true =>
    have nothing : visit.batch.segments = [] := List.isEmpty_iff.mp filled
    simp [Batch.contains, nothing]
  | false => simp [OutboundPacket.forwards]

theorem mem_packets_bulk {batch : Batch}
    (identities : ∀ packet ∈ visit.identities,
      ∃ avatar identity, packet = .avatarIdentity avatar identity) :
    .bulkAvatarData batch ∈ visit.packets ↔
      batch = visit.batch ∧ visit.batch.isEmpty = false := by
  rw [packets, List.mem_append]
  constructor
  · rintro (early | last)
    · obtain ⟨avatar, identity, clash⟩ := identities _ early
      cases clash
    · split at last
      · cases last
      · next filled =>
        cases List.mem_singleton.mp last
        exact ⟨rfl, by simpa using filled⟩
  · rintro ⟨rfl, filled⟩
    simp [filled]

end Visit

namespace Receiver

/-- The adjustment at the beginning of a turn touches nothing that is remembered of a
sender. -/
theorem prepare_keeps (receiver : Receiver) (controller : RateController) (now : Instant) :
    (receiver.prepare controller now).lastForwarded = receiver.lastForwarded ∧
      (receiver.prepare controller now).introduced = receiver.introduced ∧
      (receiver.prepare controller now).muted = receiver.muted := by
  have kept (before : Receiver) (observed : Binary32) :
      (controller.step before observed).1.lastForwarded = before.lastForwarded ∧
        (controller.step before observed).1.introduced = before.introduced ∧
        (controller.step before observed).1.muted = before.muted := by
    unfold RateController.step
    split
    · exact ⟨rfl, rfl, rfl⟩
    · dsimp only
      split <;> exact ⟨rfl, rfl, rfl⟩
  exact kept _ _

theorem remembers_prepare (receiver : Receiver) (controller : RateController) (now : Instant)
    (other : PeerId) :
    (receiver.prepare controller now).remembers other = receiver.remembers other := by
  obtain ⟨last, known, silent⟩ := receiver.prepare_keeps controller now
  rw [remembers, last, known, silent, remembers]

end Receiver

namespace PassState

variable (state : PassState) (destination : PeerId)

theorem send_snd (packet : OutboundPacket) :
    (state.send destination packet).2.directory = state.directory ∧
      (state.send destination packet).2.random = state.random ∧
      (state.send destination packet).2.transport =
        state.transport.deliver ⟨destination, packet⟩ := by
  cases active : state.transport.hasActiveAddress destination with
  | true =>
    simp only [send, state.transport.send_of_active packet active, and_self]
  | false =>
    simp only [send, state.transport.send_of_inactive packet active, true_and]
    exact (state.transport.deliver_of_inactive active).symm

theorem sendIdentities_spec (packets : List OutboundPacket) :
    (state.sendIdentities destination packets).directory = state.directory ∧
      (state.sendIdentities destination packets).random = state.random ∧
      (state.sendIdentities destination packets).transport =
        state.transport.deliverAll (Parcel.addressed destination packets) := by
  have sent : ∀ (packets : List OutboundPacket) (state : PassState),
      let after := packets.foldl (fun state packet => (state.send destination packet).2) state
      after.directory = state.directory ∧ after.random = state.random ∧
        after.transport = state.transport.deliverAll (Parcel.addressed destination packets) := by
    intro packets
    induction packets with
    | nil => exact fun state => ⟨rfl, rfl, rfl⟩
    | cons packet rest ih =>
      intro state
      obtain ⟨directory, random, transport⟩ := state.send_snd destination packet
      obtain ⟨laterDirectory, laterRandom, laterTransport⟩ :=
        ih (state.send destination packet).2
      exact ⟨laterDirectory.trans directory, laterRandom.trans random,
        laterTransport.trans (congrArg (Loopback.deliverAll · _) transport)⟩
  exact sent packets _

theorem directory_sendBatch (batch : Batch) (now : Instant) (receiver : Receiver) :
    (state.sendBatch destination batch now receiver).2.directory = state.directory := by
  let counted : PassState :=
    { state with counters := { state.counters with
        avatarsSent := state.counters.avatarsSent + UInt64.ofNat batch.size } }
  have kept := (counted.send_snd destination (.bulkAvatarData batch)).1
  simp only [sendBatch]
  split
  · rfl
  split
  · next sent => exact (congrArg (·.2.directory) sent).symm.trans kept
  · next sent => exact (congrArg (·.2.directory) sent).symm.trans kept

theorem sendBatch_spec (batch : Batch) (now : Instant) (receiver : Receiver)
    (active : state.transport.hasActiveAddress destination = true) :
    let after := state.sendBatch destination batch now receiver
    after.1 = (if batch.isEmpty then receiver
      else receiver.recordSent (OutboundPacket.bulkAvatarData batch).encodedLength now) ∧
      after.2.directory = state.directory ∧ after.2.random = state.random ∧
      after.2.transport = state.transport.deliverAll
        (Parcel.addressed destination
          (if batch.isEmpty then [] else [.bulkAvatarData batch])) := by
  simp only [sendBatch]
  cases batch.isEmpty with
  | true => exact ⟨rfl, rfl, rfl, rfl⟩
  | false =>
    simp only [Bool.false_eq_true, if_false, send,
      state.transport.send_of_active (.bulkAvatarData batch) active]
    exact ⟨trivial, trivial, trivial, rfl⟩

end PassState

namespace Fanout

variable (context : PassContext) (audience : List Candidate)

/-- A receiver's visits, all of them, from the state that its turn begins with. -/
def visits (own : Candidate) (receiver : Receiver) (state : PassState) : Visit :=
  audience.foldl (Visit.next context own)
    (Visit.start (receiver.prepare context.settings.controller context.now)
      state.random state.counters)

/-- What follows the visits of a turn: their packets are sent, and the receiver is written
back. -/
def conclude (own : Candidate) (now : Instant) (visit : Visit) (state : PassState) : PassState :=
  let introduced := PassState.sendIdentities
    { state with random := visit.random, counters := visit.counters } own.id visit.identities
  let sent := introduced.sendBatch own.id visit.batch now
    (visit.receiver.noteFarthest visit.farthest)
  sent.2.finish own.id sent.1

theorem serve_eq (own : Candidate) (receiver : Receiver) (state : PassState) :
    serve context audience own receiver state =
      conclude own context.now (visits context audience own receiver state) state := rfl

theorem serve_spec (own : Candidate) (receiver : Receiver) (state : PassState)
    (active : state.transport.hasActiveAddress own.id = true) :
    let visit := visits context audience own receiver state
    let after := serve context audience own receiver state
    after.directory =
        state.directory.modifyClient own.id (·.mapReceiver fun _ => visit.settled context.now) ∧
      after.random = visit.random ∧
      after.transport = state.transport.deliverAll (Parcel.addressed own.id visit.packets) := by
  intro visit after
  let visited : PassState := { state with random := visit.random, counters := visit.counters }
  let introduced := visited.sendIdentities own.id visit.identities
  obtain ⟨directory, random, transport⟩ :=
    visited.sendIdentities_spec own.id visit.identities
  have reached : introduced.transport.hasActiveAddress own.id = true := by
    change (visited.sendIdentities own.id visit.identities).transport.hasActiveAddress _ = _
    rw [transport, Loopback.hasActiveAddress_deliverAll]
    exact active
  obtain ⟨measured, lastDirectory, lastRandom, lastTransport⟩ :=
    introduced.sendBatch_spec own.id visit.batch context.now
      (visit.receiver.noteFarthest visit.farthest) reached
  refine ⟨?_, lastRandom.trans random, ?_⟩
  · change (introduced.sendBatch own.id visit.batch context.now
      (visit.receiver.noteFarthest visit.farthest)).2.directory.modifyClient own.id
        (·.mapReceiver fun _ => (introduced.sendBatch own.id visit.batch context.now
          (visit.receiver.noteFarthest visit.farthest)).1) = _
    rw [lastDirectory, directory, measured]
    rfl
  · refine lastTransport.trans ?_
    rw [show introduced.transport = _ from transport, ← Loopback.deliverAll_append]
    simp only [Parcel.addressed, Visit.packets, List.map_append]
    rfl

theorem isSome_client?_turn (state : PassState) (own : Candidate) (id : PeerId) :
    ((turn context audience state own).directory.client? id).isSome =
      (state.directory.client? id).isSome := by
  unfold turn
  split
  · rfl
  split
  · rfl
  next client known =>
  rw [serve_eq, conclude, PassState.finish, Directory.isSome_client?_modifyClient,
    PassState.directory_sendBatch, (PassState.sendIdentities_spec _ _ _).1]

end Fanout

end AvatarRelay
