/-
# Tallies

What a pass counts is the sum over its turns, and so is how often it draws. A turn counts what
its visits count, and once, at its end, the receiver that it served with all that it was sent.
-/

import AvatarRelay.Proofs.Gains
import AvatarRelay.Proofs.Passes

namespace AvatarRelay

-- The zero of a sum is that of the numerals, whatever other instances are in scope.
attribute [local instance (2000)] Zero.ofOfNat0

/-- What is counted at the end of a turn. -/
def Visit.charges (visit : Visit) : Counters :=
  { Counters.zero with
    listeners := 1
    identityPackets := UInt64.ofNat visit.identities.length
    avatarsSent := UInt64.ofNat visit.batch.size
    bytesSent := UInt64.ofNat (OutboundPacket.totalLength visit.packets) }

namespace PassState

variable (state : PassState) {destination : PeerId}

section Active

variable (active : state.transport.hasActiveAddress destination = true)

include active

theorem counters_send (packet : OutboundPacket) :
    (state.send destination packet).2.counters =
      { state.counters with
        bytesSent :=
          state.counters.bytesSent + UInt64.ofNat (OutboundPacket.totalLength [packet]) } := by
  simp only [send, state.transport.send_of_active packet active]
  rfl

theorem counters_sendIdentities (packets : List OutboundPacket) :
    (state.sendIdentities destination packets).counters =
      { state.counters with
        identityPackets := state.counters.identityPackets + UInt64.ofNat packets.length
        bytesSent :=
          state.counters.bytesSent + UInt64.ofNat (OutboundPacket.totalLength packets) } := by
  have sent : ∀ (packets : List OutboundPacket) (state : PassState),
      state.transport.hasActiveAddress destination = true →
      (packets.foldl (fun state packet => (state.send destination packet).2) state).counters =
        { state.counters with
          bytesSent :=
            state.counters.bytesSent + UInt64.ofNat (OutboundPacket.totalLength packets) } := by
    intro packets
    induction packets with
    | nil => intro state _; simp [OutboundPacket.totalLength]
    | cons packet rest ih =>
      intro state active
      have still : (state.send destination packet).2.transport.hasActiveAddress destination =
          true := by
        rw [(state.send_snd destination packet).2.2, Loopback.hasActiveAddress_deliver, active]
      have split : OutboundPacket.totalLength (packet :: rest) =
          OutboundPacket.totalLength [packet] + OutboundPacket.totalLength rest :=
        OutboundPacket.totalLength_append [packet] rest
      rw [List.foldl_cons, ih _ still, counters_send state active, split]
      simp only [UInt64.ofNat_add, UInt64.add_assoc]
  exact sent packets _ active

theorem counters_sendBatch (batch : Batch) (now : Instant) (receiver : Receiver) :
    (state.sendBatch destination batch now receiver).2.counters =
      { state.counters with
        avatarsSent := state.counters.avatarsSent + UInt64.ofNat batch.size
        bytesSent :=
          state.counters.bytesSent + UInt64.ofNat (OutboundPacket.totalLength
            (if batch.isEmpty then [] else [.bulkAvatarData batch])) } := by
  simp only [sendBatch]
  cases batch.isEmpty with
  | true => simp [OutboundPacket.totalLength]
  | false =>
    simp only [Bool.false_eq_true, if_false, send,
      state.transport.send_of_active (.bulkAvatarData batch) active]
    rfl

end Active

theorem counters_finish (id : PeerId) (receiver : Receiver) :
    (state.finish id receiver).counters =
      { state.counters with listeners := state.counters.listeners + 1 } := rfl

end PassState

namespace Fanout

variable (context : PassContext) (audience : List Candidate) (state : PassState)

/-- A turn counts what its visits count, and then what is sent. -/
theorem counters_serve (own : Candidate) (receiver : Receiver)
    (active : state.transport.hasActiveAddress own.id = true) :
    let visit := visits context audience own receiver state
    (serve context audience own receiver state).counters = visit.counters + visit.charges := by
  intro visit
  let visited : PassState := { state with random := visit.random, counters := visit.counters }
  have reached : (visited.sendIdentities own.id visit.identities).transport.hasActiveAddress
      own.id = true := by
    rw [(visited.sendIdentities_spec own.id visit.identities).2.2,
      Loopback.hasActiveAddress_deliverAll]
    exact active
  simp only [serve_eq, conclude]
  rw [PassState.counters_finish, PassState.counters_sendBatch _ reached,
    PassState.counters_sendIdentities visited active]
  change _ = Counters.add visit.counters visit.charges
  simp only [Counters.add, Visit.charges, Counters.zero, UInt64.add_zero, Visit.packets,
    OutboundPacket.totalLength_append, UInt64.ofNat_add, UInt64.add_assoc]
  rfl

/-- A turn leaves the client data of the others and all addresses as they are. -/
theorem turn_keeps {own : Candidate} (active : state.transport.hasActiveAddress own.id = true) :
    (∀ id, id ≠ own.id → (turn context audience state own).directory.client? id =
      state.directory.client? id) ∧
    ∀ id, (turn context audience state own).transport.hasActiveAddress id =
      state.transport.hasActiveAddress id := by
  unfold turn
  split
  · exact ⟨fun _ _ => rfl, fun _ => rfl⟩
  split
  · exact ⟨fun _ _ => rfl, fun _ => rfl⟩
  next client known =>
  obtain ⟨directory, -, transport⟩ :=
    serve_spec context audience own client.receiver state active
  refine ⟨fun id apart => ?_, fun id => ?_⟩
  · rw [directory, Directory.client?, Directory.find?_modifyClient, if_neg apart,
      Directory.client?]
  · rw [transport, Loopback.hasActiveAddress_deliverAll]

end Fanout

namespace Pass

variable (pass : Pass)

def opening (own : Candidate) (receiver : Receiver) : Visit :=
  Visit.start (receiver.prepare pass.context.settings.controller pass.context.now)
    (pass.stateBefore own.id).random (pass.stateBefore own.id).counters

def gain (own : Candidate) (receiver : Receiver) (other : Candidate) : Gain :=
  (pass.visitBefore own receiver other.id).gain pass.context own other

def countsOf (own : Candidate) : Counters :=
  if pass.busy own.id then { Counters.zero with contended := 1 }
  else
    match pass.directory.client? own.id with
    | none => Counters.zero
    | some client =>
      Gain.countsOf (pass.gain own client.receiver) pass.audience +
        (pass.visit own client.receiver).charges

def drawsOf (own : Candidate) : Nat :=
  if pass.busy own.id then 0
  else
    match pass.directory.client? own.id with
    | none => 0
    | some client => Gain.drawsOf (pass.gain own client.receiver) pass.audience

section One

variable {pass} {own : Candidate}

theorem countsOf_of_busy (occupied : pass.busy own.id = true) :
    pass.countsOf own = { Counters.zero with contended := 1 } :=
  if_pos occupied

theorem drawsOf_of_busy (occupied : pass.busy own.id = true) : pass.drawsOf own = 0 :=
  if_pos occupied

variable {client : Client} (free : pass.busy own.id = false)
  (known : pass.directory.client? own.id = some client)

include free known

theorem countsOf_of_known :
    pass.countsOf own =
      Gain.countsOf (pass.gain own client.receiver) pass.audience +
        (pass.visit own client.receiver).charges := by
  simp only [countsOf, free, known, Bool.false_eq_true, if_false]

theorem drawsOf_of_known :
    pass.drawsOf own = Gain.drawsOf (pass.gain own client.receiver) pass.audience := by
  simp only [drawsOf, free, known, Bool.false_eq_true, if_false]

end One

variable {pass}

theorem client?_of_found {peer : Peer} {client : Client}
    (found : pass.directory.find? peer.id = some peer) (known : peer.client = some client) :
    pass.directory.client? (Candidate.of peer client).id = some client := by
  have same : pass.directory.find? (Candidate.of peer client).id = some peer := found
  rw [Directory.client?, same, Option.bind_some, known]

namespace Proper

variable (proper : pass.Proper)

include proper

theorem client?_of_present {own : Candidate} (present : own ∈ pass.audience) :
    ∃ client, pass.directory.client? own.id = some client := by
  obtain ⟨peer, client, found, -, -, known, rfl⟩ := proper.mem_audience.mp present
  exact ⟨client, client?_of_found found known⟩

theorem active_of_present {own : Candidate} (present : own ∈ pass.audience) :
    pass.transport.hasActiveAddress own.id = true := by
  obtain ⟨peer, client, -, -, reached, -, rfl⟩ := proper.mem_audience.mp present
  exact ((Bool.and_eq_true _ _).mp reached).2

theorem active_of_mail {parcel : Parcel} (sent : parcel ∈ pass.mail) :
    pass.transport.hasActiveAddress parcel.destination = true := by
  obtain ⟨own, present, -, here, -⟩ := visit_of_mail sent
  rw [← here]
  exact proper.active_of_present present

theorem visit_eq_absorbAll (own : Candidate) (receiver : Receiver) :
    pass.visit own receiver =
      (pass.opening own receiver).absorbAll (pass.gain own receiver) pass.audience := by
  apply @foldl_along _ _ (Visit.next pass.context own) (pass.opening own receiver)
    fun earlier visit =>
      visit = (pass.opening own receiver).absorbAll (pass.gain own receiver) earlier
  · rfl
  intro earlier other later split held
  have before : pass.visitBefore own receiver other.id =
      earlier.foldl (Visit.next pass.context own) (pass.opening own receiver) := by
    rw [visitBefore, Candidate.takeWhile_of_split proper.nodup_audience split]
    rfl
  rw [Visit.next_eq_absorb, ← before, ← gain, before, held, Visit.absorbAll,
    Visit.absorbAll, List.foldl_append, List.foldl_cons, List.foldl_nil]

/-- What one turn counts and draws. -/
theorem turn_tally {own : Candidate} (present : own ∈ pass.audience)
    (unserved : (pass.stateBefore own.id).directory.client? own.id =
      pass.directory.client? own.id)
    (active : (pass.stateBefore own.id).transport.hasActiveAddress own.id = true) :
    let before := pass.stateBefore own.id
    let after := Fanout.turn pass.context pass.audience before own
    after.counters = before.counters + pass.countsOf own ∧
      after.random = before.random.skip (pass.drawsOf own) := by
  intro before after
  cases occupied : pass.busy own.id with
  | true =>
    have left : after = { before with
        counters := { before.counters with contended := before.counters.contended + 1 } } :=
      if_pos occupied
    rw [left, countsOf_of_busy occupied, drawsOf_of_busy occupied]
    refine ⟨?_, rfl⟩
    change _ = Counters.add before.counters _
    simp only [Counters.add, Counters.zero, UInt64.add_zero]
  | false =>
    obtain ⟨client, known⟩ := proper.client?_of_present present
    have left : after = Fanout.serve pass.context pass.audience own client.receiver before := by
      change Fanout.turn _ _ before _ = _
      rw [Fanout.turn, if_neg (by simp [context, occupied]), unserved, known]
    have visited := proper.visit_eq_absorbAll own client.receiver
    rw [Visit.absorbAll_eq] at visited
    obtain ⟨-, random, -⟩ :=
      Fanout.serve_spec pass.context pass.audience own client.receiver before active
    rw [left, Fanout.counters_serve _ _ _ _ _ active, random, countsOf_of_known occupied known,
      drawsOf_of_known occupied known]
    change (pass.visit _ _).counters + (pass.visit _ _).charges = _ + (_ + _) ∧
      (pass.visit _ _).random = _
    refine ⟨?_, congrArg Visit.random visited⟩
    rw [← Counters.add_assoc]
    exact congrArg (· + _) (congrArg Visit.counters visited)

/-- What a pass counts and draws is the sum over its turns. -/
theorem tallies :
    pass.result.1.counters =
        pass.audience.foldl (fun counts own => counts + pass.countsOf own) Counters.zero ∧
      pass.result.1.random =
        pass.audience.foldl (fun random own => random.skip (pass.drawsOf own))
          pass.fanout.random := by
  have along := @foldl_along _ _ (Fanout.turn pass.context pass.audience) pass.beginning
    (fun earlier state =>
      (∀ id, id ∉ earlier.map Candidate.id →
        state.directory.client? id = pass.directory.client? id) ∧
      (∀ id, state.transport.hasActiveAddress id = pass.transport.hasActiveAddress id) ∧
      state.counters =
        earlier.foldl (fun counts own => counts + pass.countsOf own) Counters.zero ∧
      state.random =
        earlier.foldl (fun random own => random.skip (pass.drawsOf own)) pass.fanout.random)
    pass.audience ⟨fun _ _ => rfl, fun _ => rfl, rfl, rfl⟩ ?_
  · exact ⟨along.2.2.1, along.2.2.2⟩
  intro earlier own later split held
  rw [← proper.stateBefore_of_split split] at held ⊢
  obtain ⟨unserved, addresses, counted, drawn⟩ := held
  have fresh := Candidate.not_mem_of_split proper.nodup_audience split
  have present : own ∈ pass.audience := by simp [split]
  have active : (pass.stateBefore own.id).transport.hasActiveAddress own.id = true := by
    rw [addresses]
    exact proper.active_of_present present
  obtain ⟨counts, draws⟩ := proper.turn_tally present (unserved _ fresh) active
  obtain ⟨others, reachable⟩ :=
    Fanout.turn_keeps pass.context pass.audience (pass.stateBefore own.id) active
  refine ⟨fun id absent => ?_, fun id => (reachable id).trans (addresses id), ?_, ?_⟩
  · rw [List.map_append, List.mem_append, not_or, List.map_singleton, List.mem_singleton] at absent
    rw [others id absent.2, unserved id absent.1]
  · rw [counts, counted, List.foldl_append, List.foldl_cons, List.foldl_nil]
  · rw [draws, drawn, List.foldl_append, List.foldl_cons, List.foldl_nil]

end Proper

end Pass

end AvatarRelay
