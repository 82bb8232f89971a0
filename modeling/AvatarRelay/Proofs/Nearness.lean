/-
# Within the full rate distance

A sender that is no farther from a receiver than the receiver's full rate distance is
admitted whatever is drawn: the quotient that a draw must not exceed comes to at least one,
and avatars in one place are admitted without a draw. So a pass that meets such a sender
forwards it unless the receiver was sent its number before, and where this holds at every
tick of a run, a receiver has been sent every number that the sender held at a tick.
-/

import AvatarRelay.Proofs.Batches
import AvatarRelay.Proofs.Numbers
import AvatarRelay.Proofs.Quotients
import AvatarRelay.Proofs.Sessions

namespace AvatarRelay

/-- A distance that is finite and no more than the limit admits, whatever is drawn. -/
theorem Vec3.admitted_within {first second : Vec3} {limit : Binary32}
    (finite : (first.distanceTo second).isFinite = true) (within : first.distanceTo second ≤ limit)
    (random : Random) :
    (first.distanceTo second).numEq 0 = true ∨
      random.unit.1 ≤ limit / first.distanceTo second := by
  have zero : (0 : Binary32).rank = 0 ∧ (0 : Binary32).isNaN = false := by decide +kernel
  obtain ⟨real, -, -⟩ := Binary32.le_iff.mp within
  have rank := Binary32.rank_of_signBit (signBit_distanceTo first second)
  by_cases together : (first.distanceTo second).pattern = 0
  · refine Or.inl (Binary32.numEq_iff.mpr ⟨real, zero.2, ?_⟩)
    rw [rank, together, zero.1]
    rfl
  · refine Or.inr (random.unit_le_div (Binary32.lt_iff.mpr ⟨zero.2, real, ?_⟩) within finite)
    rw [rank, zero.1]
    omega

namespace Pass

/-- A pass meets a sender that is near the receiver: whatever else could keep it from being
forwarded does not, and it stands within the receiver's full rate distance. -/
structure Near (pass : Pass) (receiver : Peer) (client : Client) (sender : Peer)
    (data : Client) : Prop extends pass.Meets receiver client sender data where
  free : pass.busy sender.id = false
  heard : receiver.isIgnoring sender.id = false
  hearing : sender.isIgnoring receiver.id = false
  outside : ¬ ((receiver.bubbleEnabled = true ∨ sender.bubbleEnabled = true) ∧
    Bubble.standard.touch client.avatar data.avatar = true)
  finite : (client.avatar.position.distanceTo data.avatar.position).isFinite = true
  within : client.avatar.position.distanceTo data.avatar.position ≤ pass.adjustedDistance client

namespace Near

variable {pass : Pass} {receiver sender : Peer} {client data : Client}

/-- A sender that is near is forwarded if the receiver has no entry or another one. -/
theorem forwards (near : pass.Near receiver client sender data) (proper : pass.Proper)
    (due : receiver.lastForwarded sender.id ≠ some data.sender.latest) :
    pass.Forwards receiver client sender data := by
  obtain ⟨agent, active⟩ := (Bool.and_eq_true _ _).mp (proper.present_of_meets near.toMeets).1
  have entry : receiver.lastForwarded sender.id = client.receiver.lastForwarded[sender.id]? := by
    rw [Peer.lastForwarded, near.known, Option.bind_some]
  rw [entry] at due
  refine
    { other := near.apart.symm
      agent := of_decide_eq_true agent
      active := active
      heard := near.heard
      hearing := near.hearing
      free := near.free
      outside := near.outside
      admitted := Vec3.admitted_within near.finite near.within _
      fresh := ?fresh }
  -- Without an entry the last number counts as zero, which is never held back.
  rw [ne_eq, Sequence.standing_eq_heldBack_iff, Receiver.lastFrom]
  rintro ⟨same, nonzero⟩
  cases held : client.receiver.lastForwarded[sender.id]? with
  | none =>
    rw [held] at nonzero
    exact nonzero rfl
  | some sent =>
    rw [held] at same due
    exact due (congrArg some same.symm)

variable (near : pass.Near receiver client sender data) (proper : pass.Proper)
  (due : receiver.lastForwarded sender.id ≠ some data.sender.latest)

include near proper due

theorem forwarded : Parcel.forwards pass.mail receiver.id sender.id = true := by
  obtain ⟨reached, present⟩ := proper.present_of_meets near.toMeets
  rw [proper.forwards_of_meets near.toMeets]
  exact (proper.forwards_iff present reached).mpr (near.forwards proper due)

theorem entry_result :
    (pass.result.1.directory.find? receiver.id).bind (·.lastForwarded sender.id) =
      some data.sender.latest := by
  rw [proper.find?_result, near.receives, Option.map_some, Option.bind_some,
    proper.lastForwarded_passed near.receives near.sends, if_pos (near.forwarded proper due),
    Peer.latest, near.given]
  rfl

/-- The receiver is sent a batch with what the sender's avatar is now. -/
theorem link_result :
    ∃ identities batch full,
      (∀ packet ∈ identities, ∃ avatar identity, packet = .avatarIdentity avatar identity) ∧
      pass.result.1.transport.link receiver.id =
        (pass.transport.link receiver.id).record pass.transport.historyLimit
          (identities ++ [.bulkAvatarData batch]) ∧
      ⟨sender.id, data.avatar.encodeUpdate full⟩ ∈ batch.segments := by
  obtain ⟨reached, present⟩ := proper.present_of_meets near.toMeets
  obtain ⟨full, carried, -⟩ :=
    @Pass.Proper.segmentFor_eq _ proper receiver sender client data present
  let visit := pass.visit (Candidate.of receiver client) client.receiver
  have listed : ⟨sender.id, data.avatar.encodeUpdate full⟩ ∈ visit.batch.segments :=
    (proper.mem_batch _ _).mpr ⟨_, present,
      (proper.forwards_iff present reached).mpr (near.forwards proper due), carried.symm⟩
  have filled : visit.batch.isEmpty = false :=
    Bool.eq_false_iff.mpr fun empty => List.ne_nil_of_mem listed (List.isEmpty_iff.mp empty)
  have active : pass.transport.hasActiveAddress receiver.id = true :=
    ((Bool.and_eq_true _ _).mp (pass.serves_iff.mp near.served).2.2).2
  have packets : visit.packets = visit.identities ++ [.bulkAvatarData visit.batch] := by
    rw [Visit.packets, filled]
    rfl
  refine ⟨visit.identities, visit.batch, full, identities_visit _ _, ?_, listed⟩
  rw [proper.link_result, if_pos active,
    proper.packetsTo_of_served near.known near.receives near.served]
  exact congrArg _ packets

end Near

end Pass

namespace Relay

/-- The number that one session holds at a tick, if it is connected with client data and the
other session is connected as well. -/
def heldAt (relay : Relay) (receiver sender : SessionKey) : Operation → Option SequenceNumber
  | .tick order busy began _ =>
    match (relay.nextPass order busy began).directory.findSession? receiver,
      (relay.nextPass order busy began).directory.findSession? sender with
    | some _, some peer => peer.latest
    | _, _ => none
  | _ => none

def NearAt (relay : Relay) (receiver sender : SessionKey) : Operation → Prop
  | .tick order busy began _ => ∃ own client other data, own.key = receiver ∧ other.key = sender ∧
    (relay.nextPass order busy began).Near own client other data
  | _ => False

/-- At every tick of a run, one session holds the number that the other was last sent of it,
or is near. -/
def KeepsNear (relay : Relay) (receiver sender : SessionKey) : List Operation → Prop :=
  AtEvery fun earlier operation => ∀ number,
    (relay.run earlier).heldAt receiver sender operation = some number →
    relay.lastForward receiver sender earlier ≠ some number →
      (relay.run earlier).NearAt receiver sender operation

variable {relay : Relay} {record : SessionKey → SessionKey → Option SequenceNumber}

/-- What a tick forwards of a session is the number that it holds. -/
theorem heldAt_of_forwardedBy {receiver sender : SessionKey} {operation : Operation}
    {number : SequenceNumber}
    (forwarded : relay.forwardedBy receiver sender operation = some number) :
    relay.heldAt receiver sender operation = some number := by
  cases operation with
  | tick order busy began ended =>
    simp only [forwardedBy] at forwarded
    split at forwarded
    · exact forwarded
    · cases forwarded
  | connect _ _ | receive _ _ _ | disconnect _ | rewire _ => cases forwarded

/-- A tick forwards a session that is near, unless the number that it holds is on record. -/
theorem Chronicled.forwardedBy_of_near (chronicled : relay.Chronicled record)
    {receiver sender : SessionKey} {operation : Operation} {number : SequenceNumber}
    (held : relay.heldAt receiver sender operation = some number)
    (due : record receiver sender ≠ some number)
    (near : relay.NearAt receiver sender operation) :
    relay.forwardedBy receiver sender operation = some number := by
  cases operation with
  | tick order busy began ended =>
    obtain ⟨own, client, other, data, rfl, rfl, near⟩ := near
    have proper := relay.proper_nextPass order busy began chronicled.traced.formed
    have foundOwn := Directory.findSession?_key near.receives
    have foundOther := Directory.findSession?_key near.sends
    simp only [heldAt, foundOwn, foundOther] at held
    have latest : other.latest = some data.sender.latest := by
      rw [Peer.latest, near.given]
      rfl
    rw [latest] at held
    cases held
    rw [← chronicled.lastForwarded near.toMeets] at due
    rw [relay.forwardedBy_of_found near.receives near.sends, if_pos (near.forwarded proper due),
      latest]
  | connect _ _ | receive _ _ _ | disconnect _ | rewire _ => exact near.elim

end Relay

/-- Within the full rate distance nothing is left to chance. Take a pass over some different
peers, whatever its stream of chance: if it serves a receiver and a sender is near it, whose
number is not the receiver's entry, then the receiver is sent a batch with what the sender's
avatar is now, which is what its bytes are read as, and its entry becomes the sender's number.
So if at every tick of a run one session holds the number that another was last sent of it or is
near, then after every tick the number that was last sent is the one that was held at that tick. -/
theorem nearness_of_run (config : Config) (fanout : Fanout) :
    (∀ {peers : List Peer}, (peers.map Peer.id).Nodup →
      ∀ (busy : PeerId → Bool) (now : Instant) (transport : Loopback) {receiver sender : Peer}
        {client data : Client},
      let pass := Pass.overPeers fanout peers busy now transport
      let after := (fanout.pass (peers.map Peer.id) busy now (Directory.ofPeers peers) transport).1
      pass.Near receiver client sender data →
      receiver.lastForwarded sender.id ≠ some data.sender.latest →
        (∃ identities batch full,
          (∀ packet ∈ identities, ∃ avatar identity, packet = .avatarIdentity avatar identity) ∧
          after.transport.link receiver.id =
            (transport.link receiver.id).record transport.historyLimit
              (identities ++ [.bulkAvatarData batch]) ∧
          ⟨sender.id, data.avatar.encodeUpdate full⟩ ∈ batch.segments ∧
          (data.avatar.pose.joints.length ≤ maxJoints →
            ∃ update, Update.format.read (data.avatar.encodeUpdate full) = .ok (update, []) ∧
              update.Describes data.avatar full)) ∧
        (after.directory.find? receiver.id).bind (·.lastForwarded sender.id) =
          some data.sender.latest) ∧
    ∀ {receiver sender : SessionKey} {operations : List Relay.Operation},
      let start := Relay.opened config fanout
      start.KeepsNear receiver sender operations →
        Relay.AtEvery (fun earlier operation => ∀ number,
          (start.run earlier).heldAt receiver sender operation = some number →
            start.lastForward receiver sender (earlier ++ [operation]) = some number)
          operations := by
  constructor
  · intro peers distinct busy now transport receiver sender client data pass after near due
    have proper : pass.Proper := Pass.proper_overPeers distinct
    obtain ⟨identities, batch, full, introducing, recorded, listed⟩ := near.link_result proper due
    exact ⟨⟨identities, batch, full, introducing, recorded, listed,
      fun few => Avatar.describes_of_encodeUpdate few full⟩, near.entry_result proper due⟩
  · intro receiver sender operations start near earlier operation later split number held
    have chronicled := (Relay.Chronicled.opened config fanout).run earlier
    rw [Relay.lastForward_concat]
    by_cases sent : start.lastForward receiver sender earlier = some number
    · cases forwarded : (start.run earlier).forwardedBy receiver sender operation with
      | none => rw [Option.none_or, sent]
      | some other => rw [Option.some_or, ← Relay.heldAt_of_forwardedBy forwarded, held]
    · rw [chronicled.forwardedBy_of_near held (by rwa [Option.or_none])
        (near earlier operation later split number held sent), Option.some_or]

/-- Of two agents at a distance of one, the first is sent the second in a pass over them. When
they send updates to a relay, the first is sent the number that the second holds at the tick,
which is that of its second update. -/
theorem nearness_at_one :
    let place : Pose := { (default : Pose) with position := ⟨1, 0, 0⟩ }
    let fanout := Fanout.ofSeed Config.standard.fanoutSettings 0
    let start := Relay.opened Config.standard fanout
    let operations := Relay.introduction ++
      [.receive Relay.secondAgent (InboundPacket.format.write (.avatarData 2 place)) 0]
    let relay := start.run operations
    let peers := relay.directory.agents .ascending
    (((fanout.pass (peers.map Peer.id) (fun _ => false) 0 (Directory.ofPeers peers)
      relay.transport).1.directory.find? Relay.firstAgent).bind
        (·.lastForwarded Relay.secondAgent)) = some 2 ∧
      start.lastForward ⟨Relay.firstAgent, 1⟩ ⟨Relay.secondAgent, 2⟩
        (operations ++ [.tick .ascending (fun _ => false) 0 0]) = some 2 := by
  intro place fanout start operations relay peers
  let tick : Relay.Operation := .tick .ascending (fun _ => false) 0 0
  obtain ⟨pass, run⟩ := nearness_of_run Config.standard fanout
  let receiver := (relay.directory.find? Relay.firstAgent).getD (Peer.new Relay.firstAgent .agent 1)
  let sender := (relay.directory.find? Relay.secondAgent).getD (Peer.new Relay.secondAgent .agent 2)
  let client := receiver.client.getD (Client.new default)
  let data := sender.client.getD (Client.new default)
  have own : receiver.id = Relay.firstAgent := by decide +kernel
  have other : sender.id = Relay.secondAgent := by decide +kernel
  have latest : data.sender.latest = 2 := by decide +kernel
  constructor
  · have near : (Pass.overPeers fanout peers (fun _ => false) 0 relay.transport).Near receiver
        client sender data :=
      { toMeets := by decide +kernel
        free := rfl
        heard := by decide +kernel
        hearing := by decide +kernel
        outside := by decide +kernel
        finite := by decide +kernel
        within := by decide +kernel }
    have entry := (pass (by decide +kernel) _ _ _ near (by decide +kernel)).2
    rwa [own, other, latest] at entry
  · have near : relay.NearAt ⟨Relay.firstAgent, 1⟩ ⟨Relay.secondAgent, 2⟩ tick := by
      refine ⟨receiver, client, sender, data, by decide +kernel, by decide +kernel, ?_⟩
      exact
        { toMeets := by decide +kernel
          free := by decide +kernel
          heard := by decide +kernel
          hearing := by decide +kernel
          outside := by decide +kernel
          finite := by decide +kernel
          within := by decide +kernel }
    have keeps : start.KeepsNear ⟨Relay.firstAgent, 1⟩ ⟨Relay.secondAgent, 2⟩
        (operations ++ [tick]) := by
      simp only [Relay.KeepsNear, operations, Relay.introduction, List.cons_append,
        List.nil_append, Relay.atEvery_cons, Relay.atEvery_nil, and_true]
      refine ⟨?_, ?_, ?_, ?_, ?_, ?_, fun _ _ _ => near⟩
      all_goals
        intro number held
        cases held
    exact run keeps operations tick [] rfl 2 (by decide +kernel)

end AvatarRelay
