/-
# What is forwarded of a pose

From the packet of a sender to the segments that receivers are sent: whatever else has
happened in a run, the update in a segment conveys the pose that was last accepted from
the sender's session, with nothing lost but the joints that receivers have.
-/

import AvatarRelay.Proofs.Bounds
import AvatarRelay.Proofs.Poses
import AvatarRelay.Proofs.Updates

namespace AvatarRelay

/-- An update conveys a pose under scale bounds: placement and joints bit for bit, and the
scale brought within the bounds. -/
structure Update.Conveys (update : Update) (bounds : ScaleBounds) (pose : Pose) : Prop where
  position : update.position = pose.position
  finite : update.position.isFinite = true
  orientation : update.orientation = pose.orientation
  /-- A scale that is not finite counts as the natural size. -/
  scale : update.scale = bounds.clamp (if pose.scale.isFinite then pose.scale else 1)
  within : bounds.low ≤ update.scale ∧ update.scale ≤ bounds.high
  count : update.jointCount.toNat = pose.joints.length
  /-- Indexes increase, and each is below the number of joints. -/
  ordered : update.joints.Pairwise fun first second => first.1 < second.1
  below : ∀ entry ∈ update.joints, entry.1 < update.jointCount
  joints : ∀ entry ∈ update.joints, pose.joints[entry.1.toNat]? = some entry.2

namespace Avatar

/-- What is built from an avatar that holds a pose conveys it. -/
theorem conveys_update {avatar : Avatar} {bounds : ScaleBounds} {pose : Pose}
    (ordered : bounds.Ordered) (admitted : refuses pose = false)
    (held : avatar.pose = sanitize bounds pose) (full : Bool) :
    (avatar.update full).Conveys bounds pose := by
  obtain ⟨finite, few⟩ := refuses_eq_false_iff.mp admitted
  have joints : avatar.pose.joints = pose.joints := by rw [held, sanitize]
  have scale : avatar.pose.scale =
      bounds.clamp (if pose.scale.isFinite then pose.scale else 1) := by rw [held, sanitize]
  have position : avatar.pose.position = pose.position := by rw [held, sanitize]
  have orientation : avatar.pose.orientation = pose.orientation := by rw [held, sanitize]
  rw [← joints] at few
  have count := jointCount_update few full
  have listed (entry : UInt16 × Joint) (among : entry ∈ (avatar.update full).joints) :
      avatar.pose.joints[entry.1.toNat]? = some entry.2 :=
    ((mem_joints_update few full).mp among).1
  have usable : (if pose.scale.isFinite then pose.scale else 1).isFinite = true := by
    split
    · next usable => exact usable
    · decide +kernel
  exact
    { position := position
      finite := (congrArg Vec3.isFinite position).trans finite
      orientation := orientation
      scale := scale
      within := by
        change bounds.low ≤ avatar.pose.scale ∧ avatar.pose.scale ≤ bounds.high
        rw [scale]
        exact ordered.clamp_within usable
      count := by rw [count, joints]
      ordered := pairwise_joints_update few full
      below := fun entry among => by
        rw [UInt16.lt_iff_toNat_lt, count]
        exact (List.getElem?_eq_some_iff.mp (listed entry among)).1
      joints := fun entry among => by
        rw [← joints]
        exact listed entry among }

end Avatar

/-- Every segment that a pass sends carries an update of a connected peer, built from the
avatar as it stands when the pass begins. -/
theorem Pass.Proper.segment_of_mail {pass : Pass} (proper : pass.Proper) {receiver : PeerId}
    {batch : Batch} (sent : ⟨receiver, .bulkAvatarData batch⟩ ∈ pass.mail) {segment : Segment}
    (listed : segment ∈ batch.segments) :
    ∃ sender data full, pass.directory.find? sender.id = some sender ∧
      sender.client = some data ∧ segment = ⟨sender.id, data.avatar.encodeUpdate full⟩ := by
  obtain ⟨own, -, client, -, among⟩ := visit_of_mail sent
  rw [Visit.mem_packets_bulk _ (identities_visit _ _)] at among
  rw [among.1, proper.mem_batch] at listed
  obtain ⟨other, taking, -, rfl⟩ := listed
  obtain ⟨sender, data, there, -, -, given, rfl⟩ := proper.mem_audience.mp taking
  exact ⟨sender, data, _, there, given, rfl⟩

namespace Relay

variable {relay : Relay} (order : VisitOrder) (busy : SessionKey → Bool) (began : Instant)

theorem bulk_of_tickMail (formed : relay.directory.WellFormed) {receiver : PeerId} {batch : Batch}
    (sent : ⟨receiver, .bulkAvatarData batch⟩ ∈ relay.tickMail order busy began) :
    ⟨receiver, .bulkAvatarData batch⟩ ∈ (relay.nextPass order busy began).mail := by
  rcases List.mem_append.mp sent with early | late
  · obtain ⟨avatar, reason, clash⟩ := (relay.settles_timed order began formed).kills _ early
    cases clash
  · exact late

/-- Who takes part in the pass of a tick was connected before the tick, as the same session. -/
theorem session_of_beforePass (formed : relay.directory.WellFormed) {id : PeerId} {peer : Peer}
    (there : (relay.beforePass order busy began).directory.find? id = some peer) :
    ∃ before, relay.directory.find? id = some before ∧ before.key = peer.key := by
  rw [relay.find?_beforePass order busy began formed, Option.map_eq_some_iff] at there
  obtain ⟨before, found, rfl⟩ := there
  exact ⟨before, (relay.settles_timed order began formed).find?_before found,
    (Peer.key_purgedOfAll _ _).symm⟩

end Relay

/-- What is forwarded is what was accepted. Under a configuration that was brought into range,
every segment that a tick of a run sends is about a connected sender; and if an update of
its session was ever accepted, the segment's payload is read to its end as an update that
conveys the pose of the last one accepted, as it was decoded from the packet. -/
theorem conveyed_of_run (config : Config) (fanout : Fanout) (operations : List Relay.Operation)
    (order : VisitOrder) (busy : SessionKey → Bool) (began ended : Instant) :
    let start := Relay.opened config.normalize fanout
    let relay := start.run operations
    (relay.tick order busy began ended).2.transport =
        relay.transport.deliverAll (relay.tickMail order busy began) ∧
      ∀ receiver batch, ⟨receiver, .bulkAvatarData batch⟩ ∈ relay.tickMail order busy began →
        ∀ segment ∈ batch.segments, ∃ sender,
          relay.directory.find? segment.sender = some sender ∧
          ∀ pose, start.lastAccepted sender.key operations = some pose →
            ∃ update, Update.format.read segment.payload = .ok (update, []) ∧
              update.Conveys config.normalize.scaleBounds pose := by
  intro start relay
  have portrays := (Relay.Portrays.opened config.normalize fanout).run operations
  have formed : relay.directory.WellFormed := portrays.formed
  have proper := relay.proper_nextPass order busy began formed
  have before := portrays.beforePass order busy began
  refine ⟨(relay.tick_keeps order busy began ended formed).1, ?_⟩
  intro receiver batch sent segment listed
  obtain ⟨sender, data, full, there, given, rfl⟩ :=
    proper.segment_of_mail (Relay.bulk_of_tickMail order busy began formed sent) listed
  obtain ⟨connected, found, key⟩ := Relay.session_of_beforePass order busy began formed there
  refine ⟨connected, found, fun pose accepted => ?_⟩
  have reflects := before.reflects there
  rw [Option.or_none, ← key, accepted, before.limited] at reflects
  obtain ⟨admitted, pictured⟩ := reflects.accepted rfl
  have held : data.avatar.pose = Avatar.sanitize config.normalize.scaleBounds pose := by
    rw [Peer.pictured, given] at pictured
    exact congrArg Prod.fst (Option.some.inj pictured)
  have few : data.avatar.pose.joints.length ≤ maxJoints := by
    rw [held]
    exact (Avatar.refuses_eq_false_iff.mp admitted).2
  exact ⟨data.avatar.update full, Avatar.read_encodeUpdate few full,
    Avatar.conveys_update config.ordered_normalize admitted held full⟩

/-- One of two agents reports a scale of five thousand and two joints; the other is forwarded
the largest scale that the configuration admits, and both joints. -/
theorem conveyed_after_introduction :
    let start := Relay.opened Config.standard.normalize
      (Fanout.ofSeed Config.standard.fanoutSettings 0)
    let pose : Pose :=
      ⟨⟨1, 2, 3⟩, Quat.identity, 5000, none, [default, ⟨Quat.identity, ⟨0, 1, 0⟩⟩]⟩
    let operations := Relay.introduction ++
      [.receive Relay.secondAgent (InboundPacket.format.write (.avatarData 2 pose)) 0]
    ∃ batch segment update,
      ⟨Relay.firstAgent, .bulkAvatarData batch⟩ ∈
        (start.run operations).tickMail .ascending (fun _ => false) 0 ∧
      segment ∈ batch.segments ∧ segment.sender = Relay.secondAgent ∧
      Update.format.read segment.payload = .ok (update, []) ∧
      update.Conveys Config.standard.normalize.scaleBounds pose ∧
      update.scale = 1000 ∧ update.jointCount.toNat = 2 := by
  intro start pose operations
  have forwarded : Parcel.forwards ((start.run operations).tickMail .ascending (fun _ => false) 0)
      Relay.firstAgent Relay.secondAgent = true := by decide +kernel
  have accepted : start.lastAccepted ⟨Relay.secondAgent, 2⟩ operations = some pose := by
    decide +kernel
  have session : ((start.run operations).directory.find? Relay.secondAgent).map Peer.key =
      some ⟨Relay.secondAgent, 2⟩ := by decide +kernel
  obtain ⟨batch, sent, segment, listed, sending⟩ := Parcel.forwards_iff.mp forwarded
  obtain ⟨sender, found, conveyed⟩ :=
    (conveyed_of_run Config.standard _ operations .ascending (fun _ => false) 0 0).2 _ batch sent
      segment listed
  have key : sender.key = ⟨Relay.secondAgent, 2⟩ := by
    rw [sending] at found
    rw [found] at session
    exact Option.some.inj session
  obtain ⟨update, read, conveys⟩ := conveyed pose (by rw [key, accepted])
  refine ⟨batch, segment, update, sent, listed, sending, read, conveys, ?_, conveys.count⟩
  rw [conveys.scale]
  decide +kernel

end AvatarRelay
