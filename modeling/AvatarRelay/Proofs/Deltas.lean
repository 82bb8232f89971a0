/-
# Updates that tell differences

An update that does not carry every joint tells the differences from a snapshot, and there
is one snapshot for each sender: a tick takes it whether all receivers were shown the joints
or not. Beside a run stands the list that one receiver holds of one sender, and whether it
has kept up with the snapshot. It keeps up as long as every tick that changes the snapshot
shows it the sender; once it has missed such a tick, the joints that it missed stay wrong
until they change again or an update carries every joint.
-/

import AvatarRelay.Proofs.Batches
import AvatarRelay.Proofs.Changes
import AvatarRelay.Proofs.Fidelity
import AvatarRelay.Proofs.Joints

namespace AvatarRelay

namespace OutboundPacket

def payloads (sender : PeerId) : OutboundPacket → List Bytes
  | bulkAvatarData batch => (batch.segments.filter (·.sender = sender)).map Segment.payload
  | avatarIdentity .. | killAvatar .. => []

theorem payloads_eq_nil_iff {packet : OutboundPacket} {sender : PeerId} :
    packet.payloads sender = [] ↔ packet.forwards sender = false := by
  cases packet with
  | bulkAvatarData batch =>
    simp [payloads, forwards, Batch.contains, List.filter_eq_nil_iff]
  | avatarIdentity avatar identity => simp [payloads, forwards]
  | killAvatar avatar reason => simp [payloads, forwards]

end OutboundPacket

namespace Parcel

/-- The payloads that one peer is sent of another, in order. -/
def payloads (mail : List Parcel) (receiver sender : PeerId) : List Bytes :=
  (packetsTo receiver mail).flatMap (OutboundPacket.payloads sender)

theorem payloads_append (first second : List Parcel) (receiver sender : PeerId) :
    payloads (first ++ second) receiver sender =
      payloads first receiver sender ++ payloads second receiver sender := by
  rw [payloads, packetsTo_append, List.flatMap_append, payloads, payloads]

theorem mem_payloads {mail : List Parcel} {receiver : PeerId} {batch : Batch}
    (sent : ⟨receiver, .bulkAvatarData batch⟩ ∈ mail) {segment : Segment}
    (listed : segment ∈ batch.segments) :
    segment.payload ∈ payloads mail receiver segment.sender := by
  refine List.mem_flatMap.mpr ⟨_, mem_packetsTo.mpr sent, List.mem_map_of_mem ?_⟩
  exact List.mem_filter.mpr ⟨listed, decide_eq_true rfl⟩

theorem payloads_eq_nil_iff {mail : List Parcel} {receiver sender : PeerId} :
    payloads mail receiver sender = [] ↔ forwards mail receiver sender = false := by
  simp only [payloads, forwards, List.flatMap_eq_nil_iff, OutboundPacket.payloads_eq_nil_iff,
    List.any_eq_false, Bool.not_eq_true]

end Parcel

/-- The joints that a receiver holds once it has applied a payload. A payload that cannot be
read changes nothing. -/
def Update.applyPayload (held : List Joint) (payload : Bytes) : List Joint :=
  match Update.format.read payload with
  | .ok (update, _) => update.applyTo held
  | .error _ => held

def Update.isComplete (payload : Bytes) : Bool :=
  match Update.format.read payload with
  | .ok (update, _) => update.full
  | .error _ => false

namespace Relay

/-- The payloads that an operation shows one session of another, in order. -/
def shownBy (relay : Relay) (receiver sender : SessionKey) : Operation → List Bytes
  | .tick order busy began _ =>
    let directory := (relay.beforePass order busy began).directory
    if (directory.findSession? receiver).isSome && (directory.findSession? sender).isSome then
      Parcel.payloads (relay.tickMail order busy began) receiver.id sender.id
    else []
  | _ => []

/-- The joints that one session holds of another after a run, if it applies every payload
that it is shown to those that it held before. -/
def holding (relay : Relay) (receiver sender : SessionKey) (held : List Joint) :
    List Operation → List Joint
  | [] => held
  | operation :: rest =>
    (relay.apply operation).holding receiver sender
      ((relay.shownBy receiver sender operation).foldl Update.applyPayload held) rest

/-- The joints that the next update of a session is compared with. -/
def snapshotOf (relay : Relay) (sender : SessionKey) : Option (List Joint) :=
  ((relay.directory.findSession? sender).bind Peer.avatar?).map (·.sentJoints.toList)

/-- An operation leaves the joints of a session's snapshot as they are. -/
def keepsSnapshot (relay : Relay) (sender : SessionKey) (operation : Operation) : Bool :=
  match relay.snapshotOf sender, (relay.apply operation).snapshotOf sender with
  | some before, some after => Joint.AllAlike before after
  | _, _ => false

/-- A receiver keeps up in an operation that shows it every joint of a sender; and if it has
kept up before, in one that shows it anything or leaves the snapshot as it is. -/
def keepsUpBy (relay : Relay) (receiver sender : SessionKey) (before : Bool)
    (operation : Operation) : Bool :=
  match relay.shownBy receiver sender operation with
  | [] => before && relay.keepsSnapshot sender operation
  | payloads => before || payloads.any Update.isComplete

def keepsUp (relay : Relay) (receiver sender : SessionKey) (before : Bool) :
    List Operation → Bool
  | [] => before
  | operation :: rest =>
    (relay.apply operation).keepsUp receiver sender
      (relay.keepsUpBy receiver sender before operation) rest

end Relay

/-- Of segments from different senders there is one for each. -/
theorem Segment.filter_of_mem {segments : List Segment}
    (distinct : (segments.map Segment.sender).Nodup) {segment : Segment}
    (listed : segment ∈ segments) :
    segments.filter (·.sender = segment.sender) = [segment] := by
  induction segments with
  | nil => cases listed
  | cons first rest ih =>
    obtain ⟨fresh, distinct⟩ := List.nodup_cons.mp distinct
    rcases List.mem_cons.mp listed with rfl | later
    · rw [List.filter_cons_of_pos (by simp), List.filter_eq_nil_iff.mpr]
      intro other later same
      exact fresh (of_decide_eq_true same ▸ List.mem_map_of_mem later)
    · have apart : first.sender ≠ segment.sender := by
        intro same
        exact fresh (same ▸ List.mem_map_of_mem later)
      rw [List.filter_cons_of_neg (by simpa using apart), ih distinct later]

/-- What the packets of a turn show of a sender stands in its batch. -/
theorem Visit.flatMap_packets (visit : Visit) (sender : PeerId)
    (identities : ∀ packet ∈ visit.identities,
      ∃ avatar identity, packet = .avatarIdentity avatar identity) :
    visit.packets.flatMap (OutboundPacket.payloads sender) =
      (visit.batch.segments.filter (·.sender = sender)).map Segment.payload := by
  have silent : visit.identities.flatMap (OutboundPacket.payloads sender) = [] := by
    rw [List.flatMap_eq_nil_iff]
    intro packet due
    obtain ⟨avatar, identity, rfl⟩ := identities packet due
    rfl
  rw [packets, List.flatMap_append, silent, List.nil_append]
  cases filled : visit.batch.isEmpty with
  | true =>
    have nothing : visit.batch.segments = [] := List.isEmpty_iff.mp filled
    simp [nothing]
  | false => simp [OutboundPacket.payloads]

/-- What a pass shows a receiver of a sender: nothing, or one update of a sender that it met
and whose data is free. -/
theorem Pass.Proper.payloads_mail {pass : Pass} (proper : pass.Proper) {receiver sender : Peer}
    (receives : pass.directory.find? receiver.id = some receiver)
    (sends : pass.directory.find? sender.id = some sender) :
    Parcel.payloads pass.mail receiver.id sender.id = [] ∨
      ∃ client data full, pass.Meets receiver client sender data ∧
        pass.order.contains sender.id = true ∧ pass.busy sender.id = false ∧
        (client.receiver.lastForwarded[sender.id]? = none → full = true) ∧
        Parcel.payloads pass.mail receiver.id sender.id = [data.avatar.encodeUpdate full] := by
  cases forwarded : Parcel.forwards pass.mail receiver.id sender.id with
  | false => exact Or.inl (Parcel.payloads_eq_nil_iff.mpr forwarded)
  | true =>
    obtain ⟨client, data, meets⟩ := proper.meets_of_forwards receives sends forwarded
    obtain ⟨_, given, listed, -, present⟩ := proper.present_of_found sends meets.joined
    rw [meets.given] at given
    cases given
    obtain ⟨full, carried, joints⟩ :=
      @segmentFor_eq pass proper receiver sender client data present
    rw [proper.forwards_of_meets meets] at forwarded
    have inBatch : ⟨sender.id, data.avatar.encodeUpdate full⟩ ∈
        (pass.visit (Candidate.of receiver client) client.receiver).batch.segments :=
      (proper.mem_batch _ _).mpr ⟨_, present, forwarded, carried.symm⟩
    have distinct := proper.distinct.sublist
      (proper.senders_visit (Candidate.of receiver client) client.receiver)
    refine Or.inr ⟨client, data, full, meets, List.contains_iff_mem.mpr listed,
      ((Visit.forwards_iff _ _ _ _).mp forwarded).2.1, fun unknown => joints.mpr (Or.inl unknown),
      ?_⟩
    rw [Parcel.payloads, proper.packetsTo_of_served meets.known receives meets.served,
      Visit.flatMap_packets _ _ (identities_visit _ _), Segment.filter_of_mem distinct inBatch]
    rfl

namespace Relay

/-- No connected peer has more joints than can be counted in two bytes. -/
def Limited (relay : Relay) : Prop :=
  ∀ ⦃id : PeerId⦄ ⦃peer : Peer⦄ ⦃avatar : Avatar⦄, relay.directory.find? id = some peer →
    peer.avatar? = some avatar → avatar.pose.joints.length ≤ maxJoints

end Relay

namespace Peer

/-- A packet keeps the number of joints within its limit: a pose with more is refused. -/
theorem limited_sending {peer : Peer}
    (few : ∀ avatar, peer.avatar? = some avatar → avatar.pose.joints.length ≤ maxJoints)
    (bounds : ScaleBounds) (packet : InboundPacket) (bytes : Nat) (now : Instant)
    {avatar : Avatar} (shown : (peer.sending bounds packet bytes now).avatar? = some avatar) :
    avatar.pose.joints.length ≤ maxJoints := by
  have begun {client : Client} (known : peer.client? bounds = some client) :
      client.avatar.pose.joints.length ≤ maxJoints := by
    rcases client_of_client? known with held | ⟨-, rfl⟩
    · exact few _ (by rw [avatar?, held, Option.map_some])
    · exact Nat.zero_le _
  rcases peer.client_sending bounds packet bytes now with
    ⟨number, pose, client, -, known, after⟩ | ⟨identity, client, -, known, after⟩ | ⟨-, after⟩
  · rw [avatar?, after] at shown
    cases shown
    rcases client.applyUpdate_spec number pose bytes now with ⟨-, admitted, same⟩ | ⟨-, same⟩
    · rw [same]
      exact (Avatar.refuses_eq_false_iff.mp admitted).2
    · rw [same]
      exact begun known
  · rw [avatar?, after] at shown
    cases shown
    rw [(client.pose_applyIdentity identity now).1]
    exact begun known
  · rw [avatar?, after] at shown
    exact few _ shown

end Peer

namespace Relay

theorem limited_opened (config : Config) (fanout : Fanout) :
    (Relay.opened config fanout).Limited := by
  intro id peer avatar found
  rw [find?_opened] at found
  cases found

theorem Limited.apply {relay : Relay} (limited : relay.Limited)
    (formed : relay.directory.WellFormed) (operation : Operation) :
    (relay.apply operation).Limited := by
  intro id peer avatar found shown
  rcases find?_apply formed found with ⟨role, -, rfl⟩ | ⟨before, there, changes⟩
  · cases shown
  · have few (avatar : Avatar) (shown : before.avatar? = some avatar) :
        avatar.pose.joints.length ≤ maxJoints := limited there shown
    cases operation with
    | receive sender bytes now =>
      rw [show peer = _ from changes] at shown
      unfold heard at shown
      split at shown
      · split at shown
        · exact Peer.limited_sending few _ _ _ _ shown
        · exact few avatar shown
      · exact few avatar shown
    | tick order busy began ended =>
      obtain ⟨-, reported, rfl⟩ := changes
      rw [relay.avatar?_ticked order busy began ended, Option.map_eq_some_iff] at shown
      obtain ⟨shown, known, rfl⟩ := shown
      split <;> exact few shown known
    | connect _ _ | disconnect _ | rewire _ =>
      rw [show peer = before from changes] at shown
      exact few avatar shown

/-! ## What a tick shows and takes -/

section Tick

variable {relay : Relay} (formed : relay.directory.WellFormed) (order : VisitOrder)
  (busy : SessionKey → Bool) (began ended : Instant)

include formed

theorem payloads_tickMail (receiver sender : PeerId) :
    Parcel.payloads (relay.tickMail order busy began) receiver sender =
      Parcel.payloads (relay.nextPass order busy began).mail receiver sender := by
  have silent : Parcel.payloads ((relay.timed began).departureMail order) receiver sender = [] := by
    rw [Parcel.payloads_eq_nil_iff, Bool.eq_false_iff, ne_eq, Parcel.forwards_iff]
    rintro ⟨batch, sent, -⟩
    obtain ⟨avatar, reason, clash⟩ := (relay.settles_timed order began formed).kills _ sent
    cases clash
  rw [tickMail, Parcel.payloads_append, silent, List.nil_append]

/-- A tick takes the snapshot of a peer whose data is free. -/
theorem snapshotOf_tick {peer : Peer} {data : Client}
    (sends : (relay.nextPass order busy began).directory.find? peer.id = some peer)
    (given : peer.client = some data)
    (listed : (relay.nextPass order busy began).order.contains peer.id = true)
    (free : (relay.nextPass order busy began).busy peer.id = false) :
    (∃ before, relay.directory.find? peer.id = some before ∧
      before.avatar? = some data.avatar) ∧
    relay.snapshotOf peer.key = some data.avatar.sentJoints.toList ∧
    (relay.apply (.tick order busy began ended)).snapshotOf peer.key =
      some data.avatar.pose.joints := by
  obtain ⟨before, there, stays, purged⟩ := relay.purged_beforePass order busy began formed sends
  have key : before.key = peer.key := by rw [purged, Peer.key_purgedOfAll]
  have session : before.session = peer.session := congrArg SessionKey.session key
  have seen : before.avatar? = some data.avatar := by
    rw [← Peer.avatar?_purgedOfAll, ← purged, Peer.avatar?, given, Option.map_some]
  have found : relay.directory.findSession? peer.key = some before :=
    (Directory.findSession?_eq_some_iff _).mpr ⟨there, session⟩
  refine ⟨⟨before, there, seen⟩, ?_, ?_⟩
  · rw [snapshotOf, found, Option.bind_some, seen, Option.map_some]
  · obtain ⟨reported, maps⟩ := relay.find?_ticked order busy began ended formed
    have foundAfter : (relay.apply (.tick order busy began ended)).directory.findSession? peer.key =
        some (relay.ticked order busy began ended reported before) := by
      refine (Directory.findSession?_eq_some_iff _).mpr ⟨?_, ?_⟩
      · exact (maps _).trans (by rw [show peer.key.id = peer.id from rfl, stays, Option.map_some])
      · exact (congrArg SessionKey.session
          (relay.key_ticked order busy began ended reported before)).trans session
    have own : before.id = peer.id := Peer.id_eq_of_key key
    rw [snapshotOf, foundAfter, Option.bind_some, relay.avatar?_ticked order busy began ended, seen,
      own, listed, free]
    rfl

/-- What a tick shows one session of another: nothing, or one update of a peer whose snapshot
it takes. -/
theorem shownBy_tick (receiver sender : SessionKey) :
    relay.shownBy receiver sender (.tick order busy began ended) = [] ∨
      ∃ own client other data full, own.key = receiver ∧ other.key = sender ∧
        (relay.nextPass order busy began).Meets own client other data ∧
        (client.receiver.lastForwarded[other.id]? = none → full = true) ∧
        relay.shownBy receiver sender (.tick order busy began ended) =
          [data.avatar.encodeUpdate full] ∧
        (∃ before, relay.directory.find? other.id = some before ∧
          before.avatar? = some data.avatar) ∧
        relay.snapshotOf sender = some data.avatar.sentJoints.toList ∧
        (relay.apply (.tick order busy began ended)).snapshotOf sender =
          some data.avatar.pose.joints := by
  have keyed := (relay.wellFormed_beforePass order busy began formed).keyed
  have proper := relay.proper_nextPass order busy began formed
  simp only [shownBy, payloads_tickMail formed]
  split
  · next both =>
    obtain ⟨receives, sends⟩ := (Bool.and_eq_true _ _).mp both
    obtain ⟨own, found⟩ := Option.isSome_iff_exists.mp receives
    obtain ⟨other, foundOther⟩ := Option.isSome_iff_exists.mp sends
    obtain rfl := keyed.key_of_findSession? found
    obtain rfl := keyed.key_of_findSession? foundOther
    obtain ⟨there, -⟩ := (Directory.findSession?_eq_some_iff _).mp found
    obtain ⟨here, -⟩ := (Directory.findSession?_eq_some_iff _).mp foundOther
    refine (proper.payloads_mail there here).imp_right ?_
    rintro ⟨client, data, full, meets, listed, free, first, payloads⟩
    exact ⟨own, client, other, data, full, rfl, rfl, meets, first, payloads,
      snapshotOf_tick formed order busy began ended here meets.given listed free⟩
  · exact Or.inl rfl

/-- A segment that a tick sends is all that it shows the receiver of its sender, and was built
from the avatar of the sender as the pass finds it. -/
theorem shownBy_of_segment {receiver sender : Peer} {data : Client}
    (receives : (relay.nextPass order busy began).directory.find? receiver.id = some receiver)
    (sends : (relay.nextPass order busy began).directory.find? sender.id = some sender)
    (given : sender.client = some data) {batch : Batch}
    (sent : ⟨receiver.id, .bulkAvatarData batch⟩ ∈ relay.tickMail order busy began)
    {segment : Segment} (listed : segment ∈ batch.segments)
    (sending : segment.sender = sender.id) :
    ∃ client full, (relay.nextPass order busy began).Meets receiver client sender data ∧
      (client.receiver.lastForwarded[sender.id]? = none → full = true) ∧
      segment.payload = data.avatar.encodeUpdate full ∧
      relay.shownBy receiver.key sender.key (.tick order busy began ended) =
        [data.avatar.encodeUpdate full] ∧
      (∃ before, relay.directory.find? sender.id = some before ∧
        before.avatar? = some data.avatar) ∧
      relay.snapshotOf sender.key = some data.avatar.sentJoints.toList := by
  have shown : segment.payload ∈
      relay.shownBy receiver.key sender.key (.tick order busy began ended) := by
    have found := Directory.findSession?_key receives
    have foundOther := Directory.findSession?_key sends
    have among := Parcel.mem_payloads sent listed
    rw [sending] at among
    simp only [shownBy]
    rw [if_pos]
    · exact among
    · exact (Bool.and_eq_true _ _).mpr
        ⟨Option.isSome_iff_exists.mpr ⟨_, found⟩, Option.isSome_iff_exists.mpr ⟨_, foundOther⟩⟩
  rcases shownBy_tick formed order busy began ended receiver.key sender.key with
    nothing | ⟨own, client, other, data', full, key, keyOther, meets, first, payloads, known,
      seen, -⟩
  · rw [nothing] at shown
    cases shown
  · obtain rfl : own = receiver := by
      have there := meets.receives
      rw [Peer.id_eq_of_key key, receives] at there
      exact (Option.some.inj there).symm
    obtain rfl : other = sender := by
      have there := meets.sends
      rw [Peer.id_eq_of_key keyOther, sends] at there
      exact (Option.some.inj there).symm
    obtain rfl : data' = data := Option.some.inj (meets.given.symm.trans given)
    rw [payloads, List.mem_singleton] at shown
    exact ⟨client, full, meets, first, shown, payloads, known, seen⟩

end Tick

theorem applyPayload_encodeUpdate {avatar : Avatar}
    (few : avatar.pose.joints.length ≤ maxJoints) (full : Bool) (held : List Joint) :
    Update.applyPayload held (avatar.encodeUpdate full) = (avatar.update full).applyTo held ∧
      Update.isComplete (avatar.encodeUpdate full) = full := by
  rw [Update.applyPayload, Update.isComplete, Avatar.read_encodeUpdate few]
  exact ⟨rfl, rfl⟩

/-- A receiver that has kept up with a sender holds its snapshot. -/
structure KeptUp (relay : Relay) (sender : SessionKey) (held : List Joint) (current : Bool) :
    Prop where
  formed : relay.directory.WellFormed
  limited : relay.Limited
  follows : current = true → ∃ snapshot, relay.snapshotOf sender = some snapshot ∧
    Joint.AllAlike held snapshot

namespace KeptUp

variable {relay : Relay} {sender : SessionKey} {held : List Joint} {current : Bool}

theorem opened (config : Config) (fanout : Fanout) (sender : SessionKey) :
    (Relay.opened config fanout).KeptUp sender [] false where
  formed := Directory.WellFormed.empty
  limited := limited_opened config fanout
  follows current := by cases current

/-- Every operation leaves a receiver that keeps up in it with the snapshot. -/
theorem apply (kept : relay.KeptUp sender held current) (receiver : SessionKey)
    (operation : Operation) :
    (relay.apply operation).KeptUp sender
      ((relay.shownBy receiver sender operation).foldl Update.applyPayload held)
      (relay.keepsUpBy receiver sender current operation) where
  formed := wellFormed_apply kept.formed operation
  limited := kept.limited.apply kept.formed operation
  follows keeping := by
    cases shown : relay.shownBy receiver sender operation with
    | nil =>
      rw [keepsUpBy, shown] at keeping
      obtain ⟨was, same⟩ := (Bool.and_eq_true _ _).mp keeping
      obtain ⟨snapshot, known, alike⟩ := kept.follows was
      rw [keepsSnapshot, known] at same
      split at same
      · next before after seen seenAfter =>
        cases seen
        exact ⟨after, seenAfter, alike.trans (of_decide_eq_true same)⟩
      · cases same
    | cons payload rest =>
      cases operation with
      | tick order busy began ended =>
        rcases shownBy_tick kept.formed order busy began ended receiver sender with
          nothing | ⟨own, client, other, data, full, -, -, meets, -, payloads, known, seen, taken⟩
        · rw [nothing] at shown
          cases shown
        · obtain ⟨before, there, avatar⟩ := known
          have few := kept.limited there avatar
          obtain ⟨applied, complete⟩ := applyPayload_encodeUpdate few full held
          rw [keepsUpBy, payloads] at keeping
          simp only [List.any_cons, List.any_nil, Bool.or_false, complete,
            Bool.or_eq_true] at keeping
          rw [← shown, payloads]
          refine ⟨_, taken, ?_⟩
          rw [List.foldl_cons, List.foldl_nil, applied]
          apply Avatar.allAlike_applyTo few
          rcases keeping with was | all
          · obtain ⟨snapshot, same, alike⟩ := kept.follows was
            rw [seen] at same
            cases same
            exact Or.inr alike
          · exact Or.inl all
      | connect _ _ | receive _ _ _ | disconnect _ | rewire _ => cases shown

theorem run (kept : relay.KeptUp sender held current) (receiver : SessionKey)
    (operations : List Operation) :
    (relay.run operations).KeptUp sender (relay.holding receiver sender held operations)
      (relay.keepsUp receiver sender current operations) := by
  induction operations generalizing relay held current with
  | nil => exact kept
  | cons operation rest ih => exact ih (kept.apply receiver operation)

end KeptUp

theorem holding_concat (relay : Relay) (receiver sender : SessionKey) (held : List Joint)
    (operations : List Operation) (operation : Operation) :
    relay.holding receiver sender held (operations ++ [operation]) =
      ((relay.run operations).shownBy receiver sender operation).foldl Update.applyPayload
        (relay.holding receiver sender held operations) := by
  induction operations generalizing relay held with
  | nil => rfl
  | cons first rest ih => exact ih _ _

end Relay

/-- What a receiver makes of the updates that it is sent. Beside any run a session applies
every update of another that it is shown to the joints that it holds of it. Each of them can
be read, and leaves as many joints as the pose has. One with every joint leaves the pose
itself, and the first of all has every joint. Any other one leaves the pose, joint by joint,
exactly if the joints that it leaves out were held before; and so they were if the receiver
has kept up with the snapshot since the last update with every joint. -/
theorem joints_of_run (config : Config) (fanout : Fanout) (operations : List Relay.Operation)
    (order : VisitOrder) (busy : SessionKey → Bool) (began ended : Instant) {receiver sender : Peer}
    {data : Client} (receives : (((Relay.opened config fanout).run operations).nextPass order busy
      began).directory.find? receiver.id = some receiver)
    (sends : (((Relay.opened config fanout).run operations).nextPass order busy
      began).directory.find? sender.id = some sender)
    (given : sender.client = some data) {batch : Batch}
    (sent : ⟨receiver.id, .bulkAvatarData batch⟩ ∈
      ((Relay.opened config fanout).run operations).tickMail order busy began)
    {segment : Segment} (listed : segment ∈ batch.segments)
    (sending : segment.sender = sender.id) :
    let start := Relay.opened config fanout
    let held := start.holding receiver.key sender.key [] operations
    let joints := data.avatar.pose.joints
    ∃ update, Update.format.read segment.payload = .ok (update, []) ∧
      let after := update.applyTo held
      start.holding receiver.key sender.key []
        (operations ++ [.tick order busy began ended]) = after ∧
      after.length = joints.length ∧
      (update.full = true → after = joints) ∧
      (start.lastForward receiver.key sender.key operations = none → update.full = true) ∧
      (Joint.AllAlike after joints ↔
        ∀ (index : Nat) (joint : Joint), joints[index]? = some joint →
          update.full = true ∨ data.avatar.jointChanged index joint = true ∨
            (held[index]?.getD default).Alike joint) ∧
      (start.keepsUp receiver.key sender.key false operations = true →
        Joint.AllAlike after joints) := by
  intro start held joints
  have chronicled := (Relay.Chronicled.opened config fanout).run operations
  have kept := (Relay.KeptUp.opened config fanout sender.key).run receiver.key operations
  have formed : (start.run operations).directory.WellFormed := kept.formed
  obtain ⟨client, full, meets, first, payload, shown, ⟨before, there, avatar⟩, seen⟩ :=
    Relay.shownBy_of_segment formed order busy began ended receives sends given sent listed sending
  have few := kept.limited there avatar
  have after : start.holding receiver.key sender.key []
      (operations ++ [.tick order busy began ended]) =
      (data.avatar.update full).applyTo held := by
    rw [Relay.holding_concat, shown, List.foldl_cons, List.foldl_nil]
    exact (Relay.applyPayload_encodeUpdate few full held).1
  refine ⟨data.avatar.update full, ?_, after, Avatar.length_applyTo_update few full held, ?_,
    fun unknown => ?_, Avatar.allAlike_applyTo_iff few full held, fun current => ?_⟩
  · rw [payload]
    exact Avatar.read_encodeUpdate few full
  · rintro (rfl : full = true)
    exact Avatar.applyTo_update_full held
  · -- The receiver has no entry for a sender that it was never forwarded.
    have proper := (start.run operations).proper_nextPass order busy began formed
    obtain ⟨_, -, -, -, present⟩ := proper.present_of_found meets.sends meets.joined
    have entry := chronicled.entry meets
    rw [Option.or_none, unknown] at entry
    exact first ((proper.lastForwarded_visitBefore _ _ present).symm.trans entry)
  · obtain ⟨snapshot, same, alike⟩ := kept.follows current
    rw [seen] at same
    cases same
    exact Avatar.allAlike_applyTo few full (Or.inr alike)

/-- One of two agents moves the second of its two joints. The other held both as they were,
is sent the second one, and holds both as they are now. -/
theorem joints_after_introduction :
    let start := Relay.opened Config.standard (Fanout.ofSeed Config.standard.fanoutSettings 0)
    let still : Joint := ⟨Quat.identity, ⟨0, 1, 0⟩⟩
    let moved : Joint := ⟨Quat.identity, ⟨0, 2, 0⟩⟩
    let update (number : SequenceNumber) (joints : List Joint) :=
      InboundPacket.format.write
        (.avatarData number ⟨⟨1, 0, 0⟩, Quat.identity, 1, none, joints⟩)
    let operations := Relay.introduction ++
      [.receive Relay.secondAgent (update 2 [still, still]) 0,
        .tick .ascending (fun _ => false) 0 0,
        .receive Relay.secondAgent (update 3 [still, moved]) 0]
    let held := start.holding ⟨Relay.firstAgent, 1⟩ ⟨Relay.secondAgent, 2⟩ []
    held operations = [still, still] ∧
      ((start.run operations).shownBy ⟨Relay.firstAgent, 1⟩ ⟨Relay.secondAgent, 2⟩
        (.tick .ascending (fun _ => false) 1 1)).map Update.isComplete = [false] ∧
      Joint.AllAlike (held (operations ++ [.tick .ascending (fun _ => false) 1 1]))
        [still, moved] := by
  intro start still moved update operations held
  let pass := (start.run operations).nextPass .ascending (fun _ => false) 1
  let receiver := (pass.directory.find? Relay.firstAgent).getD (Peer.new Relay.firstAgent .agent 1)
  let sender := (pass.directory.find? Relay.secondAgent).getD (Peer.new Relay.secondAgent .agent 2)
  let data := sender.client.getD (Client.new default)
  have forwarded : Parcel.forwards
      ((start.run operations).tickMail .ascending (fun _ => false) 1) receiver.id
      sender.id = true := by decide +kernel
  obtain ⟨batch, sent, segment, listed, sending⟩ := Parcel.forwards_iff.mp forwarded
  obtain ⟨update, -, after, -, -, -, -, current⟩ :=
    @joints_of_run Config.standard _ operations .ascending (fun _ => false) 1 1 receiver sender data
      (by decide +kernel) (by decide +kernel) (by decide +kernel) batch sent segment listed sending
  have key : receiver.key = ⟨Relay.firstAgent, 1⟩ := by decide +kernel
  have keyOther : sender.key = ⟨Relay.secondAgent, 2⟩ := by decide +kernel
  have joints : data.avatar.pose.joints = [still, moved] := by decide +kernel
  have alike := current (by decide +kernel)
  rw [← after, key, keyOther, joints] at alike
  exact ⟨by decide +kernel, by decide +kernel, alike⟩

end AvatarRelay
