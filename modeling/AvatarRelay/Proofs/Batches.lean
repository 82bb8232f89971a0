/-
# Batches

What one pass sends, peer by peer. One who is served is sent its identity packets and then
at most one batch, and the batch has a segment of exactly those senders for whom every
question of a visit is answered in favor. Everyone else is sent nothing.
-/

import AvatarRelay.Proofs.Passes
import AvatarRelay.Proofs.Updates

namespace AvatarRelay

namespace Directory

/-- The directory of some listed peers; of two with one identifier the first is found. -/
def ofPeers (peers : List Peer) : Directory :=
  ⟨peers.foldr (fun peer map => map.insert peer.id peer) ∅, 0⟩

theorem find?_ofPeers (peers : List Peer) (id : PeerId) :
    (ofPeers peers).find? id = peers.find? (·.id = id) := by
  induction peers with
  | nil => exact find?_empty id
  | cons first rest ih =>
    have inserted : (ofPeers (first :: rest)).find? id =
        if id = first.id then some first else (ofPeers rest).find? id :=
      PeerMap.getElem?_insert_eq _ _ _ _
    rw [inserted, ih, List.find?_cons]
    by_cases here : id = first.id
    · simp [here]
    · simp [here, Ne.symm here]

theorem keyed_ofPeers (peers : List Peer) : (ofPeers peers).Keyed := by
  intro id peer found
  rw [find?_ofPeers] at found
  simpa using List.find?_some found

/-- Peers with different identifiers are all found. -/
theorem find?_ofPeers_of_mem {peers : List Peer} (distinct : (peers.map Peer.id).Nodup)
    {peer : Peer} (listed : peer ∈ peers) : (ofPeers peers).find? peer.id = some peer := by
  rw [find?_ofPeers]
  induction peers with
  | nil => cases listed
  | cons first rest ih =>
    obtain ⟨fresh, distinct⟩ := List.nodup_cons.mp distinct
    rcases List.mem_cons.mp listed with rfl | later
    · simp
    · have apart : first.id ≠ peer.id := by
        intro same
        exact fresh (same ▸ List.mem_map_of_mem later)
      rw [List.find?_cons_of_neg (by simpa using apart), ih distinct later]

theorem find?_ofPeers_eq_some_iff {peers : List Peer} (distinct : (peers.map Peer.id).Nodup)
    {id : PeerId} {peer : Peer} :
    (ofPeers peers).find? id = some peer ↔ peer ∈ peers ∧ peer.id = id := by
  constructor
  · intro found
    refine ⟨?_, keyed_ofPeers peers found⟩
    rw [find?_ofPeers] at found
    exact List.mem_of_find?_eq_some found
  · rintro ⟨listed, rfl⟩
    exact find?_ofPeers_of_mem distinct listed

end Directory

/-- Two peers are heard by each other unless one has its bubble on and they are inside it. -/
theorem Candidate.muted_eq_false_iff {first second : Peer} {client data : Client} :
    (of first client).muted (of second data) = false ↔
      ¬ ((first.bubbleEnabled = true ∨ second.bubbleEnabled = true) ∧
        Bubble.standard.touch client.avatar data.avatar = true) := by
  rw [← Bool.not_eq_true, muted, Bubble.mutes, Bool.and_eq_true, Bool.or_eq_true]
  rfl

namespace Pass

def overPeers (fanout : Fanout) (peers : List Peer) (busy : PeerId → Bool) (now : Instant)
    (transport : Loopback) : Pass where
  fanout := fanout
  order := peers.map Peer.id
  busy := busy
  now := now
  directory := Directory.ofPeers peers
  transport := transport

variable (pass : Pass)

/-- The draw that decides about a sender's admission. -/
def admissionDraw (receiver : Peer) (client : Client) (sender : Peer) (data : Client) :
    Binary32 :=
  ((pass.visitBefore (Candidate.of receiver client) client.receiver
    sender.id).chanceOfAdmission pass.context (Candidate.of sender data)).unit.1

def fullnessDraw (receiver : Peer) (client : Client) (sender : Peer) (data : Client) :
    Binary32 :=
  ((pass.visitBefore (Candidate.of receiver client) client.receiver
    sender.id).chanceOfFullness pass.context (Candidate.of receiver client)
      (Candidate.of sender data)).unit.1

/-- A receiver's full rate distance as it is adjusted at the beginning of its turn. -/
def adjustedDistance (client : Client) : Binary32 :=
  (client.receiver.prepare pass.fanout.settings.controller pass.now).fullRateDistance

/-- A receiver is forwarded a sender: every question of the visit is answered in favor. -/
structure Forwards (receiver : Peer) (client : Client) (sender : Peer) (data : Client) :
    Prop where
  other : sender.id ≠ receiver.id
  agent : sender.role = .agent
  active : pass.transport.hasActiveAddress sender.id = true
  heard : receiver.isIgnoring sender.id = false
  hearing : sender.isIgnoring receiver.id = false
  free : pass.busy sender.id = false
  outside : ¬ ((receiver.bubbleEnabled = true ∨ sender.bubbleEnabled = true) ∧
    Bubble.standard.touch client.avatar data.avatar = true)
  admitted : (client.avatar.position.distanceTo data.avatar.position).numEq 0 = true ∨
    pass.admissionDraw receiver client sender data ≤
      pass.adjustedDistance client / client.avatar.position.distanceTo data.avatar.position
  fresh : Sequence.standing (client.receiver.lastFrom sender.id) data.sender.latest ≠ .heldBack

variable {pass}

theorem fullRateDistance_visitBefore (own : Candidate) (client : Client) (sender : PeerId) :
    (pass.visitBefore own client.receiver sender).receiver.fullRateDistance =
      pass.adjustedDistance client :=
  Visit.fullRateDistance_foldl _ _ _ _

/-- The questions of a visit, asked of the peers themselves. -/
theorem Proper.forwards_iff (proper : pass.Proper) {receiver sender : Peer}
    {client data : Client} (present : Candidate.of sender data ∈ pass.audience)
    (reached : sender.reachable pass.transport = true) :
    (pass.visitBefore (Candidate.of receiver client) client.receiver sender.id).forwards
        pass.context (Candidate.of receiver client) (Candidate.of sender data) = true ↔
      pass.Forwards receiver client sender data := by
  obtain ⟨agent, active⟩ := (Bool.and_eq_true _ _).mp reached
  have admits : (pass.visitBefore (Candidate.of receiver client) client.receiver
      sender.id).admits pass.context (Candidate.of receiver client) (Candidate.of sender data) =
        true ↔
      (client.avatar.position.distanceTo data.avatar.position).numEq 0 = true ∨
        pass.admissionDraw receiver client sender data ≤
          pass.adjustedDistance client /
            client.avatar.position.distanceTo data.avatar.position := by
    rw [Visit.admits, fullRateDistance_visitBefore, Visit.admission_iff]
    rfl
  have last : (pass.visitBefore (Candidate.of receiver client) client.receiver
      sender.id).receiver.lastFrom sender.id = client.receiver.lastFrom sender.id :=
    congrArg (·.getD 0) (proper.lastForwarded_visitBefore (Candidate.of receiver client)
      client.receiver present)
  have sender_id : (Candidate.of sender data).id = sender.id := rfl
  have latest : (Candidate.of sender data).sender.latest = data.sender.latest := rfl
  rw [Visit.forwards_iff, Candidate.apart_eq_false_iff, Candidate.muted_eq_false_iff, admits,
    sender_id, last, latest]
  constructor
  · rintro ⟨⟨other, heard, hearing⟩, free, outside, admitted, fresh⟩
    exact ⟨other, of_decide_eq_true agent, active, heard, hearing, free, outside, admitted, fresh⟩
  · intro forwards
    exact ⟨⟨forwards.other, forwards.heard, forwards.hearing⟩, forwards.free, forwards.outside,
      forwards.admitted, forwards.fresh⟩

/-- What a segment carries: every joint for a receiver without an entry, and otherwise by
chance. -/
theorem Proper.segmentFor_eq (proper : pass.Proper) {receiver sender : Peer}
    {client data : Client} (present : Candidate.of sender data ∈ pass.audience) :
    ∃ full : Bool, (pass.visitBefore (Candidate.of receiver client) client.receiver
        sender.id).segmentFor pass.context (Candidate.of receiver client)
          (Candidate.of sender data) = ⟨sender.id, data.avatar.encodeUpdate full⟩ ∧
      (full = true ↔ client.receiver.lastForwarded[sender.id]? = none ∨
        pass.fullnessDraw receiver client sender data < pass.fanout.settings.fullShare) := by
  refine ⟨_, rfl, ?_⟩
  have entry : (pass.visitBefore (Candidate.of receiver client) client.receiver
      sender.id).receiver.lastForwarded[sender.id]? = client.receiver.lastForwarded[sender.id]? :=
    proper.lastForwarded_visitBefore (Candidate.of receiver client) client.receiver present
  rw [Visit.sendsFull, Visit.fullness_iff, Bool.not_eq_true', Bool.eq_false_iff, ne_eq,
    Std.ExtTreeMap.contains_eq_isSome_getElem?]
  change ¬ (pass.visitBefore (Candidate.of receiver client) client.receiver
    sender.id).receiver.lastForwarded[sender.id]?.isSome = true ∨ _ ↔ _
  rw [entry, Bool.not_eq_true, Option.isSome_eq_false_iff, Option.isNone_iff_eq_none]
  rfl

/-- What a pass leaves in the record of one peer. -/
theorem Proper.link_result (proper : pass.Proper) (id : PeerId) :
    pass.result.1.transport.link id =
      if pass.transport.hasActiveAddress id = true then
        (pass.transport.link id).record pass.transport.historyLimit
          (Parcel.packetsTo id pass.mail)
      else pass.transport.link id := by
  rw [proper.transport_result, Loopback.link_deliverAll]

/-- The senders in a batch stand there in the order of the pass. -/
theorem Proper.senders_visit (proper : pass.Proper) (own : Candidate) (receiver : Receiver) :
    ((pass.visit own receiver).batch.segments.map Segment.sender).Sublist pass.order := by
  obtain ⟨senders, ordered, gathered⟩ := Visit.senders_foldl pass.context own
    (Visit.start (receiver.prepare pass.context.settings.controller pass.context.now)
      (pass.stateBefore own.id).random (pass.stateBefore own.id).counters) pass.audience
  rw [visit, Fanout.visits, gathered]
  exact ordered.trans (Candidate.gather_ids_sublist proper.keyed _ _)

end Pass

namespace Pass

variable {fanout : Fanout} {peers : List Peer} {busy : PeerId → Bool} {now : Instant}
  {transport : Loopback}

theorem find?_overPeers (distinct : (peers.map Peer.id).Nodup) {id : PeerId} {peer : Peer} :
    (overPeers fanout peers busy now transport).directory.find? id = some peer ↔
      peer ∈ peers ∧ peer.id = id :=
  Directory.find?_ofPeers_eq_some_iff distinct

theorem proper_overPeers (distinct : (peers.map Peer.id).Nodup) :
    (overPeers fanout peers busy now transport).Proper :=
  ⟨distinct, Directory.keyed_ofPeers peers⟩

theorem mem_audience_overPeers (distinct : (peers.map Peer.id).Nodup) {own : Candidate} :
    own ∈ (overPeers fanout peers busy now transport).audience ↔
      ∃ peer ∈ peers, ∃ client, peer.reachable transport = true ∧ peer.client = some client ∧
        own = Candidate.of peer client := by
  rw [(proper_overPeers distinct).mem_audience]
  constructor
  · rintro ⟨peer, client, found, -, reached, known, rfl⟩
    exact ⟨peer, ((find?_overPeers distinct).mp found).1, client, reached, known, rfl⟩
  · rintro ⟨peer, listed, client, reached, known, rfl⟩
    exact ⟨peer, client, (find?_overPeers distinct).mpr ⟨listed, rfl⟩,
      List.mem_map_of_mem listed, reached, known, rfl⟩

theorem serves_overPeers {receiver : Peer} (listed : receiver ∈ peers) :
    (overPeers fanout peers busy now transport).serves receiver = true ↔
      busy receiver.id = false ∧ receiver.role = .agent ∧
        transport.hasActiveAddress receiver.id = true := by
  have among : (peers.map Peer.id).contains receiver.id = true :=
    List.contains_iff_mem.mpr (List.mem_map_of_mem listed)
  simp only [serves, overPeers, among, Peer.reachable, Role.carriesAvatar, Bool.true_and,
    Bool.and_eq_true, Bool.not_eq_true', decide_eq_true_eq]

theorem packetsTo_idle (distinct : (peers.map Peer.id).Nodup) {id : PeerId}
    (active : transport.hasActiveAddress id = true)
    (idle : ∀ receiver ∈ peers, receiver.id = id →
      receiver.role ≠ .agent ∨ transport.hasActiveAddress id = false ∨
        receiver.client = none ∨ busy id = true) :
    Parcel.packetsTo id (overPeers fanout peers busy now transport).mail = [] := by
  by_cases joined : id ∈ (overPeers fanout peers busy now transport).audience.map Candidate.id
  · obtain ⟨own, present, rfl⟩ := List.mem_map.mp joined
    obtain ⟨receiver, listed, client, reached, known, rfl⟩ :=
      (mem_audience_overPeers distinct).mp present
    apply (proper_overPeers distinct).packetsTo_of_unserved
      ((find?_overPeers distinct).mpr ⟨listed, rfl⟩)
    rcases idle receiver listed rfl with role | inactive | silent | occupied
    · exact absurd (of_decide_eq_true ((Bool.and_eq_true _ _).mp reached).1) role
    · exact absurd (active.symm.trans inactive) Bool.noConfusion
    · exact Or.inr silent
    · refine Or.inl (Bool.eq_false_iff.mpr fun served => ?_)
      have free := ((serves_overPeers listed).mp served).1
      exact absurd (occupied.symm.trans free) Bool.noConfusion
  · exact packetsTo_mail_of_absent joined

/-- The segments of a batch are those of the senders that the receiver is forwarded. -/
theorem mem_segments_overPeers (distinct : (peers.map Peer.id).Nodup) (receiver : Peer)
    (client : Client) (segment : Segment) :
    let pass := overPeers fanout peers busy now transport
    segment ∈ (pass.visit (Candidate.of receiver client) client.receiver).batch.segments ↔
      ∃ sender ∈ peers, ∃ data full, sender.client = some data ∧
        pass.Forwards receiver client sender data ∧
        segment = ⟨sender.id, data.avatar.encodeUpdate full⟩ ∧
        (full = true ↔ client.receiver.lastForwarded[sender.id]? = none ∨
          pass.fullnessDraw receiver client sender data < fanout.settings.fullShare) := by
  intro pass
  have proper : pass.Proper := proper_overPeers distinct
  rw [proper.mem_batch]
  constructor
  · rintro ⟨other, present, forwarded, rfl⟩
    obtain ⟨sender, among, data, reached, given, rfl⟩ :=
      (mem_audience_overPeers distinct).mp present
    obtain ⟨full, carried, joints⟩ := proper.segmentFor_eq present
    exact ⟨sender, among, data, full, given,
      (proper.forwards_iff present reached).mp forwarded, carried, joints⟩
  · rintro ⟨sender, among, data, full, given, forwards, rfl, joints⟩
    have reached : sender.reachable transport = true := by
      rw [Peer.reachable, forwards.agent]
      exact forwards.active
    have present : Candidate.of sender data ∈ pass.audience :=
      (mem_audience_overPeers distinct).mpr ⟨sender, among, data, reached, given, rfl⟩
    obtain ⟨same, carried, sameJoints⟩ := proper.segmentFor_eq present
    have equal : full = same := Bool.eq_iff_iff.mpr (joints.trans sameJoints.symm)
    refine ⟨Candidate.of sender data, present,
      (proper.forwards_iff present reached).mpr forwards, ?_⟩
    rw [equal]
    exact carried.symm

end Pass

/-- What one pass over some peers sends. Who is not an agent, cannot be reached, has no
client data, or has its data in use is sent nothing. All others are sent identity packets
and then at most one batch. It has each sender at most once, in the order of the peers, and
has those alone for whom every question of a visit is answered in favor; their updates carry
every joint if the receiver has no entry about them, and otherwise by chance. What is read from
the bytes of an update describes the sender's avatar. -/
theorem batches_of_pass (fanout : Fanout) {peers : List Peer}
    (distinct : (peers.map Peer.id).Nodup) (busy : PeerId → Bool) (now : Instant)
    (transport : Loopback) :
    let pass := Pass.overPeers fanout peers busy now transport
    let after :=
      (fanout.pass (peers.map Peer.id) busy now (Directory.ofPeers peers) transport).1.transport
    (∀ id, (∀ receiver ∈ peers, receiver.id = id →
        receiver.role ≠ .agent ∨ transport.hasActiveAddress id = false ∨
          receiver.client = none ∨ busy id = true) →
      after.link id = transport.link id) ∧
    ∀ receiver ∈ peers, ∀ client, receiver.client = some client → receiver.role = .agent →
      transport.hasActiveAddress receiver.id = true → busy receiver.id = false →
      ∃ identities batch,
        (∀ packet ∈ identities, ∃ avatar identity, packet = .avatarIdentity avatar identity) ∧
        after.link receiver.id =
          (transport.link receiver.id).record transport.historyLimit
            (identities ++ if batch.isEmpty then [] else [.bulkAvatarData batch]) ∧
        (batch.segments.map Segment.sender).Sublist (peers.map Peer.id) ∧
        ∀ segment, segment ∈ batch.segments ↔
          ∃ sender ∈ peers, ∃ data full, sender.client = some data ∧
            pass.Forwards receiver client sender data ∧
            segment = ⟨sender.id, data.avatar.encodeUpdate full⟩ ∧
            (full = true ↔ client.receiver.lastForwarded[sender.id]? = none ∨
              pass.fullnessDraw receiver client sender data < fanout.settings.fullShare) ∧
            (data.avatar.pose.joints.length ≤ maxJoints →
              ∃ update, Update.format.read segment.payload = .ok (update, []) ∧
                update.Describes data.avatar full) := by
  intro pass after
  have proper : pass.Proper := Pass.proper_overPeers distinct
  constructor
  · intro id idle
    refine (proper.link_result id).trans ?_
    split
    · next active =>
      have nothing : Parcel.packetsTo id pass.mail = [] :=
        Pass.packetsTo_idle distinct active idle
      rw [nothing]
      rfl
    · rfl
  · intro receiver listed client known agent active free
    have there : pass.directory.find? receiver.id = some receiver :=
      (Pass.find?_overPeers distinct).mpr ⟨listed, rfl⟩
    have served : pass.serves receiver = true :=
      (Pass.serves_overPeers listed).mpr ⟨free, agent, active⟩
    let visit := pass.visit (Candidate.of receiver client) client.receiver
    refine ⟨visit.identities, visit.batch, Pass.identities_visit _ _, ?_,
      proper.senders_visit _ _, fun segment =>
        (Pass.mem_segments_overPeers distinct receiver client segment).trans ?_⟩
    case refine_2 =>
      constructor
      · rintro ⟨sender, among, data, full, given, forwards, rfl, joints⟩
        exact ⟨sender, among, data, full, given, forwards, rfl, joints,
          fun few => Avatar.describes_of_encodeUpdate few full⟩
      · rintro ⟨sender, among, data, full, given, forwards, carried, joints, -⟩
        exact ⟨sender, among, data, full, given, forwards, carried, joints⟩
    refine (proper.link_result receiver.id).trans ?_
    rw [if_pos (by exact active), proper.packetsTo_of_served known there served]
    rfl

/-- Of two agents in one place, each of which has sent an update, the first is sent that of
the second. -/
theorem batches_among_two :
    let client : Client := { Client.new default with sender := Sender.new.accept 1 }
    let first := (Peer.new (PeerId.ofNat 1) .agent 1).withClient client
    let second := (Peer.new (PeerId.ofNat 2) .agent 2).withClient client
    let transport := ((Loopback.new 0).setAddress first.id true).setAddress second.id true
    let fanout := Fanout.ofSeed ⟨5000, 60, 0, 0⟩ 0
    let after := (fanout.pass [first.id, second.id] (fun _ => false) 0
      (Directory.ofPeers [first, second]) transport).1.transport
    ∃ identities batch, ⟨second.id, client.avatar.encodeUpdate true⟩ ∈ batch.segments ∧
      after.link first.id =
        (transport.link first.id).record 0 (identities ++ [.bulkAvatarData batch]) := by
  intro client first second transport fanout after
  have distinct : ([first, second].map Peer.id).Nodup := by decide +kernel
  obtain ⟨-, sent⟩ := batches_of_pass fanout distinct (fun _ => false) 0 transport
  obtain ⟨identities, batch, -, recorded, -, listed⟩ :=
    sent first List.mem_cons_self client rfl rfl (by decide +kernel) rfl
  have forwards : (Pass.overPeers fanout [first, second] (fun _ => false) 0
      transport).Forwards first client second client :=
    { other := by decide +kernel
      agent := rfl
      active := by decide +kernel
      heard := by decide +kernel
      hearing := by decide +kernel
      free := rfl
      outside := by decide +kernel
      admitted := Or.inl (by decide +kernel)
      fresh := by decide +kernel }
  have present : ⟨second.id, client.avatar.encodeUpdate true⟩ ∈ batch.segments :=
    (listed _).mpr ⟨second, List.mem_cons_of_mem _ List.mem_cons_self, client, true, rfl,
      forwards, rfl, by decide +kernel, fun few => Avatar.describes_of_encodeUpdate few true⟩
  have filled : batch.isEmpty = false :=
    Bool.eq_false_iff.mpr fun empty => List.ne_nil_of_mem present (List.isEmpty_iff.mp empty)
  rw [filled] at recorded
  exact ⟨identities, batch, present, recorded⟩

end AvatarRelay
